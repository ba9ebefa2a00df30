import Walkthrough.Proofs.Drive
import Walkthrough.Proofs.GroupRun
import Walkthrough.Proofs.Turn

/-!
Visits: the single executions of steps that a run is made of, and how a run plans them. What is
planned depends on the page alone, whatever is done in the visits.
-/
namespace Walkthrough

/-- One execution of a step. `place` is that of its step among all steps and `pass` the number of
the pass, in a group. `ready` makes sure that the element is there, which changes nothing. -/
structure Visit where
  step : Step
  place : Nat
  pass : Option Nat := none
  query : Option Query
  ctx : Context
  ready : Run Unit := Act.pure ()
  ready_state : ∀ w, (ready w).state = w := by intro w; rfl
  ready_error : ∀ w e, (ready w).result = .error e → e.TooFew := by intro w e h; cases h

namespace Visit

/-- Does a visit once its element is there. -/
def run (act : Visit → Run Unit) (v : Visit) : Run Unit := Act.bind v.ready fun _ => act v

/-- A way of running steps as a way of doing visits, without what it logs. -/
def doneBy (once : Runner) (v : Visit) : Run Unit := Act.unlogged (once v.step v.query v.ctx)

theorem doneBy_of_suffix (engine : Engine) {v : Visit} {suffix : String}
    (hs : v.ctx.suffix = .ok suffix) :
    v.doneBy (Step.runOnce engine) = Act.unlogged
      (Recorder.withStep (v.step.title ++ suffix) (v.step.body engine v.query v.ctx)) := by
  rw [doneBy, Step.runOnce_of_suffix hs]

theorem doneBy_of_no_suffix (engine : Engine) {v : Visit} {e : Failure}
    (hs : v.ctx.suffix = .error e) : v.doneBy (Step.runOnce engine) = Act.fail e := by
  rw [doneBy, Step.runOnce_of_no_suffix hs, Act.unlogged_fail]

end Visit

/-- A part of a run: what the page is asked, which visits its answer leads to, and the steps that
are skipped if one of them fails. -/
structure Plan where
  asks : List Mark := []
  visits : Page → List Visit
  behind : List Step := []

/-- Skips some steps and fails. -/
def giveUp {α : Type} (behind : List Step) (e : Failure) : Run α :=
  Act.bind (Act.unlogged (skipSteps behind)) fun _ => Act.fail e

/-- Skips some steps if an act fails, and fails all the same. -/
def orSkip {α : Type} (behind : List Step) (x : Run α) : Run α := Act.handle x (giveUp behind)

namespace Plan

/-- Asks the page. -/
def ask (p : Plan) : Run Page := fun w => ⟨.ok w.scene.page, w, p.asks, []⟩

/-- Asks the page and makes the visits. -/
def run (act : Visit → Run Unit) (p : Plan) : Run Unit :=
  Act.bind p.ask fun page => Act.each (p.visits page) (Visit.run act)

def follow (act : Visit → Run Unit) (p : Plan) : Run Unit := orSkip p.behind (p.run act)

theorem run_eq (act : Visit → Run Unit) (p : Plan) (w : Walk) :
    p.run act w = (Act.each (p.visits w.scene.page) (Visit.run act) w).after
      (⟨.ok (), w, p.asks, []⟩ : Outcome Walk Unit) := rfl

end Plan

/-- Nothing is done to a step. -/
def Runner.idle : Runner := fun _ _ _ => Act.pure ()

namespace Step

variable {once : Runner} {s : Step} {ctx : Context} {q : Query}

/-- The query that says how often a step is repeated, if it is. -/
def repeats? (s : Step) : Option Query := if s.iterate then Query.ofStep? s none else none

theorem repetition_idle (hk : q.kind = s.selectorKind.name) (ctx : Context) (total index : Nat)
    (w : Walk) :
    let o := s.repetition Runner.idle q ctx total index w
    o.state = w ∧ ∀ e, o.result = .error e → e.TooFew := by
  unfold repetition
  dsimp only
  cases s.index.isSome with
  | true => exact ⟨rfl, fun e he => by cases he⟩
  | false =>
    obtain ⟨hstate, hres⟩ := StepRun.ensureAvailable_eq (q := q.withIndex (some index)) hk index
      s!"Step '{s.title}' iteration {index + 1}/{total}" [("step", .str s.title)] w
    simp only [Bool.false_eq_true, if_false, Act.bind_eq]
    split at hres
    · rw [Act.bind_of_ok hres]
      exact ⟨hstate, fun e he => by cases he⟩
    · obtain ⟨e, hfew, hres⟩ := hres
      rw [Act.bind_of_error hres]
      refine ⟨hstate, fun e' he => ?_⟩
      cases he
      exact hfew

/-- The visit of one repetition. -/
def repetitionVisit (s : Step) (place : Nat) (ctx : Context) (total index : Nat) : Visit where
  step := s
  place
  query := Query.ofStep? s (some index)
  ctx := ctx.repetition index total none
  ready :=
    match Query.ofStep? s none with
    | some q => Act.unlogged (s.repetition Runner.idle q ctx total index)
    | none => Act.pure ()
  ready_state w := by
    cases h : Query.ofStep? s none with
    | none => rfl
    | some q => exact (repetition_idle (Query.kind_ofStep? h) ctx total index w).1
  ready_error w e he := by
    cases h : Query.ofStep? s none with
    | none => rw [h] at he; cases he
    | some q =>
      rw [h] at he
      exact (repetition_idle (Query.kind_ofStep? h) ctx total index w).2 e he

/-- A step is visited once, or once for each element that its query finds. -/
def plan (s : Step) (place : Nat) (ctx : Context) (behind : List Step) : Plan :=
  match s.repeats? with
  | some q => {
      asks := [.query (s.selectorKind.key q.selector)]
      visits := fun p =>
        let total := (q.found s.selectorKind p).length
        (List.range total).map (s.repetitionVisit place ctx total)
      behind }
  | none => { visits := fun _ => [{ step := s, place, query := Query.ofStep? s none, ctx }], behind }

theorem ofStep?_of_repeats? (h : s.repeats? = some q) : Query.ofStep? s none = some q := by
  unfold repeats? at h
  split at h
  · exact h
  · cases h

theorem runBy_of_repeats? (h : s.repeats? = some q) :
    s.runBy once ctx = s.runForEach once q ctx := by
  have hq := ofStep?_of_repeats? h
  unfold repeats? at h
  split at h
  · rename_i hi
    simp only [runBy, hi, hq]
  · cases h

theorem runBy_of_no_repeats (h : s.repeats? = none) :
    s.runBy once ctx = once s (Query.ofStep? s none) ctx := by
  unfold repeats? at h
  unfold runBy
  split
  · rename_i q hi hq
    rw [hi, hq] at h
    cases h
  · rfl

/-- Each repetition is that of the step's own index, or else that of its number. -/
theorem ofStep?_withIndex (h : Query.ofStep? s none = some q) (index : Nat) :
    Query.ofStep? s (some index) =
      some (if s.index.isSome then q else q.withIndex (some index)) := by
  unfold Query.ofStep? Query.of? at h ⊢
  obtain ⟨selector, hs, rfl⟩ := Option.map_eq_some_iff.mp h
  rw [hs]
  cases s.index <;> rfl

/-- A repetition makes sure of its element first. -/
theorem repetition_eq (once : Runner) (place : Nat) (h : Query.ofStep? s none = some q)
    (ctx : Context) (total index : Nat) :
    Act.unlogged (s.repetition once q ctx total index) =
      (s.repetitionVisit place ctx total index).run (Visit.doneBy once) := by
  unfold Visit.run repetitionVisit repetition Visit.doneBy Runner.idle
  dsimp only
  rw [ofStep?_withIndex h, h]
  cases s.index.isSome with
  | true => rfl
  | false =>
    simp only [Bool.false_eq_true, if_false, Act.bind_eq, Act.unlogged_bind, Act.bind_assoc]
    rfl

end Step

namespace StepRun

/-- The first step of a group and the query that says how often the group is repeated, if it is. -/
def drives? (r : StepRun) : Option (Step × Query) :=
  match r.group with
  | some _ => r.steps.head?.bind fun s => (Query.ofStep? s none).map (s, ·)
  | none => none

theorem passStep_idle (r : StepRun) (ctx : Context) (total index : Nat) (s : Step) (w : Walk) :
    let o := r.passStep Runner.idle ctx total index s w
    o.state = w ∧ ∀ e, o.result = .error e → e.TooFew := by
  unfold passStep
  rw [Act.bind_eq]
  obtain ⟨hstate, ⟨-, hres⟩ | ⟨-, e, hfew, hres⟩⟩ := scopedQuery_cases r s index total w
  · rw [Act.bind_of_ok hres]
    exact ⟨hstate, fun e he => by cases he⟩
  · rw [Act.bind_of_error hres]
    refine ⟨hstate, fun e' he => ?_⟩
    cases he
    exact hfew

/-- The visit of one step in a pass. -/
def passVisit (r : StepRun) (ctx : Context) (total index : Nat) (s : Step) (place : Nat) :
    Visit where
  step := s
  place
  pass := some index
  query := Query.ofStep? s (some index)
  ctx := ctx.repetition index total r.group
  ready := Act.unlogged (r.passStep Runner.idle ctx total index s)
  ready_state w := (passStep_idle r ctx total index s w).1
  ready_error w := (passStep_idle r ctx total index s w).2

/-- The visits of one pass. The first step stands at the place `first`. -/
def passVisits (r : StepRun) (first : Nat) (ctx : Context) (total index : Nat) : List Visit :=
  (r.steps.zipIdx first).map fun x => r.passVisit ctx total index x.1 x.2

/-- The visits of so many passes. -/
def passes (r : StepRun) (first : Nat) (ctx : Context) (total : Nat) : List Visit :=
  (List.range total).flatMap (r.passVisits first ctx total)

/-- A group is one plan if its first step has a query; otherwise each step has a plan of its own,
which is made when the step comes up. -/
def plans (r : StepRun) (first : Nat) (ctx : Context) (behind : List Step) : List Plan :=
  match r.drives? with
  | some (s, q) => [{
      asks := [.query (s.selectorKind.key q.selector)]
      visits := fun p => r.passes first ctx (q.found s.selectorKind p).length
      behind }]
  | none => (r.steps.zipIdx first).map fun x => x.1.plan x.2 ctx behind

/-- A step of a pass makes sure of its element first. -/
theorem passStep_eq (once : Runner) (r : StepRun) (ctx : Context) (total index : Nat)
    (s : Step) (place : Nat) :
    Act.unlogged (r.passStep once ctx total index s) =
      (r.passVisit ctx total index s place).run (Visit.doneBy once) := by
  unfold Visit.run passVisit passStep Visit.doneBy Runner.idle
  simp only [Act.bind_eq]
  rw [scopedQuery_bind, Act.unlogged_bind, Act.unlogged_bind, Act.bind_assoc]
  rfl

theorem each_zipIdx (steps : List Step) (first : Nat) (f : Step → Run Unit) :
    Act.each (steps.zipIdx first) (fun x => f x.1) = Act.each steps f := by
  have hmap : (steps.zipIdx first).map Prod.fst = steps := List.zipIdx_map_fst _ _
  calc Act.each (steps.zipIdx first) (fun x => f x.1)
      = Act.each ((steps.zipIdx first).map Prod.fst) f := by rw [Act.each_map]; rfl
    _ = Act.each steps f := by rw [hmap]

theorem pass_eq (once : Runner) (r : StepRun) (first : Nat) (ctx : Context) (total index : Nat) :
    Act.unlogged (r.pass once ctx total index) =
      Act.each (r.passVisits first ctx total index) (Visit.run (Visit.doneBy once)) := by
  unfold pass passVisits
  rw [← each_zipIdx r.steps first, Act.unlogged_each, Act.each_map]
  exact Act.each_congr fun x _ => passStep_eq once r ctx total index x.1 x.2

end StepRun

section Following

variable {once : Runner} {ctx : Context} {q : Query} {s : Step} {behind : List Step} {w : Walk}

theorem Run.onScene_count (hk : q.kind = s.selectorKind.name) (w : Walk) :
    onScene q.count w = ⟨.ok (q.found s.selectorKind w.scene.page).length, w,
      [.query (s.selectorKind.key q.selector)], []⟩ := by
  unfold onScene Act.zoom
  rw [Query.count_eq hk]

/-- What is done for each element of a query, once these are counted. -/
theorem Run.count_then {α : Type} (hk : q.kind = s.selectorKind.name) (f : Nat → Run α)
    (w : Walk) :
    Act.unlogged (Act.bind (onScene q.count) f) w =
      (Act.unlogged (f (q.found s.selectorKind w.scene.page).length) w).after
        ⟨.ok (), w, [.query (s.selectorKind.key q.selector)], []⟩ := by
  have hcount := onScene_count hk w
  rw [Act.unlogged_bind, Act.bind_of_ok (a := (q.found s.selectorKind w.scene.page).length)
    (by simp only [Act.unlogged, hcount])]
  simp only [Act.unlogged, hcount]
  rfl

/-- But for its log lines, a step follows its plan. -/
theorem Step.runBy_eq (once : Runner) (s : Step) (place : Nat) (ctx : Context)
    (behind : List Step) :
    Act.unlogged (s.runBy once ctx) = (s.plan place ctx behind).run (Visit.doneBy once) := by
  funext w
  cases h : s.repeats? with
  | none =>
    rw [runBy_of_no_repeats h]
    rw [Plan.run_eq]
    simp only [plan, h, Visit.run, Act.each_singleton, Act.pure_bind, Visit.doneBy]
    rfl
  | some q =>
    have hq := ofStep?_of_repeats? h
    have heach : ∀ total,
        Act.unlogged (Act.each (List.range total) (s.repetition once q ctx total)) =
          Act.each ((List.range total).map (s.repetitionVisit place ctx total))
            (Visit.run (Visit.doneBy once)) := by
      intro total
      rw [Act.unlogged_each, Act.each_map]
      exact Act.each_congr fun i _ => repetition_eq once place hq ctx total i
    rw [runBy_of_repeats? h, runForEach, Act.bind_eq, Run.count_then (Query.kind_ofStep? hq)]
    rw [Plan.run_eq]
    simp only [plan, h]
    split
    · rename_i hnone
      rw [hnone]
      rfl
    · rw [heach]

theorem StepRun.drives?_eq_some {r : StepRun} (h : r.drives? = some (s, q)) :
    (∃ g, r.group = some g) ∧ (∃ rest, r.steps = s :: rest) ∧ Query.ofStep? s none = some q := by
  unfold drives? at h
  split at h
  · rename_i g hg
    cases hs : r.steps with
    | nil => simp [hs] at h
    | cons first rest =>
      cases hq : Query.ofStep? first none with
      | none => simp [hs, hq] at h
      | some q' =>
        simp only [hs, hq, List.head?_cons, Option.bind_some, Option.map_some, Option.some.injEq,
          Prod.mk.injEq] at h
        obtain ⟨rfl, rfl⟩ := h
        exact ⟨⟨g, hg⟩, ⟨rest, rfl⟩, hq⟩
  · cases h

/-- Without a query for the whole group its steps are run one after the other. -/
theorem StepRun.runBy_of_no_drives {r : StepRun} {g : String} (hg : r.group = some g)
    (h : r.drives? = none) :
    Act.unlogged (r.runBy once ctx) = Act.bind
      (Act.unlogged (Act.each r.steps fun s => s.runBy once ctx)) fun _ => Act.pure 0 := by
  unfold runBy
  cases hs : r.steps with
  | nil => rfl
  | cons first rest =>
    have hq : Query.ofStep? first none = none := by
      simpa [drives?, hg, hs] using h
    simp only [hq, Act.bind_eq, Act.unlogged_bind, Act.unlogged_log, Act.pure_bind]
    rfl

/-- With a query for the whole group all its steps are run once for each element. -/
theorem StepRun.runBy_of_drives (once : Runner) (ctx : Context) {r : StepRun}
    (h : r.drives? = some (s, q)) (w : Walk) :
    Act.bind (Act.unlogged (r.runBy once ctx)) (fun _ => Act.pure ()) w =
      (Act.unlogged (Act.each (List.range (q.found s.selectorKind w.scene.page).length)
        (r.pass once ctx (q.found s.selectorKind w.scene.page).length)) w).after
          ⟨.ok (), w, [.query (s.selectorKind.key q.selector)], []⟩ := by
  obtain ⟨-, ⟨rest, hs⟩, hq⟩ := drives?_eq_some h
  have hruns : r.runBy once ctx = Act.bind (Run.onScene q.count) fun total =>
      if total = 0 then
        Act.bind (Act.log .warning Step.logName
          (s!"Iterative group '{r.groupText}': '" ++ q.describe ++
            "' matched nothing; skipping group")) fun _ => Act.pure 0
      else Act.bind (Act.each (List.range total) (r.pass once ctx total)) fun _ =>
        Act.pure total := by
    unfold runBy
    simp only [hs, hq]
    rfl
  have hpure : (fun _ => Act.pure () : Nat → Run Unit) =
      fun n => Act.unlogged ((fun _ => Act.pure ()) n) := rfl
  rw [hruns, hpure, ← Act.unlogged_bind, Act.bind_assoc,
    Run.count_then (Query.kind_ofStep? hq)]
  split
  · rename_i hnone
    rw [hnone]
    rfl
  · rw [Act.bind_assoc]
    congr 2
    exact Act.bind_pure _

/-- But for its log lines, a run of steps follows its plans. -/
theorem Scenario.runPart_eq (once : Runner) (ctx : Context) (r : StepRun) (first : Nat)
    (behind : List Step) :
    Act.unlogged (runPart once ctx r) =
      Act.each (r.plans first ctx behind) (Plan.run (Visit.doneBy once)) := by
  cases h : r.drives? with
  | none =>
    have hsteps : Act.each (r.plans first ctx behind) (Plan.run (Visit.doneBy once)) =
        Act.unlogged (Act.each r.steps fun s => s.runBy once ctx) := by
      simp only [StepRun.plans, h]
      rw [← StepRun.each_zipIdx r.steps first, Act.unlogged_each, Act.each_map]
      exact Act.each_congr fun x _ => (Step.runBy_eq once x.1 x.2 ctx behind).symm
    rw [hsteps]
    unfold runPart
    cases hg : r.group with
    | none => rfl
    | some g =>
      simp only [Act.bind_eq]
      rw [Act.unlogged_bind, StepRun.runBy_of_no_drives hg h, Act.bind_assoc]
      exact Act.bind_pure _
  | some x =>
    obtain ⟨s, q⟩ := x
    obtain ⟨⟨g, hg⟩, -, -⟩ := StepRun.drives?_eq_some h
    have hpasses : ∀ total, Act.unlogged (Act.each (List.range total) (r.pass once ctx total)) =
        Act.each (r.passes first ctx total) (Visit.run (Visit.doneBy once)) := by
      intro total
      unfold StepRun.passes
      rw [Act.unlogged_each, Act.each_flatMap]
      exact Act.each_congr fun i _ => StepRun.pass_eq once r first ctx total i
    have hplans : r.plans first ctx behind = [{
        asks := [.query (s.selectorKind.key q.selector)]
        visits := fun p => r.passes first ctx (q.found s.selectorKind p).length
        behind }] := by
      simp only [StepRun.plans, h]
    funext w
    unfold runPart
    simp only [hg, Act.bind_eq]
    have hruns := StepRun.runBy_of_drives once ctx h w
    rw [hpasses] at hruns
    rw [Act.unlogged_bind, hplans, Act.each_singleton]
    exact hruns

/-- What becomes of two acts one after the other becomes of each of them. -/
theorem orSkip_bind {α β : Type} (behind : List Step) (x : Run α) (f : α → Run β) :
    orSkip behind (Act.bind x f) = Act.bind (orSkip behind x) fun a => orSkip behind (f a) := by
  funext w
  unfold orSkip
  cases h : (x w).result with
  | ok a =>
    rw [Act.bind_of_ok (a := a) (by rw [Act.handle_of_ok h]; exact h), Act.handle_of_ok h]
    cases hf : (f a (x w).state).result with
    | ok b =>
      rw [Act.handle_of_ok hf, Act.handle_of_ok (a := b) (by rw [Act.bind_of_ok h]; exact hf),
        Act.bind_of_ok h]
    | error e =>
      rw [Act.handle_of_error hf, Act.handle_of_error (e := e) (by rw [Act.bind_of_ok h]; exact hf),
        Act.bind_of_ok h, Outcome.after_assoc]
      rfl
  | error e =>
    cases hskip : Act.unlogged (skipSteps behind) (x w).state with
    | mk result state trace logs =>
      cases result <;> simp [giveUp, Act.handle, Act.bind, Act.fail, h, hskip]

theorem orSkip_each {β : Type} (behind : List Step) (xs : List β) (f : β → Run Unit) :
    orSkip behind (Act.each xs f) = Act.each xs fun x => orSkip behind (f x) := by
  induction xs with
  | nil => rfl
  | cons x xs ih =>
    simp only [Act.each, orSkip_bind, ih]

/-- The plans of some runs of steps, the first of which begins at the place `first`. -/
def Scenario.agenda (ctx : Context) (first : Nat) : List StepRun → List Plan
  | [] => []
  | r :: rest =>
    r.plans first ctx (rest.flatMap StepRun.steps) ++ agenda ctx (first + r.steps.length) rest

theorem StepRun.behind_of_mem_plans {r : StepRun} {first : Nat} {p : Plan}
    (h : p ∈ r.plans first ctx behind) : p.behind = behind := by
  unfold plans at h
  split at h
  · cases List.mem_singleton.mp h
    rfl
  · obtain ⟨x, -, rfl⟩ := List.mem_map.mp h
    unfold Step.plan
    split <;> rfl

/-- But for its log lines, a run of all steps follows its plans. -/
theorem Scenario.driveBy_eq (once : Runner) (steps : List Step) (ctx : Context) :
    Act.unlogged (driveBy once steps ctx) =
      Act.each (agenda ctx 0 (StepRun.ofSteps steps)) (Plan.follow (Visit.doneBy once)) := by
  unfold driveBy
  generalize StepRun.ofSteps steps = runs
  generalize 0 = first
  induction runs generalizing first with
  | nil => rfl
  | cons r rest ih =>
    have hpart : Act.unlogged (Act.handle (runPart once ctx r) fun e =>
        Act.bind (skipAll rest) fun _ => Act.fail e) =
        Act.each (r.plans first ctx (rest.flatMap StepRun.steps))
          (Plan.follow (Visit.doneBy once)) := by
      calc Act.unlogged (Act.handle (runPart once ctx r) fun e =>
            Act.bind (skipAll rest) fun _ => Act.fail e)
          = orSkip (rest.flatMap StepRun.steps) (Act.unlogged (runPart once ctx r)) := by
            rw [Act.unlogged_handle]
            unfold orSkip
            congr 1
            funext e
            rw [Act.unlogged_bind]
            rfl
        _ = Act.each (r.plans first ctx (rest.flatMap StepRun.steps))
              fun p => orSkip (rest.flatMap StepRun.steps) (p.run (Visit.doneBy once)) := by
            rw [runPart_eq once ctx r first (rest.flatMap StepRun.steps), orSkip_each]
        _ = _ := Act.each_congr fun p hp => by
            rw [Plan.follow, StepRun.behind_of_mem_plans hp]
    rw [runParts_cons, Act.unlogged_bind, hpart, agenda, Act.each_append, ih]

end Following
end Walkthrough
