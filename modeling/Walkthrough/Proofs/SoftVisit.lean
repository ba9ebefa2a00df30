import Walkthrough.Proofs.Course
import Walkthrough.Proofs.Softening

/-!
Visits of softer steps: they come to the same as visits of the steps themselves, until a check made
soft fails its assertion. Both are recorded then, one with the error and one with a soft failure.
-/
namespace Walkthrough

/-- The visit of another step in the place of a step. -/
def Visit.withStep (v : Visit) (s' : Step) : Visit := { v with step := s' }

@[simp] theorem Visit.withStep_step (v : Visit) (s' : Step) : (v.withStep s').step = s' := rfl

@[simp] theorem Visit.withStep_ready (v : Visit) (s' : Step) : (v.withStep s').ready = v.ready := rfl

/-- A visit of a step made softer. -/
def Visit.Softened (v v' : Visit) : Prop := ∃ s', v.step.Softened s' ∧ v' = v.withStep s'

/-- What a visit does before check number `n`. -/
def Visit.upTo (engine : Engine) (v : Visit) (n : Nat) : Run Unit :=
  Act.bind (Act.ofExcept v.ctx.suffix) fun suffix =>
    Act.bind (Recorder.openStep (v.step.title ++ suffix)) fun _ =>
      v.step.upTo engine v.query v.ctx n

/-- Check number `n` parts a visit that begins in a state from that of a softer step. -/
def Visit.PartsAt (engine : Engine) (v : Visit) (s' : Step) (w : Walk) (n : Nat) (c : Check)
    (e : Failure) : Prop :=
  Check.Parts engine v.query v.ctx v.step.checks s'.checks n (v.upTo engine n w) c e

/-- A record that ended with an error, and another one of the same step that has the error's message
among its soft failures. -/
structure StepRecord.Noted (e : Failure) (x y : StepRecord) : Prop where
  title : y.title = x.title
  startTime : y.startTime = x.startTime
  ended : x.EndedWith (some e.text)
  failed : y.status = .failed
  noted : ∃ later, y.softFailures = x.softFailures ++ e.message :: later

namespace Recorder

variable {w : Walk} {title : String} {body body' : Run Unit} {e : Failure}

theorem withStep_failed (hopen : (openStep title w).result = .ok ())
    (hfailed : (body (openStep title w).state).result = .error e) :
    ∃ e', (withStep title body w).result = .error e' := by
  obtain ⟨hresult, -, -⟩ := withStep_of_begun hopen body
  rw [hfailed] at hresult
  cases hended : (closeStep (position w) (failure? (.error e))
      (body (openStep title w).state).state).result with
  | error e' => exact ⟨e', by rw [hresult, hended]; rfl⟩
  | ok _ => exact ⟨e, by rw [hresult, hended]; rfl⟩

theorem withStep_failed_quiet (hw : w.Quiet) (hbody : Act.Within Walk.StaysQuiet body)
    (hfailed : (body (openStep title w).state).result = .error e) :
    (withStep title body w).result = .error e := by
  obtain ⟨hopen, hquiet⟩ := openStep_quiet hw title
  obtain ⟨hresult, -, -⟩ := withStep_of_begun hopen body
  obtain ⟨hended, -⟩ := closeStep_quiet (hbody _ hquiet) (position w) (some e)
  rw [hfailed] at hresult
  rw [hresult]
  show Except.bind (closeStep (position w) (some e) _).result _ = _
  rw [hended]
  rfl

theorem interactions_withStep (hopen : (openStep title w).result = .ok ()) (body : Run Unit) :
    interactions (withStep title body w).trace =
      interactions (body (openStep title w).state).trace := by
  obtain ⟨-, -, htrace⟩ := withStep_of_begun hopen body
  have hbegun : interactions (openStep title w).trace = [] :=
    interactions_eq_nil (change_trace _ _ _ w)
  have hended : ∀ error v, interactions (closeStep (position w) error v).trace = [] :=
    fun error v => interactions_eq_nil (change_trace _ _ _ v)
  rw [htrace, interactions_append, interactions_append, hbegun, hended, List.nil_append,
    List.append_nil]

theorem status_closed_of_softFailures (x : StepRecord) (now : Int) (error : Option String)
    (h : x.softFailures ≠ []) : (x.closed now error).status = .failed := by
  unfold StepRecord.closed
  cases error with
  | some e => rfl
  | none =>
    have hfull : x.softFailures.isEmpty = false := by simpa using h
    simp only [hfull]
    rfl

/-- The records of two acts, one of which failed where the other one noted the failure. -/
theorem withStep_noted {r : Recorder} (hr : w.recorder = some r)
    (hopen : (openStep title w).result = .ok ()) (hbody : Act.Within Walk.Softened body)
    (hfailed : (body (openStep title w).state).result = .error e)
    (hnoted : ∃ later : List String, (body' (openStep title w).state).state.recorder =
      (body (openStep title w).state).state.recorder.map fun r =>
        (e.message :: later).foldl Recorder.softening r) :
    ∃ r₁ r₂ x y, (withStep title body w).state.recorder = some r₁ ∧
      (withStep title body' w).state.recorder = some r₂ ∧
      r₁.account.steps = r.account.steps ++ [x] ∧ r₂.account.steps = r.account.steps ++ [y] ∧
      StepRecord.Noted e x y := by
  have hposition : position w = r.account.steps.length := by rw [position, hr]; rfl
  obtain ⟨-, hstate, -⟩ := withStep_of_begun hopen body
  obtain ⟨-, hstate', -⟩ := withStep_of_begun hopen body'
  have hbegun := openStep_recorder hr title
  obtain ⟨ms, hms⟩ := hbody (openStep title w).state
  obtain ⟨later, hlater⟩ := hnoted
  rw [hbegun, Option.map_some] at hms
  rw [hms, Option.map_some] at hlater
  have hinside := (inside_opening r title w.scene.clock).foldl_softening ms
  have hinside' := hinside.foldl_softening (e.message :: later)
  rw [hposition, hfailed] at hstate
  rw [hposition] at hstate'
  have hclosed := closeStep_recorder hms r.account.steps.length (failure? (.error e))
  have hclosed' := closeStep_recorder hlater r.account.steps.length
    (failure? (body' (openStep title w).state).result)
  rw [← hstate] at hclosed
  rw [← hstate'] at hclosed'
  refine ⟨_, _, _, _, hclosed, hclosed', hinside.closing _ _, hinside'.closing _ _, ?_⟩
  refine ⟨rfl, rfl, ?_, ?_, later, rfl⟩
  · exact StepRecord.closed_endedWith _ _ _ _ _
  · exact status_closed_of_softFailures _ _ _ (by simp)

end Recorder

namespace Visit

variable {engine : Engine} {v : Visit} {s' : Step} {w : Walk} {n : Nat} {c : Check} {e : Failure}
  {suffix : String}

theorem upTo_of_begun (engine : Engine) (hs : v.ctx.suffix = .ok suffix)
    (hopen : (Recorder.openStep (v.step.title ++ suffix) w).result = .ok ()) (n : Nat) :
    v.upTo engine n w =
      (v.step.upTo engine v.query v.ctx n (Recorder.openStep (v.step.title ++ suffix) w).state).after
        (Recorder.openStep (v.step.title ++ suffix) w) := by
  unfold upTo
  rw [hs]
  exact Act.bind_of_ok hopen

theorem begun_of_upTo (h : (v.upTo engine n w).result = .ok ()) :
    ∃ suffix, v.ctx.suffix = .ok suffix ∧
      (Recorder.openStep (v.step.title ++ suffix) w).result = .ok () := by
  obtain ⟨suffix, hs, hrest⟩ := Act.ok_of_bind h
  rw [Act.ofExcept_eq] at hs
  obtain ⟨_, hopen, -⟩ := Act.ok_of_bind hrest
  rw [Act.ofExcept_eq] at hopen
  exact ⟨suffix, hs, hopen⟩

theorem doneBy_withStep (engine : Engine) (hs : v.ctx.suffix = .ok suffix)
    (h : v.step.Softened s') :
    (v.withStep s').doneBy (Step.runOnce engine) = Act.unlogged
      (Recorder.withStep (v.step.title ++ suffix) (s'.body engine v.query v.ctx)) := by
  rw [← h.title]
  exact doneBy_of_suffix engine (v := v.withStep s') hs

/-- A visit of a softer step does the same, or a check parts the two. -/
theorem doneBy_softened (hplugins : engine.plugins.IgnoresSoft) (h : v.step.Softened s')
    (w : Walk) :
    (v.withStep s').doneBy (Step.runOnce engine) w =
      v.doneBy (Step.runOnce engine) w ∨ ∃ n c e, v.PartsAt engine s' w n c e := by
  cases hs : v.ctx.suffix with
  | error e =>
    refine Or.inl ?_
    rw [doneBy_of_no_suffix engine hs, doneBy_of_no_suffix engine (v := v.withStep s') hs]
  | ok suffix =>
    rw [doneBy_of_suffix engine hs, doneBy_withStep engine hs h]
    cases hopen : (Recorder.openStep (v.step.title ++ suffix) w).result with
    | error e =>
      refine Or.inl ?_
      unfold Act.unlogged
      rw [Recorder.withStep_eq, Recorder.withStep_eq, Act.bind_of_error hopen,
        Act.bind_of_error hopen]
    | ok _ =>
      obtain hsame | ⟨n, c, e, hparts⟩ := Step.body_softened hplugins h v.query v.ctx
        (Recorder.openStep (v.step.title ++ suffix) w).state
      · refine Or.inl ?_
        have hattempt : Act.attempt (s'.body engine v.query v.ctx)
            (Recorder.openStep (v.step.title ++ suffix) w).state =
              Act.attempt (v.step.body engine v.query v.ctx)
                (Recorder.openStep (v.step.title ++ suffix) w).state := by
          simp only [Act.attempt, hsame]
        unfold Act.unlogged
        rw [Recorder.withStep_eq, Recorder.withStep_eq]
        rw [Act.bind_congr_right fun _ _ => Act.bind_congr_left hattempt]
      · have hbegun := upTo_of_begun engine hs hopen n
        refine Or.inr ⟨n, c, e, hparts.reached_by ?_ ?_⟩
        · rw [hbegun]
          exact hparts.reached
        · rw [hbegun]
          rfl

/-- Where a check parts a visit from that of a softer step, the first fails, and the second leaves
all the same marks of what is done to the page. -/
theorem doneBy_parted (hplugins : engine.plugins.IgnoresSoft) (h : v.step.Softened s')
    (hparts : v.PartsAt engine s' w n c e) :
    let failed := v.doneBy (Step.runOnce engine) w
    let o := (v.withStep s').doneBy (Step.runOnce engine) w
    (∃ e', failed.result = .error e') ∧ interactions failed.trace <+: interactions o.trace ∧
    (w.Quiet → failed.result = .error e ∧
      ((v.withStep s').upTo engine (n + 1) w).result = .ok ()) ∧
    ∀ r ∈ w.recorder, ∃ r₁ r₂ x y, failed.state.recorder = some r₁ ∧ o.state.recorder = some r₂ ∧
      r₁.account.steps = r.account.steps ++ [x] ∧ r₂.account.steps = r.account.steps ++ [y] ∧
      StepRecord.Noted e x y := by
  obtain ⟨suffix, hs, hopen⟩ := begun_of_upTo hparts.reached
  have hreach := upTo_of_begun engine hs hopen n
  have hbegun := hparts.reached_by (p := v.step.upTo engine v.query v.ctx n
    (Recorder.openStep (v.step.title ++ suffix) w).state)
    (by rw [← Outcome.after_result, ← hreach]; exact hparts.reached) (by rw [hreach]; rfl)
  obtain ⟨hfailed, hnext⟩ := Step.body_parted hplugins h hbegun
  obtain ⟨htrace, hnoted⟩ := Step.body_noted hplugins h hbegun
  rw [doneBy_of_suffix engine hs, doneBy_withStep engine hs h]
  refine ⟨Recorder.withStep_failed hopen hfailed, ?_, fun hw => ⟨?_, ?_⟩, fun r hr => ?_⟩
  · show interactions (Recorder.withStep _ _ w).trace <+: interactions (Recorder.withStep _ _ w).trace
    rw [Recorder.interactions_withStep hopen, Recorder.interactions_withStep hopen]
    exact htrace.filter _
  · exact Recorder.withStep_failed_quiet hw
      (Walk.staysQuiet_body engine v.step v.query v.ctx)
      hfailed
  · have hopen' : (Recorder.openStep ((v.withStep s').step.title ++ suffix) w).result = .ok () := by
      rw [withStep_step, h.title]
      exact hopen
    rw [upTo_of_begun engine (v := v.withStep s') hs hopen', Outcome.after_result,
      withStep_step, h.title]
    have hquiet := Walk.staysQuiet_body engine v.step v.query v.ctx _
      (Recorder.openStep_quiet hw (v.step.title ++ suffix)).2
    have hresult := congrArg Outcome.result hnext
    exact hresult.trans (Recorder.softFailure_quiet hquiet e.message).1
  · exact Recorder.withStep_noted hr hopen
      (Walk.softened_body engine v.step v.query v.ctx)
      hfailed hnoted

/-- A visit ends at a check whose error is raised. -/
theorem upTo_raised (hc : v.step.checks[n]? = some c) (hknown : c.kind.isKnown = true)
    (hreach : (v.upTo engine n w).result = .ok ())
    (h : (c.tried engine v.query v.ctx (v.upTo engine n w).state.scene).result = .error e)
    (hraised : c.soft = false ∨ Check.failedMessage? e = none) :
    (v.upTo engine (n + 1) w).result = .error e := by
  obtain ⟨suffix, hs, hopen⟩ := begun_of_upTo hreach
  have hbegun := upTo_of_begun engine hs hopen
  rw [hbegun] at hreach h ⊢
  exact Step.upTo_raised hc hknown hreach h hraised

/-- A visit that comes to its end has begun to be recorded, and all that is done under its record has
come to its end. -/
theorem body_of_ok (h : (v.doneBy (Step.runOnce engine) w).result = .ok ()) :
    ∃ suffix, v.ctx.suffix = .ok suffix ∧
      let begun := Recorder.openStep (v.step.title ++ suffix) w
      begun.result = .ok () ∧ (v.step.body engine v.query v.ctx begun.state).result = .ok () := by
  cases hs : v.ctx.suffix with
  | error e =>
    rw [doneBy_of_no_suffix engine hs] at h
    cases h
  | ok suffix =>
    rw [doneBy_of_suffix engine hs] at h
    have hdone : (Recorder.withStep (v.step.title ++ suffix)
        (v.step.body engine v.query v.ctx) w).result = .ok () := h
    rw [Recorder.withStep_eq] at hdone
    obtain ⟨_, hopen, hrest⟩ := Act.ok_of_bind hdone
    obtain ⟨result, hattempt, hrest⟩ := Act.ok_of_bind hrest
    obtain ⟨_, -, hresult⟩ := Act.ok_of_bind hrest
    obtain rfl := Except.ok.inj hattempt
    rw [Act.ofExcept_eq] at hresult
    exact ⟨suffix, rfl, hopen, hresult⟩

/-- A visit that comes to its end gets past all its checks. -/
theorem upTo_of_ok (h : (v.doneBy (Step.runOnce engine) w).result = .ok ()) (n : Nat) :
    (v.upTo engine n w).result = .ok () := by
  obtain ⟨suffix, hs, hopen, hbody⟩ := body_of_ok h
  rw [Step.body_cut engine v.step v.query v.ctx n] at hbody
  obtain ⟨_, hreach, -⟩ := Act.ok_of_bind hbody
  rw [upTo_of_begun engine hs hopen]
  exact hreach

end Visit

section Plans

variable {s s' : Step} {r r' : StepRun} {behind behind' : List Step} {ctx : Context}

/-- A plan for softer steps. -/
structure Plan.Softened (p p' : Plan) : Prop where
  asks : p'.asks = p.asks
  visits : ∀ page, List.Forall₂ Visit.Softened (p.visits page) (p'.visits page)
  behind : List.Forall₂ Step.Softened p.behind p'.behind

/-- A run of softer steps. -/
structure StepRun.Softened (r r' : StepRun) : Prop where
  steps : List.Forall₂ Step.Softened r.steps r'.steps
  group : r'.group = r.group

theorem giveUp_softened (h : List.Forall₂ Step.Softened behind behind') (e : Failure) :
    (giveUp behind' e : Run Unit) = giveUp behind e := by
  have hskip : skipSteps behind' = skipSteps behind := by
    induction h with
    | nil => rfl
    | @cons s s' _ _ hs _ ih =>
      calc skipSteps (s' :: _)
          = Act.bind (Recorder.skip s'.title) fun _ => skipSteps _ := rfl
        _ = Act.bind (Recorder.skip s.title) fun _ => skipSteps _ := by rw [ih, hs.title]
        _ = _ := rfl
  unfold giveUp
  rw [hskip]

theorem Step.repetitionVisit_softened (h : s.Softened s') (place : Nat) (ctx : Context)
    (total index : Nat) :
    Visit.Softened (s.repetitionVisit place ctx total index)
      (s'.repetitionVisit place ctx total index) := by
  refine ⟨s', h, ?_⟩
  obtain ⟨checks, -, rfl⟩ := h
  rfl

theorem StepRun.passVisit_softened (hr : r.Softened r') (h : s.Softened s') (ctx : Context)
    (total index place : Nat) :
    Visit.Softened (r.passVisit ctx total index s place)
      (r'.passVisit ctx total index s' place) := by
  refine ⟨s', h, ?_⟩
  obtain ⟨checks, -, rfl⟩ := h
  obtain ⟨-, hgroup⟩ := hr
  cases r'
  subst hgroup
  rfl

theorem Step.plan_softened (h : s.Softened s') (place : Nat) (ctx : Context)
    (hbehind : List.Forall₂ Step.Softened behind behind') :
    Plan.Softened (s.plan place ctx behind) (s'.plan place ctx behind') := by
  have hrepeats : s'.repeats? = s.repeats? := by
    obtain ⟨checks, -, rfl⟩ := h
    rfl
  have hkind : s'.selectorKind = s.selectorKind := by
    obtain ⟨checks, -, rfl⟩ := h
    rfl
  unfold plan
  rw [hrepeats]
  cases s.repeats? with
  | some q =>
    refine ⟨by rw [hkind], fun page => ?_, hbehind⟩
    dsimp only
    rw [hkind, List.forall₂_map_left_iff, List.forall₂_map_right_iff, List.forall₂_same]
    exact fun index _ => repetitionVisit_softened h place ctx _ index
  | none =>
    refine ⟨rfl, fun page => .cons ⟨s', h, ?_⟩ .nil, hbehind⟩
    obtain ⟨checks, -, rfl⟩ := h
    rfl

/-- Things that are made of steps and their places are related as the steps are. -/
theorem forall₂_zipIdx {α : Type} {R : α → α → Prop} {f g : Step → Nat → α} {steps steps' : List Step}
    (h : List.Forall₂ Step.Softened steps steps') (first : Nat)
    (hfg : ∀ s s' place, s.Softened s' → R (f s place) (g s' place)) :
    List.Forall₂ R ((steps.zipIdx first).map fun x => f x.1 x.2)
      ((steps'.zipIdx first).map fun x => g x.1 x.2) := by
  induction h generalizing first with
  | nil => exact .nil
  | cons hs _ ih => exact .cons (hfg _ _ first hs) (ih (first + 1))

namespace StepRun

theorem push_softened {runs runs' : List StepRun} (h : s.Softened s')
    (hruns : List.Forall₂ StepRun.Softened runs runs') :
    List.Forall₂ StepRun.Softened (push s runs) (push s' runs') := by
  have hgroup : s'.group = s.group := by
    obtain ⟨checks, -, rfl⟩ := h
    rfl
  unfold push
  rw [hgroup]
  cases s.group with
  | none => exact .cons ⟨.cons h .nil, rfl⟩ hruns
  | some g =>
    cases hruns with
    | nil => exact .cons ⟨.cons h .nil, rfl⟩ .nil
    | @cons r r' rest rest' hr hrest =>
      dsimp only
      rw [hr.group]
      split
      · exact .cons ⟨.cons h hr.steps, rfl⟩ hrest
      · exact .cons ⟨.cons h .nil, rfl⟩ (.cons hr hrest)

theorem ofSteps_softened {steps steps' : List Step} (h : List.Forall₂ Step.Softened steps steps') :
    List.Forall₂ StepRun.Softened (ofSteps steps) (ofSteps steps') := by
  induction h with
  | nil => exact .nil
  | cons hs _ ih => exact push_softened hs ih

theorem drives?_softened (hr : r.Softened r') :
    (r.drives? = none ∧ r'.drives? = none) ∨
    ∃ s s' q, s.Softened s' ∧ r.drives? = some (s, q) ∧ r'.drives? = some (s', q) := by
  obtain ⟨steps, group⟩ := r
  obtain ⟨steps', group'⟩ := r'
  obtain ⟨hsteps, hgroup⟩ := hr
  dsimp only at hsteps hgroup
  subst hgroup
  unfold drives?
  cases group' with
  | none => exact Or.inl ⟨rfl, rfl⟩
  | some g =>
    cases hsteps with
    | nil => exact Or.inl ⟨rfl, rfl⟩
    | @cons s s' _ _ hs _ =>
      have hquery : Query.ofStep? s' none = Query.ofStep? s none := by
        obtain ⟨checks, -, rfl⟩ := hs
        rfl
      simp only [List.head?_cons, Option.bind_some]
      rw [hquery]
      cases Query.ofStep? s none with
      | none => exact Or.inl ⟨rfl, rfl⟩
      | some q => exact Or.inr ⟨s, s', q, hs, rfl, rfl⟩

theorem plans_softened (hr : r.Softened r') (first : Nat) (ctx : Context)
    (hbehind : List.Forall₂ Step.Softened behind behind') :
    List.Forall₂ Plan.Softened (r.plans first ctx behind) (r'.plans first ctx behind') := by
  unfold plans
  obtain ⟨hnone, hnone'⟩ | ⟨s, s', q, hs, hsome, hsome'⟩ := drives?_softened hr
  · rw [hnone, hnone']
    exact forall₂_zipIdx hr.steps first fun s s' place hs => Step.plan_softened hs place ctx hbehind
  · have hkind : s'.selectorKind = s.selectorKind := by
      obtain ⟨checks, -, rfl⟩ := hs
      rfl
    rw [hsome, hsome']
    refine .cons ⟨by rw [hkind], fun page => ?_, hbehind⟩ .nil
    dsimp only
    rw [hkind]
    refine List.rel_flatMap (R := Eq) (by rw [List.forall₂_eq_eq_eq]) ?_
    rintro index _ rfl
    exact forall₂_zipIdx hr.steps first fun s s' place hs => passVisit_softened hr hs ctx _ index place

end StepRun

theorem Scenario.agenda_softened {runs runs' : List StepRun}
    (h : List.Forall₂ StepRun.Softened runs runs') (ctx : Context) (first : Nat) :
    List.Forall₂ Plan.Softened (agenda ctx first runs) (agenda ctx first runs') := by
  induction h generalizing first with
  | nil => exact .nil
  | @cons r r' rest rest' hr hrest ih =>
    have hbehind : List.Forall₂ Step.Softened (rest.flatMap StepRun.steps)
        (rest'.flatMap StepRun.steps) := List.rel_flatMap hrest fun _ _ h => h.steps
    unfold agenda
    rw [← hr.steps.length_eq]
    exact List.rel_append (StepRun.plans_softened hr first ctx hbehind) (ih _)

/-- A stage for softer steps. -/
structure Stage.Softened (st st' : Stage) : Prop where
  visits : List.Forall₂ Visit.Softened st.visits st'.visits
  behind : List.Forall₂ Step.Softened st.behind st'.behind
  plans : List.Forall₂ Plan.Softened st.plans st'.plans

theorem Scenario.stage_softened {steps steps' : List Step}
    (h : List.Forall₂ Step.Softened steps steps') (ctx : Context) :
    (stage steps ctx).Softened (stage steps' ctx) :=
  ⟨.nil, .nil, agenda_softened (StepRun.ofSteps_softened h) ctx 0⟩

end Plans
end Walkthrough
