import Walkthrough.Proofs.Visit

/-!
Courses: which visits a run makes, in which states, and where it halts. A run is determined by what
is done in the visits of its course.
-/
namespace Walkthrough

/-- What is left of a run: the visits of the plan that is followed, the steps that are skipped if
it fails, and the plans after it. -/
structure Stage where
  visits : List Visit := []
  behind : List Step := []
  plans : List Plan := []

/-- The stage at which a plan is followed. -/
def Plan.stage (p : Plan) (rest : List Plan) (page : Page) : Stage := ⟨p.visits page, p.behind, rest⟩

/-- Where a run failed: at a visit, in a state, with the steps that were to come after its plan.
`inside` says whether the visit had begun; otherwise its element was not there. -/
structure Halt where
  visit : Visit
  walk : Walk
  inside : Bool
  error : Failure
  behind : List Step

/-- The course of a run: the visits that came to their end, each with the state in which it began,
and where the run halted if it did. -/
inductive Course (act : Visit → Run Unit) : Stage → Walk → List (Visit × Walk) → Option Halt → Prop
  | done {behind : List Step} {w : Walk} : Course act ⟨[], behind, []⟩ w [] none
  | next {behind : List Step} {p : Plan} {rest : List Plan} {w : Walk}
    {past : List (Visit × Walk)} {halt : Option Halt}
    (h : Course act (p.stage rest w.scene.page) w past halt) :
    Course act ⟨[], behind, p :: rest⟩ w past halt
  | passed {v : Visit} {vs : List Visit} {behind : List Step} {ps : List Plan} {w : Walk}
    {past : List (Visit × Walk)} {halt : Option Halt}
    (hready : (v.ready w).result = .ok ()) (hact : (act v w).result = .ok ())
    (h : Course act ⟨vs, behind, ps⟩ (act v w).state past halt) :
    Course act ⟨v :: vs, behind, ps⟩ w ((v, w) :: past) halt
  | refused {v : Visit} {vs : List Visit} {behind : List Step} {ps : List Plan} {w : Walk}
    {e : Failure} (hready : (v.ready w).result = .error e) :
    Course act ⟨v :: vs, behind, ps⟩ w [] (some ⟨v, w, false, e, behind⟩)
  | failed {v : Visit} {vs : List Visit} {behind : List Step} {ps : List Plan} {w : Walk}
    {e : Failure} (hready : (v.ready w).result = .ok ()) (hact : (act v w).result = .error e) :
    Course act ⟨v :: vs, behind, ps⟩ w [] (some ⟨v, w, true, e, behind⟩)

/-- Makes the visits that are left and follows the plans. -/
def Stage.run (act : Visit → Run Unit) (st : Stage) : Run Unit :=
  Act.bind (orSkip st.behind (Act.each st.visits (Visit.run act))) fun _ =>
    Act.each st.plans (Plan.follow act)

section Running

variable {act : Visit → Run Unit} {v : Visit} {vs : List Visit} {behind : List Step} {p : Plan}
  {ps : List Plan} {st : Stage} {w : Walk} {e : Failure}

theorem orSkip_of_ok {x : Run Unit} (h : (x w).result = .ok ()) : orSkip behind x w = x w :=
  Act.handle_of_ok h

theorem orSkip_of_error {x : Run Unit} (h : (x w).result = .error e) :
    orSkip behind x w = (giveUp behind e (x w).state).after (x w) := Act.handle_of_error h

theorem giveUp_result (behind : List Step) (e : Failure) (w : Walk) :
    ∃ e', (giveUp behind e w : Outcome Walk Unit).result = .error e' := Act.bind_fail_result _ _ _

namespace Stage

theorem run_next (act : Visit → Run Unit) (behind : List Step) (p : Plan) (ps : List Plan)
    (w : Walk) :
    run act ⟨[], behind, p :: ps⟩ w =
      (run act (p.stage ps w.scene.page) w).after ⟨.ok (), w, p.asks, []⟩ := by
  have hfollow : p.follow act = Act.bind p.ask fun page =>
      orSkip p.behind (Act.each (p.visits page) (Visit.run act)) := by
    rw [Plan.follow, Plan.run, orSkip_bind]
    rfl
  calc run act ⟨[], behind, p :: ps⟩ w
      = Act.bind (p.follow act) (fun _ => Act.each ps (Plan.follow act)) w := rfl
    _ = Act.bind p.ask (fun page => run act (p.stage ps page)) w := by
        rw [hfollow, Act.bind_assoc]
        rfl
    _ = _ := rfl

/-- The next visit makes sure of its element, and what is left goes on from there. -/
theorem run_visit (act : Visit → Run Unit) (v : Visit) (vs : List Visit) (behind : List Step)
    (ps : List Plan) :
    run act ⟨v :: vs, behind, ps⟩ = Act.bind (orSkip behind v.ready) fun _ =>
      Act.bind (orSkip behind (act v)) fun _ => run act ⟨vs, behind, ps⟩ := by
  simp only [run, Act.each, Visit.run, orSkip_bind, Act.bind_assoc]

theorem run_of_ready (hready : (v.ready w).result = .ok ()) :
    run act ⟨v :: vs, behind, ps⟩ w =
      (Act.bind (orSkip behind (act v)) (fun _ => run act ⟨vs, behind, ps⟩) w).after
        (v.ready w) := by
  have hskip : orSkip behind v.ready w = v.ready w := orSkip_of_ok hready
  rw [run_visit, Act.bind_of_ok (a := ()) (by rw [hskip]; exact hready), hskip, v.ready_state]

theorem run_passed (hready : (v.ready w).result = .ok ()) (hact : (act v w).result = .ok ()) :
    run act ⟨v :: vs, behind, ps⟩ w =
      (run act ⟨vs, behind, ps⟩ (act v w).state).after ((act v w).after (v.ready w)) := by
  have hskip : orSkip behind (act v) w = act v w := orSkip_of_ok hact
  rw [run_of_ready hready, Act.bind_of_ok (a := ()) (by rw [hskip]; exact hact), hskip,
    Outcome.after_assoc]

theorem run_failed (hready : (v.ready w).result = .ok ()) (hact : (act v w).result = .error e) :
    run act ⟨v :: vs, behind, ps⟩ w =
      (giveUp behind e (act v w).state).after ((act v w).after (v.ready w)) := by
  obtain ⟨e', he'⟩ := giveUp_result behind e (act v w).state
  have hskip : orSkip behind (act v) w = (giveUp behind e (act v w).state).after (act v w) :=
    orSkip_of_error hact
  rw [run_of_ready hready, Act.bind_eq_left (e := e') (by rw [hskip]; exact he'), hskip,
    Outcome.after_assoc]

theorem run_refused (hready : (v.ready w).result = .error e) :
    run act ⟨v :: vs, behind, ps⟩ w = (giveUp behind e w).after (v.ready w) := by
  obtain ⟨e', he'⟩ := giveUp_result behind e w
  have hskip : orSkip behind v.ready w = (giveUp behind e w).after (v.ready w) := by
    rw [orSkip_of_error hready, v.ready_state]
  rw [run_visit, Act.bind_eq_left (e := e') (by rw [hskip]; exact he'), hskip]

end Stage

theorem Course.exists_of_plans
    (hplans : ∀ w, ∃ past halt, Course act ⟨[], behind, ps⟩ w past halt) (vs : List Visit)
    (w : Walk) : ∃ past halt, Course act ⟨vs, behind, ps⟩ w past halt := by
  induction vs generalizing w with
  | nil => exact hplans w
  | cons v vs ih =>
    cases hready : (v.ready w).result with
    | error e => exact ⟨[], _, .refused hready⟩
    | ok _ =>
      cases hact : (act v w).result with
      | error e => exact ⟨[], _, .failed hready hact⟩
      | ok _ =>
        obtain ⟨past, halt, h⟩ := ih (act v w).state
        exact ⟨_, halt, .passed hready hact h⟩

/-- Every run has a course. -/
theorem Course.exists (act : Visit → Run Unit) (st : Stage) (w : Walk) :
    ∃ past halt, Course act st w past halt := by
  obtain ⟨visits, behind, plans⟩ := st
  induction plans generalizing visits behind w with
  | nil => exact exists_of_plans (fun w => ⟨[], none, .done⟩) visits w
  | cons p ps ih =>
    refine exists_of_plans (fun w => ?_) visits w
    obtain ⟨past, halt, h⟩ := ih w (p.visits w.scene.page) p.behind
    exact ⟨past, halt, .next h⟩

end Running

section Within

variable {act : Visit → Run Unit} {R : Walk → Walk → Prop} [IsPreorder Walk R]

theorem giveUp_within (hskip : ∀ title, Act.Within R (Recorder.skip title)) (behind : List Step)
    (e : Failure) : Act.Within R (giveUp behind e : Run Unit) := by
  have hsteps : Act.Within R (Act.unlogged (skipSteps behind)) :=
    fun w => ((Act.closed_within R).each fun s _ => hskip s.title) w
  exact (Act.closed_within R).bind hsteps fun _ => (Act.closed_within R).fail e

theorem orSkip_within (hskip : ∀ title, Act.Within R (Recorder.skip title)) {x : Run Unit}
    (hx : Act.Within R x) (behind : List Step) : Act.Within R (orSkip behind x) :=
  (Act.closed_within R).handle hx (giveUp_within hskip behind)

variable (hact : ∀ v, Act.Within R (act v))
include hact

theorem Visit.within_run (v : Visit) : Act.Within R (v.run act) := by
  refine (Act.closed_within R).bind (fun w => ?_) fun _ => hact v
  rw [v.ready_state]
  exact refl_of R w

/-- A run leads only to states that its visits and skipped steps lead to. -/
theorem Stage.within_run (hskip : ∀ title, Act.Within R (Recorder.skip title)) (st : Stage) :
    Act.Within R (st.run act) := by
  have hR : Act.Closed (Act.Within R) := Act.closed_within R
  have hvisits : ∀ vs : List Visit, Act.Within R (Act.each vs (Visit.run act)) :=
    fun vs => hR.each fun v _ => Visit.within_run hact v
  refine hR.bind (orSkip_within hskip (hvisits st.visits) _) fun _ => ?_
  refine hR.each fun p _ => orSkip_within hskip ?_ _
  exact hR.bind (fun w => refl_of R w) fun page => hvisits (p.visits page)

theorem Course.within_halt {st : Stage} {w : Walk} {past : List (Visit × Walk)} {stop : Halt}
    (h : Course act st w past (some stop)) : R w stop.walk := by
  generalize hhalt : some stop = halt at h
  induction h with
  | done => cases hhalt
  | next _ ih => exact ih hhalt
  | @passed v vs behind ps w past halt _ _ _ ih => exact trans_of R (hact v w) (ih hhalt)
  | refused _ =>
    cases hhalt
    exact refl_of R _
  | failed _ _ =>
    cases hhalt
    exact refl_of R _

end Within

/-- All that there is to do for some steps. -/
def Scenario.stage (steps : List Step) (ctx : Context) : Stage where
  plans := agenda ctx 0 (StepRun.ofSteps steps)

theorem Scenario.drive_eq (engine : Engine) (steps : List Step) (ctx : Context) :
    Act.unlogged (drive engine steps ctx) =
      (stage steps ctx).run (Visit.doneBy (Step.runOnce engine)) :=
  driveBy_eq (Step.runOnce engine) steps ctx

end Walkthrough
