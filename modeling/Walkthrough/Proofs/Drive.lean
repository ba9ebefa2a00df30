import Walkthrough.Proofs.Engine
import Walkthrough.Proofs.Grouping

/-!
Steps in two parts: running them all is running the first part and then the other, and when the
first part fails the other one is recorded as skipped.
-/
namespace Walkthrough

/-- The marks of what was done to the page. -/
def interactions (trace : List Mark) : List Mark := trace.filter fun m => !m.isRecorder

theorem interactions_append (a b : List Mark) :
    interactions (a ++ b) = interactions a ++ interactions b := List.filter_append a b

theorem interactions_eq_nil {trace : List Mark} (h : ∀ m ∈ trace, m.isRecorder = true) :
    interactions trace = [] := by
  refine List.filter_eq_nil_iff.mpr fun m hm => ?_
  simp [h m hm]

namespace Recorder

/-- A recorder with records of some steps that were skipped. -/
def skippingAll (r : Recorder) (steps : List Step) (now : Int) : Recorder :=
  steps.foldl (fun r s => r.skipping s.title now) r

/-- A skipped step takes no time and has its own place behind the other records. -/
theorem skippingAll_eq (r : Recorder) (steps : List Step) (now : Int) :
    r.skippingAll steps now = { r with
      account := { r.account with
        steps := r.account.steps ++ steps.map fun s =>
          { title := s.title, startTime := now, status := .skipped, endTime := some now } } } := by
  unfold skippingAll
  induction steps generalizing r with
  | nil => simp
  | cons s steps ih =>
    rw [List.foldl_cons, ih]
    simp [skipping, addRecord]

/-- Skipping steps does nothing to the page. With quiet listeners all of them are recorded. -/
theorem each_skip (steps : List Step) (w : Walk) :
    let o := Act.each steps (fun s => skip s.title) w
    o.state.scene = w.scene ∧ (∀ m ∈ o.trace, m.isRecorder = true) ∧
      (w.Quiet → o.result = .ok () ∧
        o.state.recorder = w.recorder.map fun r => r.skippingAll steps w.scene.clock) := by
  induction steps generalizing w with
  | nil =>
    refine ⟨rfl, by simp [Act.each, Act.pure], fun _ => ⟨rfl, ?_⟩⟩
    exact (congrFun Option.map_id w.recorder).symm
  | cons s steps ih =>
    have hscene : (skip s.title w).state.scene = w.scene := change_scene _ _ _ w
    have htrace : ∀ m ∈ (skip s.title w).trace, m.isRecorder = true := change_trace _ _ _ w
    have hrecorder : (skip s.title w).state.recorder =
        w.recorder.map fun r => r.skipping s.title w.scene.clock := change_recorder _ _ _ w
    unfold Act.each
    cases hres : (skip s.title w).result with
    | error e =>
      rw [Act.bind_of_error hres]
      refine ⟨hscene, htrace, fun hw => ?_⟩
      exact absurd (hres.symm.trans (skip_quiet hw s.title).1) (by simp)
    | ok _ =>
      rw [Act.bind_of_ok hres]
      obtain ⟨hscene', htrace', hquiet⟩ := ih (skip s.title w).state
      refine ⟨hscene'.trans hscene, fun m hm => ?_, fun hw => ?_⟩
      · rcases List.mem_append.mp hm with hm | hm
        · exact htrace m hm
        · exact htrace' m hm
      · obtain ⟨hok, hrec⟩ := hquiet (skip_quiet hw s.title).2
        refine ⟨hok, hrec.trans ?_⟩
        rw [hrecorder, hscene, Option.map_map]
        rfl

end Recorder
/-- Records steps as skipped. -/
def skipSteps (steps : List Step) : Run Unit := Act.each steps fun s => Recorder.skip s.title

namespace Scenario

variable {once : Runner} {ctx : Context} {xs ys : List Step} {w : Walk} {e : Failure}

theorem runParts_cons (r : StepRun) (rest : List StepRun) :
    runParts once ctx (r :: rest) =
      Act.bind
        (Act.handle (runPart once ctx r) fun e => Act.bind (skipAll rest) fun _ => Act.fail e)
        fun _ => runParts once ctx rest := rfl

/-- When a run of steps fails, the steps behind it are skipped. -/
theorem runParts_of_error {r : StepRun} (rest : List StepRun)
    (h : (runPart once ctx r w).result = .error e) :
    runParts once ctx (r :: rest) w =
      (Act.bind (skipAll rest) (fun _ => Act.fail e) (runPart once ctx r w).state).after
        (runPart once ctx r w) := by
  obtain ⟨e', he⟩ : ∃ e', (Act.bind (skipAll rest) (fun _ => (Act.fail e : Run Unit))
      (runPart once ctx r w).state).result = .error e' := Act.bind_fail_result _ _ _
  rw [runParts_cons, Act.bind_eq_left (e := e') (by rw [Act.handle_of_error h]; exact he),
    Act.handle_of_error h]

theorem runParts_of_ok {r : StepRun} (rest : List StepRun)
    (h : (runPart once ctx r w).result = .ok ()) :
    runParts once ctx (r :: rest) w =
      (runParts once ctx rest (runPart once ctx r w).state).after (runPart once ctx r w) := by
  rw [runParts_cons, Act.bind_of_ok (a := ()) (by rw [Act.handle_of_ok h]; exact h),
    Act.handle_of_ok h]

/-- How a failed run of all came about: one run of steps failed, and the rest was skipped. What
would have stood behind the last run does not matter before that. -/
theorem runParts_failed {as : List StepRun} (h : (runParts once ctx as w).result = .error e) :
    ∃ (failed : Outcome Walk Unit) (rest : List StepRun) (e' : Failure),
      failed.result = .error e' ∧
      ((∀ s q c, Act.Within Walk.StaysQuiet (once s q c)) → w.Quiet → failed.state.Quiet) ∧
      ∀ bs, runParts once ctx (as ++ bs) w =
        (Act.bind (skipAll (rest ++ bs)) (fun _ => Act.fail e') failed.state).after failed := by
  induction as generalizing w with
  | nil => cases h
  | cons r rest ih =>
    have hquiet : (∀ s q c, Act.Within Walk.StaysQuiet (once s q c)) →
        w.Quiet → (runPart once ctx r w).state.Quiet := fun honce =>
      Walk.staysQuiet_runPart honce r w
    cases hr : (runPart once ctx r w).result with
    | error e' =>
      exact ⟨runPart once ctx r w, rest, e', hr, hquiet,
        fun bs => runParts_of_error (rest ++ bs) hr⟩
    | ok _ =>
      rw [runParts_of_ok rest hr] at h
      obtain ⟨failed, rest', e', hfail, hq, hall⟩ := ih h
      refine ⟨failed.after (runPart once ctx r w), rest', e', hfail,
        fun honce hw => hq honce (hquiet honce hw), fun bs => ?_⟩
      rw [List.cons_append, runParts_of_ok _ hr, hall, Outcome.after_assoc]
      rfl

theorem runParts_append_of_ok {as : List StepRun} (bs : List StepRun)
    (h : (runParts once ctx as w).result = .ok ()) :
    runParts once ctx (as ++ bs) w =
      Act.bind (runParts once ctx as) (fun _ => runParts once ctx bs) w := by
  induction as generalizing w with
  | nil => exact (congrFun (Act.pure_bind () fun _ => runParts once ctx bs) w).symm
  | cons r rest ih =>
    cases hr : (runPart once ctx r w).result with
    | error e =>
      rw [runParts_of_error rest hr] at h
      obtain ⟨e', he⟩ : ∃ e', (Act.bind (skipAll rest) (fun _ => (Act.fail e : Run Unit))
          (runPart once ctx r w).state).result = .error e' := Act.bind_fail_result _ _ _
      cases he.symm.trans h
    | ok _ =>
      have hrest := h
      rw [runParts_of_ok rest hr] at hrest
      rw [Act.bind_of_ok h, List.cons_append, runParts_of_ok _ hr, ih hrest,
        Act.bind_of_ok hrest, runParts_of_ok rest hr, Outcome.after_assoc]
      rfl

theorem skipSteps_fail (steps : List Step) (e : Failure) (w : Walk) :
    let o := Act.bind (skipSteps steps) (fun _ => (Act.fail e : Run Unit)) w
    o.state.scene = w.scene ∧ interactions o.trace = [] ∧
      (w.Quiet → o.result = .error e ∧ o.state.recorder =
        w.recorder.map fun r => r.skippingAll steps w.scene.clock) := by
  obtain ⟨hscene, htrace, hquiet⟩ := Recorder.each_skip steps w
  cases hres : (skipSteps steps w).result with
  | error e' =>
    rw [Act.bind_of_error hres]
    refine ⟨hscene, interactions_eq_nil htrace, fun hw => ?_⟩
    cases hres.symm.trans (hquiet hw).1
  | ok _ =>
    rw [Act.bind_of_ok hres]
    refine ⟨hscene, interactions_eq_nil fun m hm => ?_, fun hw => ⟨rfl, (hquiet hw).2⟩⟩
    rcases List.mem_append.mp hm with hm | hm
    · exact htrace m hm
    · cases hm

theorem skipAll_fail (runs : List StepRun) (e : Failure) (w : Walk) :
    let o := Act.bind (skipAll runs) (fun _ => (Act.fail e : Run Unit)) w
    o.state.scene = w.scene ∧ interactions o.trace = [] ∧
      (w.Quiet → o.result = .error e ∧ o.state.recorder =
        w.recorder.map fun r => r.skippingAll (runs.flatMap StepRun.steps) w.scene.clock) :=
  skipSteps_fail (runs.flatMap StepRun.steps) e w

end Scenario
end Walkthrough
