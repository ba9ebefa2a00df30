import Mathlib.Data.List.Forall2
import Walkthrough.Proofs.Course

/-! What is recorded in the course of a run: the visits that began, and the steps skipped behind them. -/
namespace Walkthrough

/-- The visits of a course that began, each with the error that it failed with if it did. -/
def Course.begun (past : List (Visit × Walk)) (halt : Option Halt) :
    List (Visit × Option Failure) :=
  past.map (fun x => (x.1, none)) ++
    match halt with
    | some h => if h.inside then [(h.visit, some h.error)] else []
    | none => []

/-- The steps that a course skips. -/
def Course.skipped : Option Halt → List Step
  | none => []
  | some halt => halt.behind

/-- A record of a visit, with the error that the visit failed with. -/
structure StepRecord.Tells (x : Visit × Option Failure) (record : StepRecord) : Prop where
  title : ∃ suffix, x.1.ctx.suffix = .ok suffix ∧ record.title = x.1.step.title ++ suffix
  ended : record.EndedWith (x.2.map Failure.text)

/-- The record of a step that was skipped. -/
def Step.skipRecord (now : Int) (s : Step) : StepRecord :=
  { title := s.title, startTime := now, status := .skipped, endTime := some now }

namespace Course

variable {past : List (Visit × Walk)} {stop : Halt}

theorem begun_inside (h : stop.inside = true) : begun past (some stop) =
    past.map (fun x => (x.1, none)) ++ [(stop.visit, some stop.error)] := by
  simp only [begun, h, if_true]

theorem begun_outside (h : stop.inside = false) :
    begun past (some stop) = past.map fun x => (x.1, none) := by
  simp [begun, h]

theorem of_begun {halt : Option Halt} {P : Visit → Prop} (hpast : ∀ x ∈ past, P x.1)
    (hhalt : ∀ x ∈ halt, P x.visit) : ∀ x ∈ begun past halt, P x.1 := by
  intro x hx
  rcases List.mem_append.mp hx with hx | hx
  · obtain ⟨y, hy, rfl⟩ := List.mem_map.mp hx
    exact hpast y hy
  · cases halt with
    | none => cases hx
    | some stop =>
      dsimp only at hx
      split at hx
      · cases List.mem_singleton.mp hx
        exact hhalt stop rfl
      · cases hx

/-- A visit at another place than that of a halt has come to its end. -/
theorem begun_elsewhere {place : Nat} (hplace : stop.visit.place ≠ place) :
    (∃ x ∈ begun past (some stop), x.1.place = place) ↔ ∃ x ∈ past, x.1.place = place := by
  cases hin : stop.inside with
  | true => simp [begun_inside hin, or_and_right, exists_or, hplace]
  | false => simp [begun_outside hin]

end Course

/-- On the way to another state records were only added. -/
def Walk.Extends (w v : Walk) : Prop :=
  ∀ r ∈ w.recorder, ∃ r' ∈ v.recorder, r.account.steps <+: r'.account.steps

instance : IsPreorder Walk Walk.Extends where
  refl _ r hr := ⟨r, hr, List.prefix_rfl⟩
  trans w v u hwv hvu r hr := by
    obtain ⟨r', hr', hsteps⟩ := hwv r hr
    obtain ⟨r'', hr'', hsteps'⟩ := hvu r' hr'
    exact ⟨r'', hr'', hsteps.trans hsteps'⟩

section Recorded

variable {engine : Engine} {st : Stage} {w : Walk} {past : List (Visit × Walk)}
  {halt : Option Halt} {r : Recorder} {e : Failure} {v : Visit}

theorem giveUp_eq (behind : List Step) (e : Failure) :
    giveUp behind e = Act.unlogged (Act.bind (skipSteps behind) fun _ => (Act.fail e : Run Unit)) := by
  rw [Act.unlogged_bind]
  rfl

/-- Giving up does nothing to the page, and with quiet listeners it fails with the error given. -/
theorem giveUp_error (behind : List Step) (e : Failure) (w : Walk) :
    let o : Outcome Walk Unit := giveUp behind e w
    o.state.scene = w.scene ∧ interactions o.trace = [] ∧ (w.Quiet → o.result = .error e) := by
  obtain ⟨hscene, htrace, hquiet⟩ := Scenario.skipSteps_fail behind e w
  rw [giveUp_eq]
  exact ⟨hscene, htrace, fun hw => (hquiet hw).1⟩

theorem giveUp_quiet (hw : w.Quiet) (hr : w.recorder = some r) (behind : List Step)
    (e : Failure) :
    let o : Outcome Walk Unit := giveUp behind e w
    o.result = .error e ∧ ∃ r', o.state.recorder = some r' ∧
      r'.account.steps = r.account.steps ++ behind.map (Step.skipRecord o.state.scene.clock) := by
  obtain ⟨hscene, -, hres⟩ := giveUp_error behind e w
  obtain ⟨-, -, hquiet⟩ := Scenario.skipSteps_fail behind e w
  obtain ⟨-, hrec⟩ := hquiet hw
  rw [hr] at hrec
  intro o
  refine ⟨hres hw, r.skippingAll behind w.scene.clock, ?_, ?_⟩
  · show (giveUp behind e w : Outcome Walk Unit).state.recorder = _
    rw [giveUp_eq]
    exact hrec
  · rw [Recorder.skippingAll_eq, show o.state.scene = w.scene from hscene]
    rfl

/-- A visit adds one record. -/
theorem Visit.doneBy_records (hr : w.recorder = some r) (engine : Engine)
    (hctx : ∃ suffix, v.ctx.suffix = .ok suffix) :
    let o := v.doneBy (Step.runOnce engine) w
    ∃ r' x, o.state.recorder = some r' ∧ r'.account.steps = r.account.steps ++ [x] ∧
      (o.result = .ok () → x.Tells (v, none)) ∧
      (w.Quiet → ∀ e, o.result = .error e → x.Tells (v, some e)) := by
  obtain ⟨suffix, hs⟩ := hctx
  obtain ⟨r', x, hr', hsteps, htitle, hok, herr⟩ :=
    Step.runOnce_records hr engine v.step v.query hs
  exact ⟨r', x, hr', hsteps, fun h => ⟨⟨suffix, hs, htitle⟩, hok h⟩,
    fun hw e he => ⟨⟨suffix, hs, htitle⟩, herr hw e he⟩⟩

theorem Visit.doneBy_quiet (hw : w.Quiet) (engine : Engine) (v : Visit) :
    (v.doneBy (Step.runOnce engine) w).state.Quiet :=
  Walk.staysQuiet_runOnce engine v.step v.query v.ctx w hw

theorem Walk.extends_runOnce (engine : Engine) (s : Step) (query : Option Query) (ctx : Context) :
    Act.Within Walk.Extends (s.runOnce engine query ctx) := by
  intro w r hr
  cases hs : ctx.suffix with
  | error e =>
    unfold Step.runOnce
    rw [hs]
    exact ⟨r, hr, List.prefix_rfl⟩
  | ok suffix =>
    obtain ⟨r', x, hr', hsteps, -⟩ := Step.runOnce_records hr engine s query hs
    exact ⟨r', hr', by rw [hsteps]; exact List.prefix_append _ _⟩

theorem Walk.extends_doneBy (engine : Engine) (v : Visit) :
    Act.Within Walk.Extends (v.doneBy (Step.runOnce engine)) :=
  Walk.extends_runOnce engine v.step v.query v.ctx

theorem Walk.extends_skip (title : String) : Act.Within Walk.Extends (Recorder.skip title) := by
  intro w r hr
  have hskip := Recorder.change_recorder (fun r now => r.skipping title now) .stepEnd
    (·.account.steps.getLast?) w
  rw [Option.mem_def.mp hr, Option.map_some] at hskip
  exact ⟨_, hskip, List.prefix_append _ _⟩

/-- The steps of a scenario only add records. -/
theorem Walk.extends_drive (engine : Engine) (steps : List Step) (ctx : Context) :
    Act.Within Walk.Extends (Scenario.drive engine steps ctx) :=
  Scenario.closed_driveBy (Act.closed_within Walk.Extends)
    (engine.touches_within fun w _ => refl_of Walk.Extends w).count
    (Walk.extends_runOnce engine) Walk.extends_skip steps

/-- A way of doing visits each of which adds one record. `I` holds of the states between two visits, and
`R` of the visits of a kind and their records. -/
structure Visit.Records (act : Visit → Run Unit) (I : Walk → Prop) (P : Visit → Prop)
    (R : Visit × Option Failure → StepRecord → Prop) : Prop where
  quiet : ∀ w, I w → w.Quiet
  act : ∀ v w r, P v → I w → w.recorder = some r →
    let o := act v w
    I o.state ∧ ∃ r' x, o.state.recorder = some r' ∧ r'.account.steps = r.account.steps ++ [x] ∧
      (o.result = .ok () → R (v, none) x) ∧ ∀ e, o.result = .error e → R (v, some e) x

/-- With quiet listeners, the records tell how the visits ended. -/
theorem Visit.records_tells (engine : Engine) :
    Records (doneBy (Step.runOnce engine)) Walk.Quiet (fun v => ∃ suffix, v.ctx.suffix = .ok suffix)
      StepRecord.Tells where
  quiet _ hw := hw
  act v _ _ hv hw hr := by
    obtain ⟨r', x, hr', hsteps, hok, herr⟩ := doneBy_records hr engine hv
    exact ⟨doneBy_quiet hw engine v, r', x, hr', hsteps, hok, herr hw⟩

/-- Each visit of a course that began has one record, in order, and so have behind them the steps of the
later plans if it halted. -/
theorem Course.recorded {act : Visit → Run Unit} {I : Walk → Prop} {P : Visit → Prop}
    {R : Visit × Option Failure → StepRecord → Prop} (hrecords : Visit.Records act I P R)
    (h : Course act st w past halt) (hw : I w) (hr : w.recorder = some r)
    (hP : ∀ x ∈ begun past halt, P x.1) :
    let o := st.run act w
    (∀ x ∈ halt, o.result = .error x.error) ∧ (halt = none → o.result = .ok ()) ∧
    ∃ r' records, o.state.recorder = some r' ∧
      r'.account.steps = r.account.steps ++ records ++
        (skipped halt).map (Step.skipRecord o.state.scene.clock) ∧
      List.Forall₂ R (begun past halt) records := by
  induction h generalizing r with
  | done => exact ⟨by simp, fun _ => rfl, r, [], hr, by simp [skipped], .nil⟩
  | next _ ih =>
    rw [Stage.run_next]
    exact ih hw hr hP
  | @passed v vs behind ps w past halt hready hdone _ ih =>
    obtain ⟨hw', r', x, hr', hsteps, hok, -⟩ :=
      hrecords.act v w r (hP (v, none) List.mem_cons_self) hw hr
    rw [Stage.run_passed hready hdone]
    obtain ⟨herr, hend, r'', records, hr'', hsteps', hall⟩ :=
      ih hw' hr' fun y hy => hP y (List.mem_cons_of_mem _ hy)
    refine ⟨herr, hend, r'', x :: records, hr'', ?_, .cons (hok hdone) hall⟩
    simp only [hsteps', hsteps, List.append_assoc, List.singleton_append]
    rfl
  | @refused v vs behind ps w e hready =>
    rw [Stage.run_refused hready]
    obtain ⟨hres, r', hr', hsteps⟩ := giveUp_quiet (hrecords.quiet w hw) hr behind e
    refine ⟨?_, by simp, r', [], hr', ?_, .nil⟩
    · rintro x ⟨⟩
      exact hres
    · rw [hsteps]
      simp [skipped]
  | @failed v vs behind ps w e hready hfailed =>
    obtain ⟨hw', r', x, hr', hsteps, -, herr⟩ :=
      hrecords.act v w r (hP (v, some e) List.mem_cons_self) hw hr
    rw [Stage.run_failed hready hfailed]
    obtain ⟨hres, r'', hr'', hsteps'⟩ := giveUp_quiet (hrecords.quiet _ hw') hr' behind e
    refine ⟨?_, by simp, r'', [x], hr'', ?_, .cons (herr e hfailed) .nil⟩
    · rintro x ⟨⟩
      exact hres
    · rw [hsteps', hsteps]
      simp [skipped]

end Recorded
end Walkthrough
