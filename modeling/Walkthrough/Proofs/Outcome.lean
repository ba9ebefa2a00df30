import Walkthrough.Proofs.Files
import Walkthrough.Proofs.HardFailure
import Walkthrough.Proofs.Isolation
import Walkthrough.Proofs.Listening
import Walkthrough.Proofs.Settled

/-!
Outcomes: when a scenario gives a result, and how its status, its errors and its records belong
together whatever its steps did.
-/
namespace Walkthrough

theorem Disk.change_of_null {d : Disk} {cwd p : Path} (hp : p.hasNull = true)
    (f : Option Content → Content) : d.change cwd p f = .error ⟨.nullInName, p⟩ := by
  unfold change locate
  rw [if_pos hp]
  rfl

namespace StepRecord

variable {x : StepRecord} {error : Option String}

/-- What has ended has passed or failed. -/
theorem EndedWith.status (h : x.EndedWith error) : x.status = .passed ∨ x.status = .failed := by
  obtain ⟨start, now, softFailures, hx⟩ := h
  rw [hx]
  unfold closed
  cases error with
  | some e => exact Or.inr rfl
  | none =>
    dsimp only
    split
    · exact Or.inl rfl
    · exact Or.inr rfl

/-- What has ended without a failure of any kind has passed. -/
theorem EndedWith.passed (h : x.EndedWith none) (hsoft : x.softFailures = []) :
    x.status = .passed := by
  obtain ⟨start, now, softFailures, hx⟩ := h
  cases softFailures with
  | nil =>
    rw [hx]
    rfl
  | cons m ms =>
    rw [hx] at hsoft
    cases hsoft

end StepRecord

namespace Account

variable (a : Account) (now : Int) (error : Option String)

/-- A finished account has failed with an error or for its soft failures, or else it has passed. -/
theorem finished_cases :
    (∃ e, (error = some e ∨ error = none ∧ a.softFailures ≠ []) ∧
      a.finished now error = { a with status := .failed, error := some e, endTime := some now }) ∨
    error = none ∧ a.softFailures = [] ∧
      a.finished now error = { a with status := .passed, endTime := some now } := by
  unfold finished
  cases error with
  | some e => exact Or.inl ⟨e, Or.inl rfl, rfl⟩
  | none =>
    cases hsoft : a.softFailures with
    | nil => exact Or.inr ⟨rfl, rfl, rfl⟩
    | cons m ms => exact Or.inl ⟨_, Or.inr ⟨rfl, List.cons_ne_nil m ms⟩, rfl⟩

theorem finished_title :
    (a.finished now error).title = a.title := by
  obtain ⟨e, -, h⟩ | ⟨-, -, h⟩ := a.finished_cases now error <;> rw [h]

theorem finished_steps :
    (a.finished now error).steps = a.steps := by
  obtain ⟨e, -, h⟩ | ⟨-, -, h⟩ := a.finished_cases now error <;> rw [h]

theorem finished_unattributed :
    (a.finished now error).unattributed = a.unattributed := by
  obtain ⟨e, -, h⟩ | ⟨-, -, h⟩ := a.finished_cases now error <;> rw [h]

theorem finished_passed_iff :
    (a.finished now error).status = .passed ↔ error = none ∧ a.softFailures = [] := by
  obtain ⟨e, hwhy, h⟩ | ⟨herror, hsoft, h⟩ := a.finished_cases now error
  · rw [h]
    refine ⟨fun hstatus => Status.noConfusion hstatus, fun ⟨herror, hsoft⟩ => ?_⟩
    rcases hwhy with hwhy | ⟨-, hwhy⟩
    · exact absurd (hwhy.symm.trans herror) (by simp)
    · exact absurd hsoft hwhy
  · rw [h]
    exact ⟨fun _ => ⟨herror, hsoft⟩, fun _ => rfl⟩

theorem finished_error (h : (a.finished now error).status = .passed) :
    (a.finished now error).error = a.error := by
  obtain ⟨e, -, hfinished⟩ | ⟨-, -, hfinished⟩ := a.finished_cases now error
  · rw [hfinished] at h
    cases h
  · rw [hfinished]

theorem finished_failed (h : (a.finished now error).status ≠ .passed) :
    (a.finished now error).status = .failed ∧ (a.finished now error).error.isSome = true := by
  obtain ⟨e, -, hfinished⟩ | ⟨-, -, hfinished⟩ := a.finished_cases now error
  · rw [hfinished]
    exact ⟨rfl, rfl⟩
  · rw [hfinished] at h
    exact absurd rfl h

end Account

namespace Recorder

variable {r : Except Failure Unit}

theorem failure?_eq_none : failure? r = none ↔ r = .ok () := by
  cases r <;> simp [failure?]

theorem failure?_eq_some {e : Failure} : failure? r = some e ↔ r = .error e := by
  cases r <;> simp [failure?]

end Recorder

namespace Desk

variable {d d' : Desk} {slot : Nat} {j : Journal}

/-- The event logs of both desks are kept in the same files and are open alike. -/
def SameLogs (d d' : Desk) : Prop := d'.logs = d.logs

instance : IsPreorder Desk SameLogs where
  refl _ := rfl
  trans _ _ _ := fun h h' => h'.trans h

theorem keepReport_sameLogs (slot : Nat) : (keepReport slot).Within SameLogs := by
  intro n d
  obtain hsame | ⟨p, -, ht⟩ := keepReport_touches slot n d
  · rw [hsame]
    exact rfl
  · exact ht.logs

theorem keepJournal_sameLogs (slot : Nat) : (keepJournal slot).Within SameLogs := by
  intro n d
  obtain hsame | ⟨x, -, ht⟩ := keepJournal_touches slot n d
  · rw [hsame]
    exact rfl
  · exact ht.logs

theorem SameLogs.journal (h : d.SameLogs d') (hj : d.journals[slot]? = some j) :
    ∃ j', d'.journals[slot]? = some j' ∧ j'.path = j.path ∧ j'.isOpen = j.isOpen := by
  have hlogs : d'.logs[slot]? = some (j.path, j.isOpen) := by
    rw [show d'.logs = d.logs from h, logs, List.getElem?_map, hj]
    rfl
  rw [logs, List.getElem?_map] at hlogs
  obtain ⟨j', hj', hsame⟩ := Option.map_eq_some_iff.mp hlogs
  exact ⟨j', hj', congrArg Prod.fst hsame, congrArg Prod.snd hsame⟩

/-- An event log that could be told of the end of a scenario is open, and its file has a name that
files can have. -/
theorem open_of_told {n : Notice} (hn : n.event = .scenarioEnd) (hj : d.journals[slot]? = some j)
    (h : (Recorder.tell n (keepJournal slot) d).result = .ok ()) :
    j.path.hasNull = false ∧ j.isOpen = true := by
  have hentry : ∃ entry, entryOf? n = some entry := by
    unfold entryOf?
    rw [hn]
    exact ⟨_, rfl⟩
  obtain ⟨entry, hentry⟩ := hentry
  unfold Recorder.tell keepJournal at h
  simp only [hentry, logEvent, hj] at h
  cases hopen : j.isOpen with
  | false =>
    simp only [hopen, Bool.false_eq_true, if_false] at h
    cases h
  | true =>
    refine ⟨Bool.eq_false_iff.mpr fun hnull => ?_, rfl⟩
    simp only [hopen, if_true, Disk.append, Disk.change_of_null hnull, tryDisk] at h
    cases h

end Desk

namespace Scenario

variable {setup : Setup} {s : Scenario} {w : Walk} {result : ScenarioResult}

/-- A scenario gives a result just from the desks at which it can begin. -/
theorem run_returns_iff :
    (∃ result, (s.run setup w).result = .ok result) ↔ setup.Ready w.desk := by
  refine ⟨fun ⟨result, hrun⟩ => ?_, fun hd => ?_⟩
  · obtain ⟨report, h, -⟩ := Act.ok_of_bind hrun
    have hl := listeners_within h (Desk.keepReport_sameLogs _) fun slot _ =>
      Desk.keepJournal_sameLogs slot
    refine ⟨fun hwanted => ?_, fun n hn j hj => ?_⟩
    · obtain ⟨hno, -⟩ | ⟨-, disk, hdisk, -⟩ := startReport_ok h
      · exact absurd (hno.symm.trans hwanted) (by decide)
      · exact ⟨disk, hdisk⟩
    · have hopened : w.desk.SameLogs (startReport setup s w).state.desk := by
        obtain ⟨-, -, hstate⟩ | ⟨-, disk, -, -, hstate⟩ := startReport_ok h
        · rw [hstate]
          rfl
        · rw [hstate]
          rfl
      have hmem : Desk.keepJournal n ∈ listeners setup report :=
        List.mem_append_right _ (Option.mem_toList.mpr (Option.mem_map_of_mem _ hn))
      obtain ⟨notice, d, hend, hd, htold⟩ := told_of_run hrun h hl _ hmem
      obtain ⟨j', hj', hpath, hopen⟩ := (trans_of Desk.SameLogs hopened hd).journal hj
      rw [← hpath, ← hopen]
      exact Desk.open_of_told hend hj' htold
  · obtain ⟨result, hresult, -⟩ := run_ready (s := s) hd
    exact ⟨result, hresult⟩

/-- The account of a scenario that runs since some time. -/
def accountAt (s : Scenario) (started : Int) (steps : List StepRecord) : Account :=
  { title := s.title, status := .running, steps, startTime := started }

/-- The account of a scenario that began at some time and ended at another one. -/
def finalAccount (s : Scenario) (started ended : Int) (error : Option Failure)
    (steps : List StepRecord) : Account :=
  (s.accountAt started steps).finished ended (error.map Failure.text)

/-- The result of such a scenario. -/
def finalResult (s : Scenario) (report : Option Path) (started ended : Int)
    (error : Option Failure) (steps : List StepRecord) : ScenarioResult :=
  s.resultOf report error (s.finalAccount started ended error steps) (ended - started)

section Final

variable {report : Option Path} {started ended : Int} {error : Option Failure}
  {steps : List StepRecord}

theorem finalAccount_steps : (s.finalAccount started ended error steps).steps = steps :=
  (s.accountAt started steps).finished_steps ended (error.map Failure.text)

theorem finalAccount_unattributed :
    (s.finalAccount started ended error steps).unattributed = [] :=
  (s.accountAt started steps).finished_unattributed ended (error.map Failure.text)

theorem finalResult_title : (s.finalResult report started ended error steps).title = s.title := rfl

theorem finalResult_report : (s.finalResult report started ended error steps).report = report := rfl

theorem finalResult_steps : (s.finalResult report started ended error steps).steps = steps :=
  (s.accountAt started steps).finished_steps ended (error.map Failure.text)

theorem finalResult_softFailures : (s.finalResult report started ended error steps).softFailures =
    steps.flatMap StepRecord.softFailures := by
  show Account.softFailures (s.finalAccount started ended error steps) = _
  rw [Account.softFailures, finalAccount_steps, finalAccount_unattributed, List.append_nil]

theorem finalResult_passed_iff : (s.finalResult report started ended error steps).status = .passed ↔
    error = none ∧ steps.flatMap StepRecord.softFailures = [] := by
  have hsoft : (s.accountAt started steps).softFailures = steps.flatMap StepRecord.softFailures :=
    List.append_nil _
  show (s.finalAccount started ended error steps).status = .passed ↔ _
  rw [finalAccount, Account.finished_passed_iff, hsoft, Option.map_eq_none_iff]

/-- A scenario that passed has no error. -/
theorem finalResult_passed
    (h : (s.finalResult report started ended error steps).status = .passed) :
    (s.finalResult report started ended error steps).error = none ∧
      (s.finalResult report started ended error steps).errorCode = none := by
  refine ⟨(s.accountAt started steps).finished_error ended (error.map Failure.text) h, ?_⟩
  rw [(finalResult_passed_iff.mp h).1]
  rfl

theorem finalResult_errorCode :
    (s.finalResult report started ended error steps).errorCode.isSome = true ↔
      ∃ e, error = some (.engine e) := by
  show (error.bind codeOf?).isSome = true ↔ _
  cases error with
  | none => simp
  | some e => cases e <;> simp [codeOf?]

end Final

/-- A scenario that gives a result ends with the recorder that it began with, but for the records, and
with the result that belongs to these. -/
theorem run_settled (h : (s.run setup w).result = .ok result) :
    let driven := drive setup.engine s.steps (context setup s) (opening setup s w).state
    let error := Recorder.failure? driven.result
    let ended := driven.state.scene.clock
    ∃ report steps past halt records, (startReport setup s w).result = .ok report ∧
      driven.state.recorder =
        some ((s.recorderAt (listeners setup report) w.scene.clock).withSteps steps) ∧
      (s.run setup w).state = (Recorder.finish error driven.state).state ∧
      result = s.finalResult (report.map (·.2)) w.scene.clock ended error steps ∧
      (setup.engine.plugins.OnTime → Chronological steps ended) ∧
      error = halt.map Halt.error ∧
      steps = records ++ (Course.skipped halt).map (Step.skipRecord ended) ∧
      List.Forall₂ StepRecord.Tells (Course.begun past halt) records := by
  intro driven error ended
  obtain ⟨report, slot, hreport, -, -, hserves, hlisteners⟩ :=
    startReport_ready (s := s) (run_returns_iff.mp ⟨result, h⟩)
  obtain ⟨hquiet, hscene, hr⟩ := opening_quietBy hreport hserves hlisteners
  have hplugins : setup.engine.plugins.OnTime → setup.engine.plugins.OnTime := id
  have hopened : (s.recorderAt (listeners setup report) w.scene.clock).opened = [] := rfl
  obtain ⟨-, steps, hsteps, htime⟩ := Walk.orderly_drive hplugins hopened s.steps (context setup s) _
    ⟨hquiet, [], hr, fun _ => chronological_nil _⟩
  obtain ⟨r, past, halt, records, hr', hresult, -, herror, hrecords, hall⟩ :=
    run_coursed hreport hserves hlisteners
  cases hsteps.symm.trans hr'
  rw [h] at hresult
  exact ⟨report, steps, past, halt, records, hreport, hsteps,
    run_state hreport hserves hlisteners, Except.ok.inj hresult, htime, herror, hrecords, hall⟩

/-- However the steps of a scenario ended, its result says so. No step is open then, the records are
those of executed steps and then those of skipped ones, and each ended before the next one began
unless a plugin turned the clock back. The soft failures of the result are those of its records. The
scenario passed just if its steps came to their end and there are none of these, and then each of its
records passed and there is no error; otherwise it failed with an error, which has a code just if the
steps failed with a failure of the engine. -/
theorem run_outcome (h : (s.run setup w).result = .ok result) :
    let driven := drive setup.engine s.steps (context setup s) (opening setup s w).state
    ∃ r executed skipped, (s.run setup w).state.recorder = some r ∧ r.opened = [] ∧
      r.account.unattributed = [] ∧ r.account.steps = result.steps ∧
      result.steps = executed ++ skipped ∧
      (∀ x ∈ executed, (x.status = .passed ∨ x.status = .failed) ∧ x.endTime.isSome = true) ∧
      (∀ x ∈ skipped, x.status = .skipped ∧ x.endTime.isSome = true) ∧
      (setup.engine.plugins.OnTime → Chronological result.steps driven.state.scene.clock) ∧
      result.softFailures = result.steps.flatMap StepRecord.softFailures ∧
      (result.status = .passed ↔ driven.result = .ok () ∧ result.softFailures = []) ∧
      (result.status = .passed → (∀ x ∈ result.steps, x.status = .passed) ∧
        result.error = none ∧ result.errorCode = none) ∧
      (result.status ≠ .passed → result.status = .failed ∧ result.error.isSome = true) ∧
      (result.errorCode.isSome = true ↔ ∃ e, driven.result = .error (.engine e)) := by
  intro driven
  obtain ⟨report, steps, past, halt, records, -, hr, hstate, rfl, htime, herror, hrecords, hall⟩ :=
    run_settled h
  have hfinal : (s.run setup w).state.recorder = _ :=
    (congrArg Walk.recorder hstate).trans (Recorder.change_recorder _ _ _ _)
  rw [hr, Option.map_some] at hfinal
  have hended : ∀ x ∈ records, ∃ y ∈ Course.begun past halt, x.EndedWith (y.2.map Failure.text) := by
    intro x hx
    obtain ⟨y, hy, htells⟩ := forall₂_mem_right hall hx
    exact ⟨y, hy, htells.ended⟩
  refine ⟨_, records, (Course.skipped halt).map (Step.skipRecord driven.state.scene.clock), hfinal,
    rfl, finalAccount_unattributed, rfl, ?_⟩
  rw [finalResult_steps, finalResult_softFailures, finalResult_passed_iff, finalResult_errorCode,
    Recorder.failure?_eq_none]
  refine ⟨hrecords, ?_, ?_, htime, rfl, Iff.rfl, ?_,
    (s.accountAt w.scene.clock steps).finished_failed driven.state.scene.clock _, ?_⟩
  · intro x hx
    obtain ⟨y, -, hx⟩ := hended x hx
    exact ⟨hx.status, hx.endTime⟩
  · intro x hx
    obtain ⟨y, -, rfl⟩ := List.mem_map.mp hx
    exact ⟨rfl, rfl⟩
  · rintro ⟨hok, hsoft⟩
    have hnone : halt = none := by
      rw [Recorder.failure?_eq_none.mpr hok] at herror
      exact Option.map_eq_none_iff.mp herror.symm
    subst hnone
    refine ⟨fun x hx => ?_, finalResult_passed (finalResult_passed_iff.mpr
      ⟨Recorder.failure?_eq_none.mpr hok, hsoft⟩)⟩
    have hsoft := List.flatMap_eq_nil_iff.mp hsoft x hx
    rw [hrecords, Course.skipped, List.map_nil, List.append_nil] at hx
    obtain ⟨y, hy, hx⟩ := hended x hx
    rw [Course.begun, List.append_nil] at hy
    obtain ⟨z, -, rfl⟩ := List.mem_map.mp hy
    exact hx.passed hsoft
  · simp only [Recorder.failure?_eq_some]
    rfl

/-- A soft check fails and then the handler of a plugin, so that the last step is skipped. -/
theorem run_outcome_of_failures :
    let engine : Engine :=
      { settings := default
        plugins := (({} : Plugins).registerAll Bundled.registrations).1.freeze }
    let s : Scenario :=
      { description := "Words"
        steps := [
          { action := .wait, waitTime := some 7
            checks := [{ kind := .hasTitle, data := .str "Home", soft := true }] },
          { action := .custom "selectWord" .null },
          { action := .wait, waitTime := some 5 }] }
    let setup : Setup := { engine, runId := "", writeReports := false }
    ∃ result, (s.run setup {}).result = .ok result ∧
      (∃ last, Chronological result.steps last) ∧
      result.softFailures = result.steps.flatMap StepRecord.softFailures ∧
      (result.status, result.errorCode, result.steps.map StepRecord.status) =
        (.failed, some "MISSING_REQUIRED_FIELD", [.failed, .failed, .skipped]) := by
  intro engine s setup
  have hplugins : engine.plugins.OnTime := by
    have hbuilt : Plugins.build Bundled.registrations (fun _ => none) [] = .ok engine.plugins := rfl
    exact Bundled.onTime_build (fun _ _ h => by cases h) hbuilt
  obtain ⟨result, hresult⟩ : ∃ result, (s.run setup {}).result = .ok result :=
    run_returns_iff.mpr ⟨by simp, by simp⟩
  have htold : (s.run setup {}).result.toOption.map
      (fun x => (x.status, x.errorCode, x.steps.map StepRecord.status)) =
        some (.failed, some "MISSING_REQUIRED_FIELD", [.failed, .failed, .skipped]) := by
    decide +kernel
  rw [hresult] at htold
  obtain ⟨-, -, -, -, -, -, -, -, -, -, htime, hsoft, -⟩ := run_outcome hresult
  exact ⟨result, hresult, ⟨_, htime hplugins⟩, hsoft, Option.some.inj htold⟩

end Scenario
end Walkthrough
