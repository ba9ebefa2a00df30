import Walkthrough.Proofs.Chronicle
import Walkthrough.Proofs.Desk
import Walkthrough.Proofs.Places
import Walkthrough.Session.Scenario

/-! Running a scenario: what stands around its steps, and how a failure of them is reported. -/
namespace Walkthrough.Scenario

/-- Who is told of a scenario: its report if one is kept, and the event log of the run. -/
def listeners (setup : Setup) (report : Option (Listener × Path)) : List Listener :=
  (report.map (·.1)).toList ++ (setup.journal.map Desk.keepJournal).toList

/-- Begins to record a scenario. -/
def begin (s : Scenario) (listeners : List Listener) : Run Unit := fun w =>
  Recorder.beginScenario { w with
    recorder := some { account := { title := s.title, startTime := w.scene.clock }, listeners } }

/-- The state in which a scenario begins to be recorded. -/
def recordedBy (s : Scenario) (listeners : List Listener) (w : Walk) : Walk :=
  { w with recorder := some { account := { title := s.title, startTime := w.scene.clock }, listeners } }

theorem begin_eq (s : Scenario) (listeners : List Listener) (w : Walk) :
    begin s listeners w = Recorder.beginScenario (s.recordedBy listeners w) := rfl

/-- The result of a scenario, from its account at the end and the failure of its steps. -/
def resultOf (s : Scenario) (report : Option Path) (error : Option Failure) (a : Account)
    (duration : Int) : ScenarioResult where
  title := s.title
  description := s.description
  status := a.status
  steps := a.steps
  error := a.error
  errorCode := error.bind codeOf?
  softFailures := a.softFailures
  duration
  source := s.source
  report

/-- Ends a scenario whose steps began at some time and ended in some way. -/
def conclude (s : Scenario) (report : Option Path) (started : Int) (r : Except Failure Unit) :
    Run ScenarioResult :=
  Act.bind (Recorder.finish (Recorder.failure? r)) fun _ => Act.bind account fun a =>
    Act.bind Run.now fun now =>
      Act.pure (s.resultOf report (Recorder.failure? r) a (now - started))

/-- What a scenario does once it has begun. -/
def going (setup : Setup) (s : Scenario) (report : Option Path) : Run ScenarioResult :=
  Act.bind Run.now fun started =>
    Act.bind (Act.attempt (drive setup.engine s.steps (context setup s))) fun r =>
      conclude s report started r

variable {setup : Setup} {s : Scenario} {w : Walk}

/-- But for its log lines, a scenario begins, runs its steps and ends. -/
theorem runRecorded_eq (setup : Setup) (s : Scenario) (listeners : List Listener)
    (report : Option Path) : Act.unlogged (runRecorded setup s listeners report) =
      Act.unlogged (Act.bind (begin s listeners) fun _ => going setup s report) := by
  have hbegin : Act.unlogged (begin s listeners) =
      Act.bind (Act.unlogged Run.now) fun now =>
        Act.bind (Act.unlogged (Act.modify fun w : Walk => { w with
          recorder := some { account := { title := s.title, startTime := now }, listeners } }))
          fun _ => Act.unlogged Recorder.beginScenario := rfl
  unfold runRecorded going
  simp only [Act.bind_eq, Act.unlogged_bind, hbegin, Act.bind_assoc]
  congr 1
  funext now
  congr 1
  funext _
  congr 1
  funext _
  congr 1
  funext started
  congr 1
  funext r
  unfold conclude
  cases r with
  | ok _ =>
    simp only [Act.pure_bind, Act.unlogged_bind, Recorder.failure?]
    congr 1
    funext _
    congr 1
    funext a
    split <;> rfl
  | error e =>
    simp only [Act.unlogged_log, Act.pure_bind, Act.unlogged_bind, Recorder.failure?]
    rfl

/-- But for its log lines, a scenario opens its report and then goes its way. -/
theorem run_eq (setup : Setup) (s : Scenario) :
    Act.unlogged (s.run setup) = Act.unlogged (Act.bind (startReport setup s) fun report =>
      Act.bind (begin s (listeners setup report)) fun _ => going setup s (report.map (·.2))) := by
  unfold run
  simp only [Act.bind_eq, Act.unlogged_bind]
  congr 1
  funext report
  exact (runRecorded_eq setup s (listeners setup report) _).trans (Act.unlogged_bind _ _)

/-- What a scenario does before its steps. -/
def opening (setup : Setup) (s : Scenario) : Run (Option Path) :=
  Act.bind (startReport setup s) fun report =>
    Act.bind (begin s (listeners setup report)) fun _ => Act.pure (report.map (·.2))

theorem startReport_eq (setup : Setup) (s : Scenario) (w : Walk) :
    startReport setup s w =
      if setup.writeReports then
        match w.desk.openReport setup.engine.settings.reportDir s.title w.scene.clock with
        | .ok (desk, slot, path) =>
          ⟨.ok (some (Desk.keepReport slot, path)), { w with desk }, [], []⟩
        | .error e => ⟨.error e, w, [], []⟩
      else ⟨.ok none, w, [], []⟩ := by
  unfold startReport
  cases setup.writeReports with
  | false => rfl
  | true =>
    cases h : w.desk.openReport setup.engine.settings.reportDir s.title w.scene.clock with
    | error e => simp [Act.bind_eq, Act.bind, Run.now, atDesk, h]
    | ok opened =>
      simp only [if_true, Act.bind_eq, Act.bind, Run.now, atDesk, h]
      rfl

theorem startReport_scene (setup : Setup) (s : Scenario) (w : Walk) :
    (startReport setup s w).state.scene = w.scene := by
  rw [startReport_eq]
  split
  · split <;> rfl
  · rfl

/-- What it takes to open a report, and what comes of it. -/
theorem startReport_ok {report : Option (Listener × Path)}
    (h : (startReport setup s w).result = .ok report) :
    setup.writeReports = false ∧ report = none ∧ (startReport setup s w).state = w ∨
    setup.writeReports = true ∧ ∃ disk,
      w.desk.disk.ensurePath w.desk.cwd setup.engine.settings.reportDir = .ok disk ∧
      let path := Desk.reportPath setup.engine.settings.reportDir s.title w.scene.clock
      report = some (Desk.keepReport w.desk.reports.length, path) ∧
      (startReport setup s w).state =
        { w with desk := { w.desk with disk, reports := w.desk.reports ++ [some path] } } := by
  rw [startReport_eq] at h ⊢
  cases hwanted : setup.writeReports with
  | false =>
    rw [hwanted] at h
    cases h
    exact Or.inl ⟨rfl, rfl, rfl⟩
  | true =>
    rw [hwanted, if_pos rfl] at h
    rw [if_pos rfl]
    unfold Desk.openReport at h ⊢
    cases hdisk : w.desk.disk.ensurePath w.desk.cwd setup.engine.settings.reportDir with
    | error e =>
      rw [hdisk] at h
      cases h
    | ok disk =>
      rw [hdisk] at h
      cases h
      exact Or.inr ⟨rfl, disk, rfl, rfl, rfl⟩

theorem run_of_startReport {report : Option (Listener × Path)}
    (h : (startReport setup s w).result = .ok report) :
    let begun := Act.bind (begin s (listeners setup report))
      (fun _ => going setup s (report.map (·.2))) (startReport setup s w).state
    (s.run setup w).result = begun.result ∧ (s.run setup w).state = begun.state := by
  have hrun := congrFun (run_eq setup s) w
  have hresult := congrArg Outcome.result hrun
  have hstate := congrArg Outcome.state hrun
  simp only [Act.unlogged] at hresult hstate
  rw [Act.bind_of_ok h] at hresult hstate
  exact ⟨hresult, hstate⟩

/-- A scenario whose report cannot be opened does nothing. -/
theorem run_of_unreported {e : Failure} (h : (startReport setup s w).result = .error e) :
    (s.run setup w).result = .error e ∧ (s.run setup w).state = w := by
  have hrun : s.run setup w = _ := Act.bind_of_error h
  have hstate : (startReport setup s w).state = w := by
    rw [startReport_eq] at h ⊢
    split
    · rename_i hwanted
      rw [if_pos hwanted] at h
      split
      · rename_i hopened
        rw [hopened] at h
        cases h
      · rfl
    · rfl
  rw [hrun]
  exact ⟨rfl, hstate⟩

theorem startReport_inOrder (hd : w.desk.InOrder) {report : Option (Listener × Path)}
    (h : (startReport setup s w).result = .ok report) :
    (startReport setup s w).state.desk.InOrder ∧
      ∀ x ∈ report, ∃ slot, x.1 = Desk.keepReport slot := by
  obtain ⟨-, rfl, hstate⟩ | ⟨-, disk, hdisk, rfl, hstate⟩ := startReport_ok h
  · rw [hstate]
    exact ⟨hd, by simp⟩
  · rw [hstate]
    refine ⟨⟨fun p hp => ?_, hd.journals⟩, ?_⟩
    · rcases List.mem_append.mp hp with hp | hp
      · exact hd.reports p hp
      · rw [Option.some.inj (List.mem_singleton.mp hp)]
        exact Desk.hasNull_reportPath (Disk.hasNull_of_ensurePath hdisk) _ _
    · rintro x ⟨⟩
      exact ⟨_, rfl⟩

/-- The recorder with which the steps of a scenario begin. -/
def recorderAt (s : Scenario) (listeners : List Listener) (now : Int) : Recorder where
  account := { title := s.title, status := .running, startTime := now }
  listeners

theorem begin_recorder (s : Scenario) (listeners : List Listener) (w : Walk) :
    (begin s listeners w).state.recorder = some (s.recorderAt listeners w.scene.clock) :=
  Recorder.change_recorder _ _ _ _

theorem begin_scene (s : Scenario) (listeners : List Listener) (w : Walk) :
    (begin s listeners w).state.scene = w.scene :=
  Recorder.change_scene _ _ _ _

theorem begin_quietBy {order : Desk → Prop} {listeners : List Listener} (hd : order w.desk)
    (hl : ∀ l ∈ listeners, l.QuietAt order) :
    (begin s listeners w).result = .ok () ∧ (begin s listeners w).state.QuietBy order := by
  refine Recorder.change_quietBy (fun _ _ => rfl) ⟨hd, fun r hr => ?_⟩
  cases hr
  exact hl

/-- What a scenario ends with when its listeners are quiet. -/
theorem conclude_quietBy {order : Desk → Prop} {r : Recorder} (hw : w.QuietBy order)
    (hr : w.recorder = some r) (report : Option Path) (started : Int)
    (result : Except Failure Unit) :
    let o := conclude s report started result w
    let error := Recorder.failure? result
    o.state.QuietBy order ∧ o.state.scene = w.scene ∧
      o.result = .ok (s.resultOf report error
        (r.account.finished w.scene.clock (error.map Failure.text)) (w.scene.clock - started)) := by
  intro o error
  have hfinish : (Recorder.finish error w).result = .ok () ∧
      (Recorder.finish error w).state.QuietBy order := Recorder.change_quietBy (fun _ _ => rfl) hw
  have hrecorder : (Recorder.finish error w).state.recorder =
      some (r.finishing w.scene.clock (error.map Failure.text)) :=
    (Recorder.change_recorder _ _ _ _).trans (by rw [hr]; rfl)
  have hscene : (Recorder.finish error w).state.scene = w.scene := Recorder.change_scene _ _ _ _
  have haccount : account (Recorder.finish error w).state =
      ⟨.ok (r.account.finished w.scene.clock (error.map Failure.text)),
        (Recorder.finish error w).state, [], []⟩ := by
    simp only [account, Act.bind_eq, Act.bind, Act.get, hrecorder]
    rfl
  have ho : o = _ := Act.bind_of_ok hfinish.1
  rw [Act.bind_of_ok (congrArg Outcome.result haccount), haccount, Outcome.after_nothing] at ho
  rw [ho]
  refine ⟨hfinish.2, hscene, ?_⟩
  show Except.ok (s.resultOf report error _ ((Recorder.finish error w).state.scene.clock - started))
    = _
  rw [hscene]

theorem conclude_state (s : Scenario) (report : Option Path) (started : Int)
    (result : Except Failure Unit) (w : Walk) :
    (conclude s report started result w).state =
      (Recorder.finish (Recorder.failure? result) w).state := by
  obtain ⟨e, -, -, hs⟩ | ⟨_, -, hs⟩ := Act.bind_cases (Recorder.finish (Recorder.failure? result))
    (fun _ => Act.bind account fun a => Act.bind Run.now fun now =>
      Act.pure (s.resultOf report (Recorder.failure? result) a (now - started))) w
  · exact hs
  · exact congrArg Outcome.state hs

theorem suffix_context (setup : Setup) (s : Scenario) : (context setup s).suffix = .ok "" := by
  have hout : (context setup s).inIteration = false := rfl
  unfold Context.suffix
  rw [hout]
  rfl

theorem opening_state {report : Option (Listener × Path)}
    (h : (startReport setup s w).result = .ok report) : (opening setup s w).state =
      (begin s (listeners setup report) (startReport setup s w).state).state := by
  unfold opening
  rw [Act.bind_of_ok h]
  obtain ⟨e, -, -, hstate⟩ | ⟨_, -, hpure⟩ := Act.bind_cases (begin s (listeners setup report))
    (fun _ => (Act.pure (report.map (·.2)) : Run (Option Path))) (startReport setup s w).state
  · exact hstate
  · exact congrArg Outcome.state hpure

section Opened

variable {order : Desk → Prop} {report : Option (Listener × Path)}
  (h : (startReport setup s w).result = .ok report)
  (hd : order (startReport setup s w).state.desk)
  (hl : ∀ l ∈ listeners setup report, l.QuietAt order)
include h hd hl

/-- When the report of a scenario is opened, its steps begin with no records and with quiet
listeners. -/
theorem opening_quietBy :
    let w₀ := (opening setup s w).state
    w₀.QuietBy order ∧ w₀.scene = w.scene ∧
      w₀.recorder = some (s.recorderAt (listeners setup report) w.scene.clock) := by
  intro w₀
  have hw₀ : w₀ = _ := opening_state h
  have hscene := startReport_scene setup s w
  rw [hw₀, begin_recorder, begin_scene, hscene]
  exact ⟨(begin_quietBy hd hl).2, rfl, rfl⟩

/-- Then the scenario goes on to its end whatever becomes of its steps. -/
theorem run_concluded :
    let w₀ := (opening setup s w).state
    let o := drive setup.engine s.steps (context setup s) w₀
    let ended := conclude s (report.map (·.2)) w.scene.clock o.result o.state
    (s.run setup w).result = ended.result ∧ (s.run setup w).state = ended.state := by
  obtain ⟨-, hscene, -⟩ := opening_quietBy h hd hl
  obtain ⟨hresult, hstate⟩ := run_of_startReport h
  intro w₀ o ended
  unfold going at hresult hstate
  rw [Act.bind_of_ok (begin_quietBy hd hl).1, ← opening_state h,
    Act.bind_of_ok (a := w₀.scene.clock) rfl, Act.bind_of_ok (a := o.result) rfl, hscene]
    at hresult hstate
  exact ⟨hresult, hstate⟩

/-- The state that the scenario leaves is that behind its last event. -/
theorem run_state :
    let o := drive setup.engine s.steps (context setup s) (opening setup s w).state
    (s.run setup w).state = (Recorder.finish (Recorder.failure? o.result) o.state).state := by
  intro o
  rw [(run_concluded h hd hl).2, conclude_state]

/-- The result of a scenario tells what its recorder holds when its steps have ended. -/
theorem run_of_quietBy {r : Recorder} :
    let o := drive setup.engine s.steps (context setup s) (opening setup s w).state
    let error := Recorder.failure? o.result
    o.state.recorder = some r →
      (s.run setup w).state.QuietBy order ∧ (s.run setup w).state.scene = o.state.scene ∧
      (s.run setup w).result = .ok (s.resultOf (report.map (·.2)) error
        (r.account.finished o.state.scene.clock (error.map Failure.text))
        (o.state.scene.clock - w.scene.clock)) := by
  intro o error hr
  obtain ⟨hresult, hstate⟩ := run_concluded h hd hl
  have ho : o.state.QuietBy order := Walk.staysQuietBy_drive setup.engine s.steps
    (context setup s) _ (opening_quietBy h hd hl).1
  rw [hresult, hstate]
  exact conclude_quietBy ho hr (report.map (·.2)) w.scene.clock o.result

/-- What is recorded by then are the visits that began in the course of the steps, and the steps
that were skipped if it halted. -/
theorem run_recorded {I : Walk → Prop} {P : Visit → Prop}
    {R : Visit × Option Failure → StepRecord → Prop}
    (hrecords : Visit.Records (Visit.doneBy (Step.runOnce setup.engine)) I P R)
    (hbegin : I (opening setup s w).state)
    (hvisits : ∀ past halt, Course (Visit.doneBy (Step.runOnce setup.engine))
      (stage s.steps (context setup s)) (opening setup s w).state past halt →
        ∀ x ∈ Course.begun past halt, P x.1) :
    let o := drive setup.engine s.steps (context setup s) (opening setup s w).state
    let error := Recorder.failure? o.result
    ∃ r past halt records, o.state.recorder = some r ∧
      (s.run setup w).result = .ok (s.resultOf (report.map (·.2)) error
        (r.account.finished o.state.scene.clock (error.map Failure.text))
        (o.state.scene.clock - w.scene.clock)) ∧
      Course (Visit.doneBy (Step.runOnce setup.engine)) (stage s.steps (context setup s))
        (opening setup s w).state past halt ∧ error = halt.map Halt.error ∧
      r.account.steps = records ++
        (Course.skipped halt).map (Step.skipRecord o.state.scene.clock) ∧
      List.Forall₂ R (Course.begun past halt) records := by
  intro o error
  obtain ⟨-, -, hr⟩ := opening_quietBy h hd hl
  obtain ⟨past, halt, hcourse⟩ := Course.exists (Visit.doneBy (Step.runOnce setup.engine))
    (stage s.steps (context setup s)) (opening setup s w).state
  have hdrive : (stage s.steps (context setup s)).run (Visit.doneBy (Step.runOnce setup.engine))
      (opening setup s w).state = { o with logs := [] } :=
    (congrFun (drive_eq setup.engine s.steps (context setup s)) _).symm
  obtain ⟨herr, hdone, r, records, hr', hsteps, hall⟩ :=
    hcourse.recorded hrecords hbegin hr (hvisits past halt hcourse)
  rw [hdrive] at herr hdone hr' hsteps
  refine ⟨r, past, halt, records, hr', (run_of_quietBy h hd hl hr').2.2, hcourse, ?_, hsteps, hall⟩
  cases halt with
  | none => exact congrArg Recorder.failure? (hdone rfl)
  | some stop => exact congrArg Recorder.failure? (herr stop rfl)

/-- The records tell how the visits ended. -/
theorem run_coursed :
    let o := drive setup.engine s.steps (context setup s) (opening setup s w).state
    let error := Recorder.failure? o.result
    ∃ r past halt records, o.state.recorder = some r ∧
      (s.run setup w).result = .ok (s.resultOf (report.map (·.2)) error
        (r.account.finished o.state.scene.clock (error.map Failure.text))
        (o.state.scene.clock - w.scene.clock)) ∧
      Course (Visit.doneBy (Step.runOnce setup.engine)) (stage s.steps (context setup s))
        (opening setup s w).state past halt ∧ error = halt.map Halt.error ∧
      r.account.steps = records ++
        (Course.skipped halt).map (Step.skipRecord o.state.scene.clock) ∧
      List.Forall₂ StepRecord.Tells (Course.begun past halt) records := by
  refine run_recorded h hd hl (Visit.records_tells setup.engine)
    ⟨_, (opening_quietBy h hd hl).1⟩ fun past halt hcourse => ?_
  obtain ⟨hpast, hhalt⟩ := hcourse.suffix ⟨_, suffix_context setup s⟩
  exact Course.of_begun (P := fun v => ∃ suffix, v.ctx.suffix = .ok suffix) hpast hhalt

end Opened

theorem quietAt_listeners {report : Option (Listener × Path)}
    (hreport : ∀ x ∈ report, ∃ slot, x.1 = Desk.keepReport slot) :
    ∀ l ∈ listeners setup report, l.QuietAt Desk.InOrder := by
  intro l hl
  rcases List.mem_append.mp hl with hl | hl
  · obtain ⟨x, hx, rfl⟩ := Option.map_eq_some_iff.mp (Option.mem_toList.mp hl)
    obtain ⟨slot, hslot⟩ := hreport x hx
    rw [hslot]
    exact Desk.keepReport_quiet slot
  · obtain ⟨slot, -, rfl⟩ := Option.map_eq_some_iff.mp (Option.mem_toList.mp hl)
    exact Desk.keepJournal_quiet slot

end Walkthrough.Scenario
