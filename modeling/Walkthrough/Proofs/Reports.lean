import Walkthrough.Proofs.Files
import Walkthrough.Proofs.Outcome

/-!
The report of a scenario is up to date: whoever is told of something behind the report finds the account
in its file as it is at that moment.
-/
namespace Walkthrough

namespace Desk

/-- The report at a path is that of an account. -/
def Shows (path : Path) (a : Account) (d : Desk) : Prop :=
  d.disk.read d.cwd path = .ok (.text a.toJson.renderIndented)

instance (path : Path) (a : Account) (d : Desk) : Decidable (d.Shows path a) :=
  inferInstanceAs (Decidable (d.disk.read d.cwd path = .ok (.text a.toJson.renderIndented)))

/-- Reports elsewhere are left as they are. -/
theorem Touches.shows {p path : Path} {a : Account} {d d' : Desk} (h : d.Touches p d')
    (hapart : path.Apart p) (hshows : d.Shows path a) : d'.Shows path a := by
  unfold Shows at hshows ⊢
  rw [h.cwd]
  obtain hsame | ⟨f, hchange⟩ := h.disk
  · rwa [hsame]
  · exact Disk.read_change_of_apart hapart hshows hchange

/-- Directories stay where they are, and paths lead to the same places. -/
def Retaining (d d' : Desk) : Prop := d'.cwd = d.cwd ∧ d.disk.Retains d'.disk

instance : IsPreorder Desk Retaining where
  refl _ := ⟨rfl, fun _ h => h⟩
  trans _ _ _ := fun h h' => ⟨h'.1.trans h.1, fun key hkey => h'.2 key (h.2 key hkey)⟩

theorem keepReport_retaining (slot : Nat) : (keepReport slot).Within Retaining := by
  intro n d
  obtain hsame | ⟨p, -, ht⟩ := keepReport_touches slot n d
  · rw [hsame]
    exact refl_of Retaining d
  · exact ht.retains

theorem keepJournal_retaining (slot : Nat) : (keepJournal slot).Within Retaining := by
  intro n d
  obtain hsame | ⟨x, -, ht⟩ := keepJournal_touches slot n d
  · rw [hsame]
    exact refl_of Retaining d
  · exact ht.retains

/-- The event log stands elsewhere than a report. -/
def LogElsewhere (path : Path) (journal : Option Nat) (d : Desk) : Prop :=
  ∀ n ∈ journal, ∀ x, d.logs[n]? = some x → path.Apart x.1

/-- A report that is kept in a file that can be written. The event log stands elsewhere. -/
structure Keeping (slot : Nat) (path : Path) (journal : Option Nat) (d : Desk) : Prop where
  report : d.reports[slot]? = some (some path)
  writable : d.disk.Writable d.cwd path
  elsewhere : d.LogElsewhere path journal

variable {slot : Nat} {path : Path} {journal : Option Nat} {a : Account} {d d' : Desk}

theorem LogElsewhere.of_sameLogs (h : d.LogElsewhere path journal) (hsame : d.SameLogs d') :
    d'.LogElsewhere path journal := by
  intro n hn x hx
  rw [show d'.logs = d.logs from hsame] at hx
  exact h n hn x hx

theorem Touches.keeping {p : Path} (ht : d.Touches p d') (h : d.Keeping slot path journal) :
    d'.Keeping slot path journal :=
  ⟨ht.reports ▸ h.report, ht.writable h.writable, h.elsewhere.of_sameLogs ht.logs⟩

/-- A desk that shows a report, and where the event log and another report stand elsewhere. -/
structure Leaves (slot : Nat) (path : Path) (journal : Option Nat) (a : Account) (d : Desk) : Prop where
  shows : d.Shows path a
  elsewhere : d.LogElsewhere path journal
  reports : ∀ p, d.reports[slot]? = some (some p) → path.Apart p

theorem Touches.leaves {p : Path} (ht : d.Touches p d') (hapart : path.Apart p)
    (h : d.Leaves slot path journal a) : d'.Leaves slot path journal a :=
  ⟨ht.shows hapart h.shows, h.elsewhere.of_sameLogs ht.logs, ht.reports ▸ h.reports⟩

theorem keepReport_shows (h : d.Keeping slot path journal) (n : Notice) :
    (keepReport slot n d).2 = .ok () ∧ (keepReport slot n d).1.Keeping slot path journal ∧
      (keepReport slot n d).1.Shows path n.account := by
  obtain ⟨disk, hdisk⟩ := h.writable.change fun _ => .text n.account.toJson.renderIndented
  obtain ⟨old, hread, -⟩ := Disk.read_change hdisk
  have hkeep : keepReport slot n d = ({ d with disk }, .ok ()) := by
    unfold keepReport
    simp only [h.report, Disk.write, hdisk, tryDisk]
  obtain hsame | ⟨p, -, ht⟩ := keepReport_touches slot n d
  · rw [hkeep] at hsame ⊢
    exact ⟨rfl, hsame.symm ▸ h, hread⟩
  · rw [hkeep] at ht ⊢
    exact ⟨rfl, ht.keeping h, hread⟩

/-- The event log leaves the report as it is. -/
theorem keepJournal_shows {m : Nat} (hm : m ∈ journal) : (keepJournal m).Within
    (Act.Keeps fun d => d.Keeping slot path journal ∧ d.Shows path a) := by
  intro n d ⟨h, hshows⟩
  obtain hsame | ⟨x, hx, ht⟩ := keepJournal_touches m n d
  · rw [hsame]
    exact ⟨h, hshows⟩
  · exact ⟨ht.keeping h, ht.shows (h.elsewhere m hm x hx) hshows⟩

/-- Who is told of a scenario whose report is kept. -/
def reporters (slot : Nat) (journal : Option Nat) : List Listener :=
  keepReport slot :: (journal.map keepJournal).toList

/-- When the listeners have been told of something, the report shows the account as it was then. -/
theorem told_shows (h : d.Keeping slot path journal) (n : Notice) :
    let told := Act.each (reporters slot journal) (Recorder.tell n) d
    told.state.Keeping slot path journal ∧ told.state.Shows path n.account := by
  intro told
  obtain ⟨hok, hkept, hshows⟩ := keepReport_shows h n
  have htold : told = (Act.each (journal.map keepJournal).toList (Recorder.tell n)
      (keepReport slot n d).1).after (Recorder.tell n (keepReport slot) d) := by
    have hfirst := Recorder.tell_of_ok hok
    refine (Act.bind_of_ok (a := ()) (by rw [hfirst])).trans ?_
    rw [hfirst]
  rw [htold, Outcome.after_state]
  refine (Act.closed_within (Act.Keeps fun d : Desk => d.Keeping slot path journal ∧
    d.Shows path n.account)).each (fun l hl => Recorder.tell_within ?_ n) _ ⟨hkept, hshows⟩
  obtain ⟨m, hm, rfl⟩ := Option.map_eq_some_iff.mp (Option.mem_toList.mp hl)
  exact keepJournal_shows hm

end Desk

open Desk

variable {slot : Nat} {path : Path} {journal : Option Nat} {w : Walk}

/-- The report of the scenario that is run is kept. -/
def Walk.Reporting (slot : Nat) (path : Path) (journal : Option Nat) (w : Walk) : Prop :=
  (∀ r ∈ w.recorder, r.listeners = reporters slot journal) ∧ w.desk.Keeping slot path journal

/-- Whatever changes what is recorded, the report shows it. -/
theorem Recorder.change_shows {f : Recorder → Int → Recorder} {event : RecorderEvent}
    {record : Recorder → Option StepRecord} {r : Recorder}
    (hr : (change f event record w).state.recorder = some r)
    (hl : r.listeners = reporters slot journal) (h : w.desk.Keeping slot path journal) :
    (change f event record w).state.desk.Keeping slot path journal ∧
      (change f event record w).state.desk.Shows path r.account := by
  rw [change_recorder] at hr
  obtain ⟨r', hr', rfl⟩ := Option.map_eq_some_iff.mp hr
  rw [change_of_some hr', emit_eq, hl]
  exact told_shows h _

/-! One more listener, who objects to what the report shows. -/

/-- The recorder with a listener behind the others. -/
def Recorder.alsoTelling (r : Recorder) (l : Listener) : Recorder :=
  { r with listeners := r.listeners ++ [l] }

def Walk.alsoTelling (w : Walk) (l : Listener) : Walk :=
  { w with recorder := w.recorder.map (·.alsoTelling l) }

/-- Two states that differ by a listener behind those that keep the report. -/
def Walk.Watched (slot : Nat) (path : Path) (journal : Option Nat) (watch : Listener)
    (w v : Walk) : Prop :=
  w.Reporting slot path journal ∧ v = w.alsoTelling watch

/-- A listener that does nothing as long as the report at a path shows the account that it is told
of. -/
def Listener.Agrees (watch : Listener) (path : Path) : Prop :=
  ∀ n d, d.Shows path n.account → watch n d = (d, .ok ())

/-- Who listens does not hear from a deaf change that somebody else listens too. -/
theorem Recorder.Deaf.alsoTelling {f : Recorder → Int → Recorder}
    {record : Recorder → Option StepRecord} (h : Deaf f record) (r : Recorder) (l : Listener)
    (now : Int) : f (r.alsoTelling l) now = (f r now).alsoTelling l := by
  unfold Recorder.alsoTelling
  rw [h.change, h.listeners]

/-- What is done on the page does not depend on who listens. -/
theorem Walk.watched_touches (watch : Listener) (engine : Engine) :
    engine.Touches (Act.Respects (Watched slot path journal watch)) := by
  have hscene : ∀ {α : Type} (x : Play α),
      Act.Respects (Watched slot path journal watch) (Run.onScene x) := by
    rintro α x w _ ⟨h, rfl⟩
    exact ⟨rfl, h, rfl⟩
  exact ⟨fun _ => hscene _, fun _ => hscene _, fun _ _ _ => hscene _, fun _ => hscene _,
    fun _ _ _ => hscene _⟩

theorem Walk.watched_count (watch : Listener) :
    Act.Respects (Watched slot path journal watch) Recorder.count := by
  rintro w _ ⟨h, rfl⟩
  rw [Recorder.count_eq, Recorder.count_eq]
  refine ⟨?_, h, rfl⟩
  unfold Recorder.position Walk.alsoTelling
  cases w.recorder <;> rfl

section Watch

variable {watch : Listener} (hwatch : watch.Agrees path)
include hwatch

/-- Behind those who keep the report, the listener does nothing. -/
theorem Desk.told_watched {d : Desk} (h : d.Keeping slot path journal) (n : Notice) :
    let told := Act.each (reporters slot journal) (Recorder.tell n) d
    let watched := Act.each (reporters slot journal ++ [watch]) (Recorder.tell n) d
    watched.result = told.result ∧ watched.state = told.state := by
  intro told watched
  have hsilent := hwatch n told.state (told_shows h n).2
  have htell : Recorder.tell n watch told.state = ⟨.ok (), told.state, [], []⟩ := by
    rw [Recorder.tell_of_ok (by rw [hsilent]), hsilent]
  have hwatched : watched = Act.bind (Act.each (reporters slot journal) (Recorder.tell n))
      (fun _ => Recorder.tell n watch) d := by
    show Act.each (reporters slot journal ++ [watch]) (Recorder.tell n) d = _
    rw [Act.each_append, Act.each_singleton]
  rw [hwatched]
  obtain ⟨e, he, hresult, hstate⟩ | ⟨_, hok, hsecond⟩ := Act.bind_cases
    (Act.each (reporters slot journal) (Recorder.tell n)) (fun _ => Recorder.tell n watch) d
  · exact ⟨hresult.trans he.symm, hstate⟩
  · rw [hsecond, Outcome.after_result, Outcome.after_state,
      show Recorder.tell n watch (Act.each (reporters slot journal) (Recorder.tell n) d).state = _
        from htell]
    exact ⟨hok.symm, rfl⟩

/-- The listener does nothing about a change. -/
theorem Walk.watched_change {f : Recorder → Int → Recorder} {event : RecorderEvent}
    {record : Recorder → Option StepRecord} (hf : Recorder.Deaf f record) :
    Act.Respects (Watched slot path journal watch) (Recorder.change f event record) := by
  rintro w _ ⟨⟨hlisteners, h⟩, rfl⟩
  cases hr : w.recorder with
  | none =>
    have hr' : (w.alsoTelling watch).recorder = none := by
      unfold Walk.alsoTelling
      rw [hr]
      rfl
    rw [Recorder.change_of_none hr, Recorder.change_of_none hr']
    exact ⟨rfl, ⟨hlisteners, h⟩, rfl⟩
  | some r =>
    have hr' : (w.alsoTelling watch).recorder = some (r.alsoTelling watch) := by
      unfold Walk.alsoTelling
      rw [hr]
      rfl
    have hsame : (f r w.scene.clock).listeners = reporters slot journal :=
      (hf.listeners _ _).trans (hlisteners r hr)
    have hboth : ((f r w.scene.clock).alsoTelling watch).listeners =
        reporters slot journal ++ [watch] := congrArg (· ++ [watch]) hsame
    let n : Notice :=
      ⟨event, record (f r w.scene.clock), (f r w.scene.clock).account, w.scene.clock⟩
    obtain ⟨hkept, -⟩ := told_shows h n
    obtain ⟨hresult, hstate⟩ := told_watched hwatch h n
    rw [Recorder.change_of_some hr, Recorder.change_of_some hr',
      show (w.alsoTelling watch).scene = w.scene from rfl, hf.alsoTelling, Recorder.emit_eq,
      Recorder.emit_eq, hboth, hsame,
      show record ((f r w.scene.clock).alsoTelling watch) = _ from hf.record _ _]
    refine ⟨hresult, ⟨fun x hx => ?_, hkept⟩, ?_⟩
    · cases hx
      exact hsame
    · exact congrArg (fun desk =>
        (⟨w.scene, some ((f r w.scene.clock).alsoTelling watch), desk⟩ : Walk)) hstate

theorem Walk.watched_begin :
    Act.Respects (Watched slot path journal watch) Recorder.beginScenario :=
  watched_change hwatch Recorder.deaf_beginning

theorem Walk.watched_drive (engine : Engine) (steps : List Step) (ctx : Context) :
    Act.Respects (Watched slot path journal watch) (Scenario.drive engine steps ctx) :=
  Scenario.closed_drive_of_deaf (Act.closed_respects (Watched slot path journal watch))
    (watched_touches watch engine) (watched_change hwatch) (watched_count watch) steps ctx

/-- Once a scenario has begun, the listener does nothing. -/
theorem Scenario.watched_going (setup : Setup) (s : Scenario) (report : Option Path) :
    Act.Respects (Walk.Watched slot path journal watch) (s.going setup report) := by
  have hP := Act.closed_respects (Walk.Watched slot path journal watch)
  have hnow : Act.Respects (Walk.Watched slot path journal watch) Run.now := by
    rintro w _ ⟨h, rfl⟩
    exact ⟨rfl, h, rfl⟩
  have haccount : Act.Respects (Walk.Watched slot path journal watch) account := by
    rintro w _ ⟨h, rfl⟩
    refine ⟨?_, h, rfl⟩
    unfold account Walk.alsoTelling
    cases hr : w.recorder <;> simp only [Act.bind_eq, Act.bind, Act.get, hr] <;> rfl
  refine hP.bind hnow fun started => hP.bind (hP.attempt (Walk.watched_drive hwatch _ _ _)) ?_
  intro r
  refine hP.bind (Walk.watched_change hwatch (Recorder.deaf_finishing _)) fun _ => hP.bind haccount fun a => ?_
  exact hP.bind hnow fun now => hP.pure _

end Watch

/-- What no listener who agrees with the report has a part in keeps the report. -/
theorem Walk.reporting_of_watched {α : Type} {x : Run α} (hx : ∀ watch : Listener,
    watch.Agrees path → Act.Respects (Watched slot path journal watch) x) :
    Act.Within (Act.Keeps (Reporting slot path journal)) x :=
  fun w h => (hx (fun _ d => (d, .ok ())) (fun _ _ _ => rfl) w _ ⟨h, rfl⟩).2.1

/-- The account of a scenario that began at some time and gave a result. -/
def ScenarioResult.account (r : ScenarioResult) (started : Int) : Account where
  title := r.title
  status := r.status
  error := r.error
  steps := r.steps
  startTime := started
  endTime := some (started + r.duration)

namespace Scenario

variable {setup : Setup} {s : Scenario} {result : ScenarioResult}

theorem finalResult_account {report : Option Path} {started ended : Int} {error : Option Failure}
    {steps : List StepRecord} : (s.finalResult report started ended error steps).account started =
      s.finalAccount started ended error steps := by
  have hended : some (started + (ended - started)) = some ended := by
    rw [Int.add_comm, Int.sub_add_cancel]
  unfold ScenarioResult.account
  rw [show (s.finalResult report started ended error steps).duration = ended - started from rfl,
    hended]
  obtain ⟨e, -, h⟩ | ⟨-, -, h⟩ :=
    (s.accountAt started steps).finished_cases ended (error.map Failure.text)
  · unfold finalResult resultOf finalAccount
    rw [h]
    rfl
  · unfold finalResult resultOf finalAccount
    rw [h]
    rfl

theorem reporting_recordedBy (h : w.desk.Keeping slot path journal) :
    (s.recordedBy (reporters slot journal) w).Reporting slot path journal := by
  refine ⟨?_, h⟩
  rintro r ⟨⟩
  rfl

/-- Runs a scenario with one more listener, who is told behind the others. -/
def runWatched (setup : Setup) (watch : Listener) (s : Scenario) : Run ScenarioResult :=
  Act.bind (startReport setup s) fun report =>
    runRecorded setup s (listeners setup report ++ [watch]) (report.map (·.2))

section Kept

variable (hreport : (startReport setup s w).result = .ok (some (keepReport slot, path)))
  (hkeep : (startReport setup s w).state.desk.Keeping slot path setup.journal)
include hreport hkeep

/-- A scenario comes to the same with a listener who agrees with its report whenever he is told of
something. -/
theorem runWatched_of_agrees {watch : Listener} (hwatch : watch.Agrees path) :
    (s.runWatched setup watch w).result = (s.run setup w).result ∧
      (s.runWatched setup watch w).state = (s.run setup w).state.alsoTelling watch := by
  have hrespects := (Act.closed_respects (Walk.Watched slot path setup.journal watch)).bind
    (Walk.watched_begin hwatch) fun _ => watched_going hwatch setup s (some path)
  obtain ⟨hresult, -, hstate⟩ := hrespects _ _ ⟨reporting_recordedBy hkeep, rfl⟩
  obtain ⟨hrun, hrun'⟩ := run_of_startReport hreport
  have hwatched := congrFun (runRecorded_eq setup s (reporters slot setup.journal ++ [watch])
    (some path)) (startReport setup s w).state
  have hboth : s.runWatched setup watch w = _ := Act.bind_of_ok hreport
  rw [hboth, Outcome.after_result, Outcome.after_state, hrun, hrun']
  exact ⟨(congrArg Outcome.result hwatched).trans hresult,
    (congrArg Outcome.state hwatched).trans hstate⟩

/-- The report of a scenario with a result shows what the result tells. -/
theorem run_shows (h : (s.run setup w).result = .ok result) :
    (s.run setup w).state.desk.Shows path (result.account w.scene.clock) := by
  obtain ⟨report, steps, -, -, -, hreport', hr, hstate, rfl, -⟩ := run_settled h
  cases hreport.symm.trans hreport'
  have hbegun : (opening setup s w).state.Reporting slot path setup.journal := by
    rw [opening_state hreport, begin_eq]
    exact Walk.reporting_of_watched (fun _ hwatch => Walk.watched_begin hwatch) _
      (reporting_recordedBy hkeep)
  let driven := drive setup.engine s.steps (context setup s) (opening setup s w).state
  have hdriven : driven.state.Reporting slot path setup.journal :=
    Walk.reporting_of_watched (fun _ hwatch => Walk.watched_drive hwatch _ _ _) _ hbegun
  have hended : (Recorder.finish (Recorder.failure? driven.result) driven.state).state.recorder = _ :=
    Recorder.change_recorder _ _ _ _
  rw [hr, Option.map_some] at hended
  rw [hstate, finalResult_account]
  exact (Recorder.change_shows hended rfl hdriven.2).2

end Kept

theorem run_title (h : (s.run setup w).result = .ok result) : result.title = s.title := by
  obtain ⟨report, steps, -, -, -, -, -, -, rfl, -⟩ := run_settled h
  exact finalResult_title

/-- The result of a scenario tells where its report is. -/
theorem run_report (hwanted : setup.writeReports = true) (h : (s.run setup w).result = .ok result) :
    result.report =
      some (reportPath setup.engine.settings.reportDir result.title w.scene.clock) := by
  rw [run_title h]
  obtain ⟨report, steps, -, -, -, hreport, -, -, rfl, -⟩ := run_settled h
  refine finalResult_report.trans ?_
  obtain ⟨hno, -⟩ | ⟨-, disk, -, hopened, -⟩ := startReport_ok hreport
  · rw [hno] at hwanted
    cases hwanted
  · rw [hopened, Option.map_some]

/-- A scenario that opens its report keeps it if its file can be written. -/
theorem startReport_keeping {disk : Disk} (hwanted : setup.writeReports = true)
    (hdisk : w.desk.disk.ensurePath w.desk.cwd setup.engine.settings.reportDir = .ok disk)
    (hpath : path = reportPath setup.engine.settings.reportDir s.title w.scene.clock)
    (hwrite : disk.Writable w.desk.cwd path) (hlog : w.desk.LogElsewhere path setup.journal) :
    (startReport setup s w).result = .ok (some (keepReport w.desk.reports.length, path)) ∧
      (startReport setup s w).state.desk =
        { w.desk with disk, reports := w.desk.reports ++ [some path] } ∧
      (startReport setup s w).state.desk.Keeping w.desk.reports.length path setup.journal := by
  have hstart : startReport setup s w =
      ⟨.ok (some (keepReport w.desk.reports.length, path)),
        { w with desk := { w.desk with disk, reports := w.desk.reports ++ [some path] } }, [], []⟩ := by
    rw [startReport_eq, if_pos hwanted]
    unfold Desk.openReport
    rw [hdisk, hpath]
    rfl
  rw [hstart]
  exact ⟨rfl, rfl, List.getElem?_concat_length, hwrite, hlog⟩

/-! What a scenario does to other files than its report. -/

theorem run_sameLogs (setup : Setup) (s : Scenario) (w : Walk) :
    w.desk.SameLogs (s.run setup w).state.desk :=
  run_within_desk (fun _ _ => rfl) (keepReport_sameLogs _) fun _ _ => keepJournal_sameLogs _

/-- The directories stay where they are. -/
theorem run_retains (setup : Setup) (s : Scenario) (w : Walk) :
    w.desk.Retaining (s.run setup w).state.desk :=
  run_within_desk (fun _ hdisk => ⟨rfl, (Disk.grows_ensurePath hdisk).retains⟩)
    (keepReport_retaining _) fun _ _ => keepJournal_retaining _

/-- A report whose path is not that of a directory later on shows what the result tells. -/
theorem run_shows_of_free {d : Desk} (hwanted : setup.writeReports = true)
    (hpath : path = reportPath setup.engine.settings.reportDir result.title w.scene.clock)
    (hlog : w.desk.LogElsewhere path setup.journal) (h : (s.run setup w).result = .ok result)
    (hlater : (s.run setup w).state.desk.Retaining d)
    (hfree : d.disk.isDirectory d.cwd path = .ok false) :
    (s.run setup w).state.desk.Shows path (result.account w.scene.clock) := by
  rw [run_title h] at hpath
  obtain ⟨report, hreport, -⟩ := Act.ok_of_bind h
  have hrun := run_within (s := s) hreport (listeners_within hreport (keepReport_retaining _)
    fun slot _ => keepJournal_retaining slot)
  obtain ⟨hno, -⟩ | ⟨-, disk, hdisk, -, hstate⟩ := startReport_ok hreport
  · rw [hno] at hwanted
    cases hwanted
  · rw [hstate] at hrun
    obtain ⟨hcwd, hretains⟩ := trans_of Retaining hrun hlater
    rw [hcwd, hpath] at hfree
    have hwrite := reportPath_writable (Disk.isDirectory_of_ensurePath hdisk) hretains hfree
    rw [← hpath] at hwrite
    obtain ⟨hstart, -, hkeep⟩ := startReport_keeping hwanted hdisk hpath hwrite hlog
    exact run_shows hstart hkeep h

/-- A report of another scenario stays as it is. -/
theorem run_leaves {a : Account} (hshows : w.desk.Shows path a)
    (hlog : w.desk.LogElsewhere path setup.journal)
    (hother : path.Apart (reportPath setup.engine.settings.reportDir s.title w.scene.clock)) :
    (s.run setup w).state.desk.Shows path a := by
  have hleaves : Act.Keeps (Leaves w.desk.reports.length path setup.journal a) w.desk
      (s.run setup w).state.desk := by
    refine run_within_desk (fun disk hdisk h => ?_) ?_ ?_
    · exact ⟨(Disk.grows_ensurePath hdisk).read h.shows, h.elsewhere, fun p hp => by
        dsimp only at hp
        rw [List.getElem?_concat_length] at hp
        rwa [← Option.some.inj (Option.some.inj hp)]⟩
    · intro n d h
      obtain hsame | ⟨p, hp, ht⟩ := keepReport_touches w.desk.reports.length n d
      · rwa [hsame]
      · exact ht.leaves (h.reports p hp) h
    · intro slot hslot n d h
      obtain hsame | ⟨x, hx, ht⟩ := keepJournal_touches slot n d
      · rwa [hsame]
      · exact ht.leaves (h.elsewhere slot hslot x hx) h
  refine (hleaves ⟨hshows, hlog, fun p hp => ?_⟩).shows
  rw [List.getElem?_eq_none (Nat.le_refl _)] at hp
  cases hp

end Scenario
end Walkthrough
