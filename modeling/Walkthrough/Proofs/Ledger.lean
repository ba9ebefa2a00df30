import Walkthrough.Proofs.Files
import Walkthrough.Proofs.Json.Written
import Walkthrough.Proofs.Outcome

/-!
The event log of a run gets one line for each record when its step has ended, and one for each scenario
when it has ended. The lines are numbered one after the other, over all scenarios of the run.
-/
namespace Walkthrough

theorem Disk.appended_appended (text more : String) (old : Option Content) :
    appended more (some (appended text old)) = appended (text ++ more) old := by
  match old with
  | none => rfl
  | some (.text s) => simp [appended, String.append_assoc]
  | some (.bytes bs) =>
    simp [appended, Text.Utf8.encode, String.toList_append, List.flatMap_append]

theorem Disk.appended_empty (c : Content) : appended "" (some c) = c := by
  cases c with
  | text s => exact congrArg Content.text (String.append_empty)
  | bytes bs => exact congrArg Content.bytes (List.append_nil bs)

/-- The file of the event log has the ending of such files. -/
def Journal.HasLogName (j : Journal) : Prop := ∃ front, j.path.EndsIn (front ++ ".jsonl")

/-- What an event log holds of a record. -/
def StepRecord.logEntry (scenario : String) (x : StepRecord) : Desk.LogEntry where
  scenario
  status := x.status.name
  step := some x.title
  error := x.error
  duration := x.duration
  softFailures := x.softFailures

/-- What an event log holds of a scenario: its records and how it ended. -/
def ScenarioResult.logEntries (r : ScenarioResult) : List Desk.LogEntry :=
  r.steps.map (StepRecord.logEntry r.title) ++
    [{ scenario := r.title, status := r.status.name, error := r.error }]

namespace Desk

/-- The entry of an event is a text without line ends and the end of its line. -/
theorem LogEntry.line_ends (e : LogEntry) (runId : String) (seq : Nat) (now : Int) :
    ∃ text, e.line runId seq now = text ++ "\n" ∧ '\n' ∉ text.toList := by
  refine ⟨_, rfl, fun hfeed => ?_⟩
  rw [Json.render, String.toList_ofList] at hfeed
  exact absurd ((Json.writes_chars _).visible _ hfeed) (by decide)

/-- The lines of some events, with the numbers behind a given one. -/
def logLines (runId : String) (last : Nat) (events : List (LogEntry × Int)) : List String :=
  (events.zipIdx (last + 1)).map fun x => x.1.1.line runId x.2 x.1.2

theorem logLines_concat (runId : String) (last : Nat) (events : List (LogEntry × Int)) (e : LogEntry)
    (now : Int) : logLines runId last (events ++ [(e, now)]) =
      logLines runId last events ++ [e.line runId (last + events.length + 1) now] := by
  unfold logLines
  rw [List.zipIdx_append, List.map_append, Nat.add_right_comm]
  rfl

/-- What an event log gets when its listener is told of something. -/
def eventsOf (n : Notice) : List (LogEntry × Int) := (entryOf? n).toList.map fun e => (e, n.now)

/-- The event log is in order: behind what its file held at first stand the lines of some events. A
report that is kept stands elsewhere. -/
structure Logged (slot : Nat) (j : Journal) (old : Content) (report : Option Nat)
    (events : List (LogEntry × Int)) (d : Desk) : Prop where
  journal : d.journals[slot]? = some { j with seq := j.seq + events.length }
  text : d.disk.read d.cwd j.path =
    .ok (Disk.appended (String.join (logLines j.runId j.seq events)) (some old))
  apart : ∀ n ∈ report, ∀ p, d.reports[n]? = some (some p) → p.hasNull = false ∧ j.path.Apart p

variable {slot : Nat} {j : Journal} {old : Content} {report : Option Nat}
  {events : List (LogEntry × Int)} {d : Desk}

theorem Logged.unreported (h : d.Logged slot j old report events) :
    d.Logged slot j old none events :=
  ⟨h.journal, h.text, by simp⟩

theorem keepReport_logged {n : Nat} (hn : n ∈ report) (events : List (LogEntry × Int)) :
    Listener.QuietAt (Logged slot j old report events) (keepReport n) := by
  intro notice d h
  unfold keepReport
  split
  · exact ⟨h, by simp⟩
  · exact ⟨h, by simp⟩
  · rename_i p hp
    obtain ⟨hnull, hapart⟩ := h.apart n hn p hp
    cases hwrite : d.disk.write d.cwd p notice.account.toJson.renderIndented with
    | ok disk =>
      exact ⟨⟨h.journal, Disk.read_change_of_apart hapart h.text hwrite, h.apart⟩, by simp [tryDisk]⟩
    | error e =>
      refine ⟨h, fun e' he' => ?_⟩
      simp only [tryDisk, Except.error.injEq] at he'
      subst he'
      simpa [Failure.isSystem] using Disk.change_error hnull hwrite

/-- An open event log gets the events that it is told of. -/
theorem keepJournal_logged (hopen : j.isOpen = true) (h : d.Logged slot j old report events)
    (n : Notice) :
    (keepJournal slot n d).2 = .ok () ∧
      (keepJournal slot n d).1.Logged slot j old report (events ++ eventsOf n) := by
  unfold keepJournal eventsOf
  cases entryOf? n with
  | none => exact ⟨rfl, by simpa using h⟩
  | some e =>
    obtain ⟨disk, hdisk⟩ := (Disk.writable_of_read h.text).change
      (Disk.appended (e.line j.runId (j.seq + events.length + 1) n.now))
    obtain ⟨held, hread, hheld⟩ := Disk.read_change hdisk
    rw [hheld _ h.text, Disk.appended_appended] at hread
    simp only [logEvent, h.journal, hopen, if_true, Disk.append, hdisk, tryDisk, Option.toList_some,
      List.map_cons, List.map_nil]
    refine ⟨trivial, ?_, ?_, h.apart⟩
    · obtain ⟨hslot, -⟩ := List.getElem?_eq_some_iff.mp h.journal
      simp [hslot, hopen, Nat.add_assoc]
    · rw [logLines_concat, String.join_append]
      simpa using hread

end Desk

open Desk

variable {slot : Nat} {j : Journal} {old : Content} {report : Option Nat} {ls : List Listener}
  {events : List (LogEntry × Int)}

section Told

variable (hopen : j.isOpen = true)
  (hls : ∀ events, ∀ l ∈ ls, l.QuietAt (Logged slot j old report events))
include hopen hls

/-- When the listeners are told of something, the event log gets it. -/
theorem Recorder.told_logged {d : Desk} (h : d.Logged slot j old report events) (n : Notice) :
    let told := Act.each (ls ++ [keepJournal slot]) (Recorder.tell n) d
    told.result = .ok () ∧ told.state.Logged slot j old report (events ++ eventsOf n) := by
  intro told
  obtain ⟨hok, hlogged⟩ := Act.each_of_inv (I := Logged slot j old report events)
    (fun l hl d hd => Recorder.tell_of_quiet (hls events l hl) n hd) h
  obtain ⟨hend, hlogged'⟩ := keepJournal_logged hopen hlogged n
  have htold : told = (Recorder.tell n (keepJournal slot) (Act.each ls (Recorder.tell n) d).state).after
      (Act.each ls (Recorder.tell n) d) := by
    show Act.each (ls ++ [keepJournal slot]) (Recorder.tell n) d = _
    rw [Act.each_append, Act.each_singleton]
    exact Act.bind_of_ok hok
  rw [htold, Outcome.after_result, Outcome.after_state, Recorder.tell_of_ok hend]
  exact ⟨rfl, hlogged'⟩

theorem Recorder.change_logged {f : Recorder → Int → Recorder} {event : RecorderEvent}
    {record : Recorder → Option StepRecord} {w : Walk} {r : Recorder}
    (hr : (change f event record w).state.recorder = some r)
    (hl : r.listeners = ls ++ [keepJournal slot]) (h : w.desk.Logged slot j old report events) :
    let o := change f event record w
    o.result = .ok () ∧ o.state.desk.Logged slot j old report
      (events ++ eventsOf ⟨event, record r, r.account, w.scene.clock⟩) := by
  intro o
  rw [change_recorder] at hr
  obtain ⟨r', hr', rfl⟩ := Option.map_eq_some_iff.mp hr
  show (change f event record w).result = _ ∧ Logged _ _ _ _ _ (change f event record w).state.desk
  rw [change_of_some hr', emit_eq, hl]
  exact told_logged hopen hls h _

/-- All who listen are the given ones and the event log, which holds the given events. -/
def Walk.Hearing (slot : Nat) (j : Journal) (old : Content) (report : Option Nat)
    (ls : List Listener) (events : List (LogEntry × Int)) (w : Walk) : Prop :=
  (∀ r ∈ w.recorder, r.listeners = ls ++ [keepJournal slot]) ∧
    w.desk.Logged slot j old report events

/-- What neither a step nor the scenario ends with is not logged. -/
theorem Walk.hearing_change {f : Recorder → Int → Recorder} {event : RecorderEvent}
    {record : Recorder → Option StepRecord} (hf : Recorder.Deaf f record) (hstep : event ≠ .stepEnd)
    (hend : event ≠ .scenarioEnd) :
    Act.Within (Act.Keeps (Hearing slot j old report ls events))
      (Recorder.change f event record) := by
  intro w ⟨hl, h⟩
  cases hr : w.recorder with
  | none =>
    rw [Recorder.change_of_none hr]
    exact ⟨hl, h⟩
  | some r =>
    have hr' : (Recorder.change f event record w).state.recorder = some (f r w.scene.clock) := by
      rw [Recorder.change_recorder, hr]
      rfl
    have hl' : (f r w.scene.clock).listeners = ls ++ [keepJournal slot] :=
      (hf.listeners _ _).trans (hl r hr)
    have hnone : eventsOf ⟨event, record (f r w.scene.clock), (f r w.scene.clock).account,
        w.scene.clock⟩ = [] := by
      cases event with
      | stepEnd => exact absurd rfl hstep
      | scenarioEnd => exact absurd rfl hend
      | _ => rfl
    obtain ⟨-, hlogged⟩ := Recorder.change_logged hopen hls hr' hl' h
    rw [hnone, List.append_nil] at hlogged
    refine ⟨fun x hx => ?_, hlogged⟩
    cases hr'.symm.trans hx
    exact hl'

theorem Walk.hearing_body (engine : Engine) (s : Step) (query : Option Query) (ctx : Context) :
    Act.Within (Act.Keeps (Hearing slot j old report ls events)) (s.body engine query ctx) :=
  Step.closed_body (Act.closed_within (Act.Keeps (Hearing slot j old report ls events)))
    (engine.touches_within fun _ _ h => h)
    (fun _ => hearing_change hopen hls (Recorder.deaf_softening _) (by decide) (by decide))
    s query ctx

/-- The listeners are quiet at an event log that is in order, whatever it holds. -/
theorem quietAt_logged : ∀ l ∈ ls ++ [keepJournal slot],
    l.QuietAt fun d => ∃ events, d.Logged slot j old report events := by
  intro l hl n d ⟨held, hd⟩
  rcases List.mem_append.mp hl with hl | hl
  · obtain ⟨hkept, hsystem⟩ := hls held l hl n d hd
    exact ⟨⟨held, hkept⟩, hsystem⟩
  · cases List.mem_singleton.mp hl
    obtain ⟨hok, hkept⟩ := keepJournal_logged hopen hd n
    exact ⟨⟨_, hkept⟩, fun e he => by rw [hok] at he; cases he⟩

theorem Walk.Hearing.quietBy {w : Walk} (h : w.Hearing slot j old report ls events) :
    w.QuietBy fun d => ∃ events, d.Logged slot j old report events := by
  refine ⟨⟨events, h.2⟩, fun r hr l hl => quietAt_logged hopen hls l ?_⟩
  rwa [h.1 r hr] at hl

end Told

/-- At the end of a scenario, the event log gets how it ended. -/
theorem Recorder.finish_logged (hopen : j.isOpen = true)
    (hls : ∀ events, ∀ l ∈ ls, l.QuietAt (Logged slot j old report events)) {w : Walk} {r : Recorder}
    (hr : w.recorder = some r) (hl : r.listeners = ls ++ [keepJournal slot])
    (h : w.desk.Logged slot j old report events) (error : Option Failure) :
    let a := r.account.finished w.scene.clock (error.map Failure.text)
    (finish error w).state.desk.Logged slot j old report (events ++
      [({ scenario := a.title, status := a.status.name, error := a.error }, w.scene.clock)]) := by
  intro a
  have hr' : (finish error w).state.recorder =
      some (r.finishing w.scene.clock (error.map Failure.text)) := by
    rw [finish, change_recorder, hr]
    rfl
  exact (change_logged hopen hls hr' hl h).2

/-- Between two steps, the event log holds the records that the recorder has got. -/
def Walk.Booked (slot : Nat) (j : Journal) (old : Content) (report : Option Nat)
    (before : List (LogEntry × Int)) (r : Recorder) (w : Walk) : Prop :=
  ∃ steps events, w.recorder = some (r.withSteps steps) ∧
    events.map Prod.fst = steps.map (StepRecord.logEntry r.account.title) ∧
    w.desk.Logged slot j old report (before ++ events)

namespace Walk

section Booked

variable {before : List (LogEntry × Int)} {r : Recorder}
  (hopen : j.isOpen = true) (hls : ∀ events, ∀ l ∈ ls, l.QuietAt (Logged slot j old report events))
  (hl : r.listeners = ls ++ [keepJournal slot])
include hopen hls hl

/-- At the end of a step, its record comes into the recorder and into the event log. -/
theorem booked_change {f : Recorder → Int → Recorder} {record : Recorder → Option StepRecord}
    {w : Walk} {steps : List StepRecord} {x : StepRecord}
    (hr : (Recorder.change f .stepEnd record w).state.recorder =
      some (r.withSteps (steps ++ [x])))
    (hx : record (r.withSteps (steps ++ [x])) = some x)
    (hevents : events.map Prod.fst = steps.map (StepRecord.logEntry r.account.title))
    (h : w.desk.Logged slot j old report (before ++ events)) :
    Booked slot j old report before r (Recorder.change f .stepEnd record w).state := by
  obtain ⟨-, hlogged⟩ := Recorder.change_logged hopen hls hr hl h
  rw [hx] at hlogged
  refine ⟨_, events ++ [(x.logEntry r.account.title, w.scene.clock)], hr, ?_, ?_⟩
  · rw [List.map_append, List.map_append, hevents]
    rfl
  · rw [List.append_assoc] at hlogged
    exact hlogged

theorem booked_skip (title : String) :
    Act.Within (Act.Keeps (Booked slot j old report before r)) (Recorder.skip title) := by
  intro w ⟨steps, events, hr, hevents, h⟩
  have hr' : (Recorder.skip title w).state.recorder =
      some ((r.withSteps steps).skipping title w.scene.clock) := by
    rw [Recorder.skip, Recorder.change_recorder, hr]
    rfl
  exact booked_change hopen hls hl hr' List.getLast?_concat hevents h

variable (hopened : r.opened = [])
include hopened

theorem booked_runOnce (engine : Engine) (s : Step) (query : Option Query) (ctx : Context) :
    Act.Within (Act.Keeps (Booked slot j old report before r)) (s.runOnce engine query ctx) := by
  intro w ⟨steps, events, hr, hevents, h⟩
  cases hs : ctx.suffix with
  | error e =>
    rw [Step.runOnce_of_no_suffix hs]
    exact ⟨steps, events, hr, hevents, h⟩
  | ok suffix =>
    rw [Step.runOnce_of_suffix hs]
    have hhearing : w.Hearing slot j old report ls (before ++ events) := by
      refine ⟨fun q hq => ?_, h⟩
      cases hr.symm.trans hq
      exact hl
    have hquiet := hhearing.quietBy hopen hls
    obtain ⟨-, -, hstate⟩ := Recorder.withStep_quietBy hquiet hr
      (staysQuietBy_body engine s query ctx) (s.title ++ suffix)
    obtain ⟨-, -, -, softFailures, hr'⟩ := Recorder.withStep_settled hquiet hr hopened
      (softened_body engine s query ctx) (staysQuietBy_body engine s query ctx) (s.title ++ suffix)
    -- The log is as before until the step ends.
    have hbegun : Hearing slot j old report ls (before ++ events)
        (Recorder.openStep (s.title ++ suffix) w).state :=
      hearing_change hopen hls (Recorder.deaf_opening _) (by decide) (by decide) w hhearing
    have hdone := hearing_body hopen hls engine s query ctx _ hbegun
    rw [hstate] at hr' ⊢
    refine booked_change hopen hls hl hr' ?_ hevents hdone.2
    exact List.getElem?_concat_length

/-- The event log keeps up with the records in a whole scenario. -/
theorem booked_drive (engine : Engine) (steps : List Step) (ctx : Context) :
    Act.Within (Act.Keeps (Booked slot j old report before r)) (Scenario.drive engine steps ctx) :=
  Scenario.closed_driveBy (Act.closed_within (Act.Keeps (Booked slot j old report before r)))
    (fun _ _ h => h) (booked_runOnce hopen hls hl hopened engine) (booked_skip hopen hls hl) steps

end Booked

end Walk

namespace Scenario

variable {setup : Setup} {s : Scenario} {w : Walk} {before : List (LogEntry × Int)}

/-- That a scenario begins is not logged. -/
theorem begin_logged (hopen : j.isOpen = true)
    (hls : ∀ events, ∀ l ∈ ls, l.QuietAt (Logged slot j old report events)) (s : Scenario)
    {listeners : List Listener} (hl : listeners = ls ++ [keepJournal slot])
    (h : w.desk.Logged slot j old report before) :
    (begin s listeners w).state.desk.Logged slot j old report before := by
  have hhearing : Walk.Hearing slot j old report ls before (s.recordedBy listeners w) := by
    refine ⟨?_, h⟩
    rintro r ⟨⟩
    exact hl
  exact (Walk.hearing_change hopen hls Recorder.deaf_beginning (by decide) (by decide) _ hhearing).2

section Logged

variable (hjournal : setup.journal = some slot) (hname : j.HasLogName)
  (h : w.desk.Logged slot j old none before)
include hjournal hname h

/-- A scenario that can open its report begins with an event log that is in order. -/
theorem startReport_logged {opened : Option (Listener × Path)}
    (hreport : (startReport setup s w).result = .ok opened) :
    ∃ report ls, listeners setup opened = ls ++ [keepJournal slot] ∧
      (∀ events, ∀ l ∈ ls, l.QuietAt (Logged slot j old report events)) ∧
      (startReport setup s w).state.desk.Logged slot j old report before := by
  have hlisteners : listeners setup opened =
      (opened.map (·.1)).toList ++ [keepJournal slot] := by
    unfold listeners
    rw [hjournal]
    rfl
  obtain ⟨-, rfl, hstate⟩ | ⟨-, disk, hdisk, rfl, hstate⟩ := startReport_ok hreport
  · rw [hstate]
    exact ⟨none, [], hlisteners, by simp, h⟩
  · rw [hstate]
    refine ⟨some w.desk.reports.length, _, hlisteners, ?_, h.journal,
      (Disk.grows_ensurePath hdisk).read h.text, ?_⟩
    · intro events l hl
      cases List.mem_singleton.mp hl
      exact keepReport_logged rfl events
    · rintro n ⟨⟩ p hp
      dsimp only at hp
      rw [List.getElem?_concat_length] at hp
      rw [← Option.some.inj (Option.some.inj hp)]
      obtain ⟨front, hfront⟩ := hname
      exact ⟨hasNull_reportPath (Disk.hasNull_of_ensurePath hdisk) _ _, apart_of_jsonl hfront _ _ _⟩

/-- A scenario with a result has logged its records and how it ended. Whatever becomes of a scenario, the
event log stays in order. -/
theorem run_logged (hopen : j.isOpen = true) :
    ∃ events, (s.run setup w).state.desk.Logged slot j old none (before ++ events) ∧
      ∀ result, (s.run setup w).result = .ok result → events.map Prod.fst = result.logEntries := by
  cases hreport : (startReport setup s w).result with
  | error e =>
    obtain ⟨hresult, hstate⟩ := run_of_unreported hreport
    refine ⟨[], ?_, fun result h => by cases hresult.symm.trans h⟩
    rwa [hstate, List.append_nil]
  | ok opened =>
    obtain ⟨report, ls, hl, hls, hstart⟩ := startReport_logged hjournal hname h hreport
    have hquiet := quietAt_logged hopen hls
    rw [← hl] at hquiet
    have hd : ∃ events, (startReport setup s w).state.desk.Logged slot j old report events :=
      ⟨before, hstart⟩
    obtain ⟨-, -, hr⟩ := opening_quietBy hreport hd hquiet
    have hbegun := begin_logged hopen hls s hl hstart
    rw [← opening_state hreport] at hbegun
    have hbooked : Walk.Booked slot j old report before
        (s.recorderAt (listeners setup opened) w.scene.clock) (opening setup s w).state :=
      ⟨[], [], hr, rfl, (List.append_nil before).symm ▸ hbegun⟩
    obtain ⟨steps, events, hr', hevents, hdriven⟩ := Walk.booked_drive hopen hls hl rfl setup.engine
      s.steps (context setup s) _ hbooked
    obtain ⟨-, -, hresult⟩ := run_of_quietBy hreport hd hquiet hr'
    have hended := Recorder.finish_logged hopen hls hr' hl hdriven
      (Recorder.failure? (drive setup.engine s.steps (context setup s)
        (opening setup s w).state).result)
    rw [run_state hreport hd hquiet]
    refine ⟨_, (List.append_assoc _ _ _) ▸ hended.unreported, fun result h => ?_⟩
    cases hresult.symm.trans h
    rw [List.map_append, hevents, Account.finished_title]
    unfold ScenarioResult.logEntries resultOf
    rw [Account.finished_steps]
    rfl

end Logged

end Scenario
end Walkthrough
