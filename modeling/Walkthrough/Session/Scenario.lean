import Walkthrough.Engine.Group
import Walkthrough.Session.Result

/-! Running one scenario on a page. -/
namespace Walkthrough.Scenario

/-- How scenarios are run: with which engine, under which name of the run, with or without reports,
and into which event log. -/
structure Setup where
  engine : Engine
  runId : String
  writeReports : Bool := true
  journal : Option Nat := none
  deriving Inhabited

def runnerLog : String := "steprunner.service"

/-- Does something at the desk. -/
def atDesk {α : Type} (f : Desk → Except Failure (Desk × α)) : Run α := fun w =>
  match f w.desk with
  | .ok (desk, a) => ⟨.ok a, { w with desk }, [], []⟩
  | .error e => ⟨.error e, w, [], []⟩

/-- Keeps a report of the scenario from now on, if reports are wanted: its listener and path. -/
def startReport (setup : Setup) (s : Scenario) : Run (Option (Listener × Path)) := do
  if setup.writeReports then
    let now ← Run.now
    let (slot, path) ← atDesk fun d =>
      (d.openReport setup.engine.settings.reportDir s.title now)
    return some (Desk.keepReport slot, path)
  else return none

/-- What the steps of a scenario know of the run. -/
def context (setup : Setup) (s : Scenario) : Context :=
  .ofMembers [("scenario", .str s.description), ("env", .str setup.engine.settings.env),
    ("runId", .str setup.runId)]

/-- The code of a failure that the engine reports. -/
def codeOf? : Failure → Option String
  | .engine e => some e.code
  | _ => none

/-- The account of the recorder. -/
def account : Run Account := do
  return match (← Act.get).recorder with
    | some r => r.account
    | none => default

/-- Runs a scenario under a recorder with the given listeners. A failure becomes part of the
result. -/
def runRecorded (setup : Setup) (s : Scenario) (listeners : List Listener) (report : Option Path) :
    Run ScenarioResult := do
  let recorder : Recorder :=
    { account := { title := s.title, startTime := ← Run.now }, listeners }
  Act.modify fun w => { w with recorder := some recorder }
  Recorder.beginScenario
  let started ← Run.now
  let error ← match ← Act.attempt (drive setup.engine s.steps (context setup s)) with
    | .ok () => Act.pure none
    | .error e => do
      Act.log .error runnerLog (s.title ++ " failed: " ++ e.message)
      Act.pure (some e)
  Recorder.finish error
  let a ← account
  if error.isNone && a.status == .failed then
    Act.log .warning runnerLog
      s!"{s.title} finished with {a.softFailures.length} soft failure(s)"
  else Act.pure ()
  return {
    title := s.title
    description := s.description
    status := a.status
    steps := a.steps
    error := a.error
    errorCode := error.bind codeOf?
    softFailures := a.softFailures
    duration := (← Run.now) - started
    source := s.source
    report }

/-- Runs a scenario on the page, with its report and the event log of the run. -/
def run (setup : Setup) (s : Scenario) : Run ScenarioResult := do
  let report ← startReport setup s
  let listeners := (report.map (·.1)).toList ++ (setup.journal.map Desk.keepJournal).toList
  runRecorded setup s listeners (report.map (·.2))

end Walkthrough.Scenario
