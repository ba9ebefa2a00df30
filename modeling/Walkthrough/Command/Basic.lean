import Walkthrough.Command.Arguments
import Walkthrough.Logging.RunLog
import Walkthrough.Scenario.Selection
import Walkthrough.Session.Browser
import Walkthrough.Settings.Sources

/-! The command: settings, a choice of scenarios, a run and its summary. -/
namespace Walkthrough

namespace Arguments

/-- The settings, with what the arguments say in their place. -/
def override (a : Arguments) (s : Settings) : Settings :=
  { s with
    headless := a.headless.getD s.headless
    scenarioDir := a.scenariosDir.getD s.scenarioDir }

end Arguments

namespace Command

def logName : String := "stepengine.cli"

/-- What a command finds when it is called: the variables, the modules that plugins come from, the
handlers that are always there, the number of the next run and the day. -/
structure Surroundings where
  environment : Environment
  registrations : List Registration
  modules : Plugins.Modules
  runId : String
  today : Date

/-- How a command that was understood ends. -/
inductive ExitStatus where
  | passed
  | failed
  | notLoaded
  deriving DecidableEq, Repr

def ExitStatus.code : ExitStatus → Nat
  | passed => 0
  | failed => 1
  | notLoaded => 2

/-- The answer to a command, with the texts that it prints. -/
inductive Reply where
  | help
  | misused (f : ArgumentFault)
  | done (status : ExitStatus) (texts : List String)
  deriving DecidableEq, Repr

def Reply.code : Reply → Nat
  | help => 0
  | misused _ => 2
  | done status _ => status.code

/-- The options and what they are for. -/
def usage : List String :=
  "usage: walkthrough [options]" ::
    CommandOption.all.map fun o => "  " ++ o.name ++ "  " ++ o.purpose

/-- What is printed of one scenario. -/
def resultTexts (r : ScenarioResult) : List String :=
  let marker := if r.isOk then "PASS" else "FAIL"
  (s!"[{marker}] " ++ r.title ++ s!" ({r.duration} ms)") ::
    ((r.error.filter (· ≠ "")).map ("       " ++ ·)).toList

/-- What is printed of a run: one document, or lines to read. -/
def summaryTexts (json : Bool) (s : RunSummary) : List String :=
  if json then [s.toJson.render false]
  else s.results.flatMap resultTexts ++ [s!"{s.passed} passed, {s.failed} failed"]

/-- What is printed where no scenarios could be loaded. -/
def loadFailureTexts (json : Bool) (message : String) : List String :=
  if json then
    [(Json.obj [("success", .bool false), ("error", .str message), ("scenarios", .arr [])]).render
      true]
  else []

/-- Does something with the files. -/
def onDisk {α : Type} (f : Desk → Except Failure (Disk × α)) : Tour α := do
  let s ← Act.get
  let (disk, a) ← Act.ofExcept (f s.desk)
  Act.modify fun s => { s with desk := { s.desk with disk } }
  return a

/-- The settings of a run, with the directories that it writes to. -/
def prepare (at_ : Surroundings) (a : Arguments) : Tour Settings := do
  let settings ← onDisk fun d =>
    (Settings.load d.disk at_.environment a.env a.config none).map fun s => (d.disk, s)
  let settings := a.override settings
  onDisk fun d =>
    ((settings.ensureDirectories d.disk d.cwd).mapError .disk).map fun disk => (disk, ())
  return settings

/-- Makes the log file of the day. -/
def openLog (at_ : Surroundings) (settings : Settings) : Tour Path :=
  onDisk fun d => (RunLog.prepare settings.logDir d.disk d.cwd at_.today).mapError .disk

/-- The scenarios that the arguments ask for. -/
def chooseScenarios (at_ : Surroundings) (a : Arguments) (settings : Settings) :
    Tour (List Scenario) := do
  let s ← Act.get
  Scenario.select s.desk.disk at_.environment settings.scenarioDir a.grep a.scenariosFile

/-- Runs scenarios with the bundled handlers and those of the settings' modules. -/
def runScenarios (at_ : Surroundings) (settings : Settings) (scenarios : List Scenario) :
    Tour RunSummary := do
  let plugins ← Act.ofExcept
    (Plugins.build at_.registrations at_.modules settings.pluginModules)
  Session.run ⟨settings, plugins, at_.environment⟩ at_.runId true scenarios

/-- Says why no scenarios were loaded; every other failure stays. -/
def reportLoadFailure (json : Bool) : Failure → Tour Reply
  | .load e => do
    Act.log .error logName ("Could not load scenarios: " ++ e.message)
    return .done .notLoaded (loadFailureTexts json e.message)
  | e => Act.fail e

/-- Runs what was chosen and sums up. -/
def runChosen (at_ : Surroundings) (a : Arguments) (settings : Settings)
    (scenarios : List Scenario) : Tour Reply := do
  if scenarios.isEmpty then Act.log .warning logName "No enabled scenarios matched"
  else Act.pure ()
  let summary ← runScenarios at_ settings scenarios
  return .done (if summary.success then .passed else .failed) (summaryTexts a.json summary)

/-- Does what the arguments ask for. -/
def perform (at_ : Surroundings) (a : Arguments) : Tour Reply := do
  let settings ← prepare at_ a
  let _ ← openLog at_ settings
  match ← Act.attempt (chooseScenarios at_ a settings) with
  | .ok scenarios => runChosen at_ a settings scenarios
  | .error e => reportLoadFailure a.json e

/-- Answers a command line. -/
def run (at_ : Surroundings) (texts : List String) : Tour Reply :=
  match Arguments.read texts with
  | .ok a => perform at_ a
  | .error .help => Act.pure .help
  | .error (.fault f) => Act.pure (.misused f)

end Command
end Walkthrough
