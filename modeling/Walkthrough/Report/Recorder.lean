import Walkthrough.Page.Basic
import Walkthrough.Report.Desk

/-! Recording a scenario while it runs. -/
namespace Walkthrough

/-- An account in the making. `opened` are the positions of the steps that have begun and not
ended, the innermost last. A traced recorder leaves a mark for each event before its listeners hear
of it. -/
structure Recorder where
  account : Account
  opened : List Nat := []
  listeners : List Listener := []
  traced : Bool := false
  deriving Inhabited

/-- Everything that a run can change. -/
structure Walk where
  scene : Scene := {}
  recorder : Option Recorder := none
  desk : Desk := {}
  deriving Inhabited

/-- Acts of a run. -/
abbrev Run (α : Type) : Type := Act Walk α

namespace Run

/-- What is done on the page alone. -/
def onScene {α : Type} (x : Play α) : Run α :=
  Act.zoom Walk.scene (fun w s => { w with scene := s }) x

def now : Run Int := fun w => ⟨.ok w.scene.clock, w, [], []⟩

end Run

namespace Recorder

def logName : String := "stepengine.reporting"

/-- The record of the innermost step that is open. -/
def current? (r : Recorder) : Option StepRecord :=
  match r.opened.getLast? with
  | some n => r.account.steps[n]?
  | none => none

def record? (r : Recorder) (position : Nat) : Option StepRecord := r.account.steps[position]?

/-- The recorder with one more record behind the others. -/
def addRecord (r : Recorder) (record : StepRecord) : Recorder :=
  { r with account := { r.account with steps := r.account.steps ++ [record] } }

def changeRecord (r : Recorder) (position : Nat) (f : StepRecord → StepRecord) : Recorder :=
  { r with account := { r.account with steps := r.account.steps.modify position f } }

/-- The recorder with a new step open. -/
def opening (r : Recorder) (title : String) (now : Int) : Recorder :=
  let r := { r with opened := r.opened ++ [r.account.steps.length] }
  r.addRecord { title, startTime := now }

/-- The recorder without a step among the open ones. It is known by what its record says: the first
open step that has an equal record is taken out. -/
def dropping (r : Recorder) (position : Nat) : Recorder :=
  { r with opened := r.opened.eraseP fun n => r.record? n = r.record? position }

/-- The recorder with a step ended. -/
def closing (r : Recorder) (position : Nat) (now : Int) (error : Option String) : Recorder :=
  (r.changeRecord position fun x => x.closed now error).dropping position

def skipping (r : Recorder) (title : String) (now : Int) : Recorder :=
  r.addRecord { title, startTime := now, status := .skipped, endTime := some now }

/-- The recorder with one more soft failure, in the innermost open step if there is one. -/
def softening (r : Recorder) (message : String) : Recorder :=
  match r.opened.getLast? with
  | some n => r.changeRecord n fun x => { x with softFailures := x.softFailures ++ [message] }
  | none =>
    { r with account := { r.account with unattributed := r.account.unattributed ++ [message] } }

def beginning (r : Recorder) (now : Int) : Recorder :=
  { r with account := { r.account with status := .running, startTime := now } }

def finishing (r : Recorder) (now : Int) (error : Option String) : Recorder :=
  { r with account := r.account.finished now error }

/-- Tells one listener. A refusal of the system is noted in the log, any other failure stays. -/
def tell (n : Notice) (l : Listener) : Act Desk Unit := fun d =>
  match l n d with
  | (d, .ok ()) => ⟨.ok (), d, [], []⟩
  | (d, .error e) =>
    if e.isSystem then
      ⟨.ok (), d, [], [⟨.warning, logName,
        s!"Report listener failed on {n.event.name}: " ++ e.message⟩]⟩
    else ⟨.error e, d, [], []⟩

/-- The mark of an event: the step it happened to, and the status of the step or the scenario. -/
def markOf (n : Notice) : Mark :=
  .recorder n.event.name (n.record.map StepRecord.title)
    ((n.record.map StepRecord.status).getD n.account.status).name

/-- Tells everybody what happened. -/
def emit (r : Recorder) (event : RecorderEvent) (record : Option StepRecord) : Run Unit := do
  let n : Notice := ⟨event, record, r.account, ← Run.now⟩
  if r.traced then Act.mark (markOf n) else Act.pure ()
  Act.zoom Walk.desk (fun w d => { w with desk := d }) (Act.each r.listeners (tell n))

/-- Changes the recorder and tells everybody, if there is a recorder. -/
def change (f : Recorder → Int → Recorder) (event : RecorderEvent)
    (record : Recorder → Option StepRecord) : Run Unit := do
  let w ← Act.get
  match w.recorder with
  | none => return ()
  | some r =>
    let r := f r w.scene.clock
    Act.modify fun w => { w with recorder := some r }
    r.emit event (record r)

def beginScenario : Run Unit := change beginning .scenarioBegin fun _ => none

/-- Begins a step. -/
def openStep (title : String) : Run Unit :=
  change (fun r now => r.opening title now) .stepBegin current?

/-- Ends a step, which failed if there is an error. -/
def closeStep (position : Nat) (error : Option Failure) : Run Unit :=
  change (fun r now => r.closing position now (error.map Failure.text)) .stepEnd
    (·.record? position)

/-- Records a step that is not run. -/
def skip (title : String) : Run Unit :=
  change (fun r now => r.skipping title now) .stepEnd (·.account.steps.getLast?)

def softFailure (message : String) : Run Unit :=
  change (fun r _ => r.softening message) .softFailure current?

/-- Ends the scenario, which failed if there is an error. -/
def finish (error : Option Failure) : Run Unit :=
  change (fun r now => r.finishing now (error.map Failure.text)) .scenarioEnd fun _ => none

/-- The number of steps recorded so far. -/
def count : Run Nat := do
  return match (← Act.get).recorder with
    | some r => r.account.steps.length
    | none => 0

/-- Records what is done as a step, however it ends. Without a recorder it is just done. -/
def withStep (title : String) (body : Run Unit) : Run Unit := do
  let position ← count
  openStep title
  match ← Act.attempt body with
  | .ok () => closeStep position none
  | .error e =>
    closeStep position (some e)
    Act.fail e

end Recorder
end Walkthrough
