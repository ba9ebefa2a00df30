import Walkthrough.Failure.Basic
import Walkthrough.Json.Printer
import Walkthrough.Report.Record

/-! Where reports are written, and who is told of what is recorded. -/
namespace Walkthrough

/-- The event log of a run: its file, the number of the last event, and whether it is open. -/
structure Journal where
  runId : String
  path : Path
  seq : Nat := 0
  isOpen : Bool := true
  deriving DecidableEq, Repr, Inhabited

/-- Files as seen from a working directory. `reports` are the files in which reports are kept up to
date, none in place of those that are not kept any more, and `journals` the event logs. -/
structure Desk where
  disk : Disk := {}
  cwd : Path := ⟨.slash, []⟩
  reports : List (Option Path) := []
  journals : List Journal := []
  deriving Inhabited

inductive RecorderEvent where
  | scenarioBegin
  | stepBegin
  | stepEnd
  | softFailure
  | scenarioEnd
  deriving DecidableEq, Repr

def RecorderEvent.name : RecorderEvent → String
  | scenarioBegin => "scenario_begin"
  | stepBegin => "step_begin"
  | stepEnd => "step_end"
  | softFailure => "soft_failure"
  | scenarioEnd => "scenario_end"

/-- What a listener is told: what happened, to which step, when, and what is recorded by then. -/
structure Notice where
  event : RecorderEvent
  record : Option StepRecord
  account : Account
  now : Int

/-- Somebody who is told of every change. A listener can write at its desk and may fail. -/
abbrev Listener := Notice → Desk → Desk × Except Failure Unit

namespace Desk

/-- Replaces the files, or fails and leaves all as it is. -/
def tryDisk (d : Desk) (r : Except Disk.Error Disk) : Desk × Except Failure Unit :=
  match r with
  | .ok disk => ({ d with disk }, .ok ())
  | .error e => (d, .error (.disk e))

/-- Writes a report anew if it is still kept. -/
def keepReport (slot : Nat) : Listener := fun n d =>
  match d.reports[slot]? with
  | none | some none => (d, .ok ())
  | some (some path) => d.tryDisk (d.disk.write d.cwd path n.account.toJson.renderIndented)

/-- What an event log holds of an event. -/
structure LogEntry where
  scenario : String
  status : String
  step : Option String := none
  error : Option String := none
  duration : Option Int := none
  softFailures : List String := []
  deriving DecidableEq, Repr

/-- The line of an event. -/
def LogEntry.line (e : LogEntry) (runId : String) (seq : Nat) (now : Int) : String :=
  let time := Binary64.ofDecimal (decide (now < 0)) now.natAbs (-3)
  (Json.obj [("ts", .float time), ("run_id", .str runId), ("seq", .int seq),
    ("scenario", .str e.scenario), ("step", .ofOption e.step), ("status", .str e.status),
    ("error", .ofOption e.error), ("duration_ms", .intOption e.duration),
    ("soft_failures", .strings e.softFailures)]).render false ++ "\n"

/-- Adds a line to an event log. The number counts up even if the line cannot be written. -/
def logEvent (d : Desk) (slot : Nat) (now : Int) (e : LogEntry) : Desk × Except Failure Unit :=
  match d.journals[slot]? with
  | none => (d, .ok ())
  | some j =>
    let seq := j.seq + 1
    let d := { d with journals := d.journals.set slot { j with seq } }
    if j.isOpen then d.tryDisk (d.disk.append d.cwd j.path (e.line j.runId seq now))
    else (d, .error (.value "I/O operation on closed file."))

/-- The entry of an event that ends something. -/
def entryOf? (n : Notice) : Option LogEntry :=
  match n.event, n.record with
  | .stepEnd, some r => some {
      scenario := n.account.title
      status := r.status.name
      step := some r.title
      error := r.error
      duration := r.duration
      softFailures := r.softFailures }
  | .scenarioEnd, _ => some {
      scenario := n.account.title
      status := n.account.status.name
      error := n.account.error }
  | _, _ => none

/-- Logs every event that ends something. -/
def keepJournal (slot : Nat) : Listener := fun n d =>
  match entryOf? n with
  | some e => d.logEvent slot n.now e
  | none => (d, .ok ())

/-- Opens an event log, in a directory that is made if need be. Its number comes back. -/
def openJournal (d : Desk) (runId : String) (path : Path) : Except Failure (Desk × Nat) := do
  let disk ← (d.disk.ensurePath d.cwd path.parent).mapError .disk
  let disk ← (disk.append d.cwd path "").mapError .disk
  return ({ d with disk, journals := d.journals ++ [{ runId, path }] }, d.journals.length)

def closeJournal (d : Desk) (slot : Nat) : Desk :=
  { d with journals := d.journals.modify slot fun j => { j with isOpen := false } }

/-- Letters, digits, the underscore and the hyphen, and what counts as one of the letters when case
is left aside. -/
def isNameChar (c : Char) : Bool :=
  c.isAlphanum || c = '_' || c = '-' ||
    [0x130, 0x131, 0x17F, 0x212A].contains c.toNat

/-- A title as part of a file name. -/
def safeName (title : String) : String :=
  String.ofList (title.toList.map fun c => if isNameChar c then c else '_')

/-- Where the report of a scenario is kept. -/
def reportPath (dir : Path) (title : String) (now : Int) : Path :=
  dir.child (safeName title ++ "-" ++ toString now ++ ".json")

/-- Keeps a report from now on, in a directory that is made if need be. -/
def openReport (d : Desk) (dir : Path) (title : String) (now : Int) :
    Except Failure (Desk × Nat × Path) := do
  let disk ← (d.disk.ensurePath d.cwd dir).mapError .disk
  let path := reportPath dir title now
  let slot := d.reports.length
  return ({ d with disk, reports := d.reports ++ [some path] }, slot, path)

/-- Keeps a report no longer. -/
def forgetReport (d : Desk) (slot : Nat) : Desk :=
  { d with reports := d.reports.set slot none }

end Desk
end Walkthrough
