import Walkthrough.Json.Basic

/-! What is recorded of a scenario and its steps. -/
namespace Walkthrough

inductive Status where
  | unknown
  | running
  | passed
  | failed
  | skipped
  deriving DecidableEq, Repr, Inhabited

def Status.name : Status → String
  | unknown => "unknown"
  | running => "running"
  | passed => "passed"
  | failed => "failed"
  | skipped => "skipped"

/-- One execution of a step, or a step that was skipped. Times are in milliseconds. -/
structure StepRecord where
  title : String
  startTime : Int
  status : Status := .unknown
  error : Option String := none
  endTime : Option Int := none
  softFailures : List String := []
  deriving DecidableEq, Repr, Inhabited

/-- An optional member, which is left out where there is no value. -/
def optionalMember (key : String) (v : Option String) : Members :=
  match v with
  | some s => [(key, .str s)]
  | none => []

/-- A list of texts as a member, which is left out where it is empty. -/
def listMember (key : String) (ss : List String) : Members :=
  if ss.isEmpty then [] else [(key, .strings ss)]

namespace StepRecord

def duration (r : StepRecord) : Option Int := r.endTime.map (· - r.startTime)

/-- The record at the end of its step: failed by an error or by soft failures, else passed. -/
def closed (r : StepRecord) (now : Int) (error : Option String) : StepRecord :=
  let (status, error) : Status × Option String :=
    match error with
    | some e => (.failed, some e)
    | none =>
      if r.softFailures.isEmpty then (.passed, r.error)
      else (.failed, some ("; ".intercalate r.softFailures))
  { r with status, error, endTime := some now }

def toJson (r : StepRecord) : Json :=
  .obj ([("title", .str r.title), ("status", .str r.status.name), ("startTime", .int r.startTime),
    ("endTime", .intOption r.endTime)] ++ optionalMember "error" r.error ++
    listMember "softFailures" r.softFailures)

end StepRecord

/-- What is recorded of a scenario. `unattributed` are soft failures outside every step. -/
structure Account where
  title : String
  status : Status := .unknown
  error : Option String := none
  steps : List StepRecord := []
  startTime : Int
  endTime : Option Int := none
  unattributed : List String := []
  deriving DecidableEq, Repr, Inhabited

namespace Account

/-- All soft failures, those of the steps first. -/
def softFailures (a : Account) : List String :=
  a.steps.flatMap StepRecord.softFailures ++ a.unattributed

/-- The account at the end of the scenario: failed by an error or by soft failures, else passed. -/
def finished (a : Account) (now : Int) (error : Option String) : Account :=
  let (status, error) : Status × Option String :=
    match error with
    | some e => (.failed, some e)
    | none =>
      if a.softFailures.isEmpty then (.passed, a.error)
      else
        let count := a.softFailures.length
        (.failed, some s!"{count} soft validation failure(s)")
  { a with status, error, endTime := some now }

def toJson (a : Account) : Json :=
  .obj ([("title", .str a.title), ("status", .str a.status.name),
    ("steps", .arr (a.steps.map StepRecord.toJson)), ("startTime", .int a.startTime),
    ("endTime", .intOption a.endTime)] ++ optionalMember "error" a.error ++
    listMember "softFailures" a.unattributed)

end Account
end Walkthrough
