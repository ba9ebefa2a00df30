import Walkthrough.Path
import Walkthrough.Report.Record

/-! What comes out of scenarios and of whole runs. -/
namespace Walkthrough

/-- The outcome of one scenario. -/
structure ScenarioResult where
  title : String
  description : String
  status : Status
  steps : List StepRecord := []
  error : Option String := none
  errorCode : Option String := none
  softFailures : List String := []
  duration : Int := 0
  source : Option String := none
  report : Option Path := none
  deriving DecidableEq, Repr, Inhabited

namespace ScenarioResult

def isOk (r : ScenarioResult) : Bool := r.status == .passed

def toJson (r : ScenarioResult) : Json :=
  .obj ([("title", .str r.title), ("description", .str r.description),
    ("status", .str r.status.name), ("steps", .arr (r.steps.map StepRecord.toJson)),
    ("durationMs", .int r.duration)] ++ optionalMember "error" r.error ++
    optionalMember "errorCode" r.errorCode ++ listMember "softFailures" r.softFailures ++
    optionalMember "source" (r.source.filter (· ≠ "")) ++
    optionalMember "report" (r.report.map Path.toString))

end ScenarioResult

/-- The outcomes of a run. -/
structure RunSummary where
  runId : String
  env : String
  results : List ScenarioResult
  duration : Int := 0
  deriving DecidableEq, Repr, Inhabited

namespace RunSummary

def passed (s : RunSummary) : Nat := s.results.countP ScenarioResult.isOk

def failed (s : RunSummary) : Nat := s.results.length - s.passed

def success (s : RunSummary) : Bool := s.failed == 0

def toJson (s : RunSummary) : Json :=
  .obj [("run_id", .str s.runId), ("env", .str s.env), ("success", .bool s.success),
    ("total", .int s.results.length), ("passed", .int s.passed), ("failed", .int s.failed),
    ("durationMs", .int s.duration), ("scenarios", .arr (s.results.map ScenarioResult.toJson))]

end RunSummary
end Walkthrough
