import Walkthrough.Engine.Action
import Walkthrough.Engine.Check
import Walkthrough.Report.Recorder

/-! Running a step: find its element, act, wait, check; once or for each match of its selector. -/
namespace Walkthrough

/-- A way of running a step once, on the element of a query. -/
abbrev Runner := Step → Option Query → Context → Run Unit

namespace Step

/-- The name under which runs of steps write to the log. -/
def logName : String := "stepengine.executor"

/-- The pause behind an action. A step that waits has had its pause already. -/
def postWait (s : Step) : Play Unit :=
  if s.isWait then Act.pure ()
  else
    match s.waitTime with
    | none | some 0 => Act.pure ()
    | some ms => Page.wait ms

/-- Carries out a check and records its failure if it is a soft one. -/
def runCheck (engine : Engine) (query : Option Query) (ctx : Context) (c : Check) : Run Unit := do
  match ← Run.onScene (c.run engine query ctx) with
  | some message => Recorder.softFailure message
  | none => return ()

/-- What is done under the record of a step. -/
def body (engine : Engine) (s : Step) (query : Option Query) (ctx : Context) : Run Unit := do
  let element ← Run.onScene (Query.locateOptional query)
  Run.onScene (s.perform engine element ctx)
  Run.onScene s.postWait
  Act.each s.checks (runCheck engine query ctx)

/-- Runs a step once and records it. -/
def runOnce (engine : Engine) (s : Step) (query : Option Query) (ctx : Context) : Run Unit := do
  let suffix ← Act.ofExcept ctx.suffix
  Recorder.withStep (s.title ++ suffix) (s.body engine query ctx)

/-- Fails if a query finds too few elements for a repetition. -/
def ensureAvailable (q : Query) (index : Nat) (label : String) (details : Members) : Run Unit := do
  let all := q.withIndex none
  let available ← Run.onScene all.count
  if available ≤ index then
    Act.fail (Failure.engineError .precondition
      (s!"{label} matched only {available} element(s) for '" ++ all.describe ++ "'")
      (Members.merge details [("index", .int index), ("available", .int available)]))
  else return ()

/-- One repetition. A step with an index of its own stays at that element. -/
def repetition (once : Runner) (s : Step) (q : Query) (ctx : Context) (total index : Nat) :
    Run Unit := do
  let one := if s.index.isSome then q else q.withIndex (some index)
  if s.index.isSome then Act.pure ()
  else
    ensureAvailable one index s!"Step '{s.title}' iteration {index + 1}/{total}"
      [("step", .str s.title)]
  once s (some one) (ctx.repetition index total none)

/-- Runs a step for each element that its selector finds at the beginning. -/
def runForEach (once : Runner) (s : Step) (q : Query) (ctx : Context) : Run Unit := do
  let total ← Run.onScene q.count
  if total = 0 then
    Act.log .warning logName
      (s!"Step '{s.title}' iterates over '" ++ q.describe ++ "' but nothing matched")
  else Act.each (List.range total) (s.repetition once q ctx total)

/-- Runs a step as often as it asks for, each time in the given way. -/
def runBy (once : Runner) (s : Step) (ctx : Context) : Run Unit :=
  match s.iterate, Query.ofStep? s none with
  | true, some q => s.runForEach once q ctx
  | _, query => once s query ctx

/-- Runs a step. -/
def run (engine : Engine) (s : Step) (ctx : Context) : Run Unit := s.runBy (runOnce engine) ctx

end Step
end Walkthrough
