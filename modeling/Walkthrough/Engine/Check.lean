import Walkthrough.Engine.Basic
import Walkthrough.Page.Expect

/-! Carrying out a check. -/
namespace Walkthrough.Check

/-- The name under which checks write to the log. -/
def logName : String := "stepengine.validations"

/-- The failure of a check that does not give what its kind needs. -/
def missingField (c : Check) (m : Companion) : Failure :=
  Failure.engineError .missingField
    s!"Validation type '{c.kind.name}' requires a '{m.name}' key."
    [("type", .str c.kind.name), ("field", .str m.name)]

/-- Whether a check gives what its kind needs. -/
def checkRequired (c : Check) : Except Failure Unit :=
  match c.missing? with
  | none => .ok ()
  | some m => .error (c.missingField m)

/-- The number of a match that the context asks for. -/
def contextIndex : Json → Except Failure (Option Int)
  | .null => .ok none
  | .int n => .ok (some n)
  | .bool b => .ok (some (if b then 1 else 0))
  | _ => .error (.misuse .asSliceBound)

/-- The query of a check: its own selector comes before the query of its step, its own index before
that of the repetition. -/
def scope (c : Check) (outer : Option Query) (ctx : Context) : Except Failure (Option Query) :=
  let query : Option Query :=
    match c.selector.filter (· ≠ "") with
    | some s => some { selector := s, kind := c.selectorKind.name }
    | none => outer
  match query with
  | none => .ok none
  | some q =>
    match c.index with
    | some n => .ok (some (q.withIndex (some n)))
    | none =>
      if ctx.inIteration then (contextIndex ctx.iterationIndex).map fun n => some (q.withIndex n)
      else .ok (some q)

/-- What is expected as text: the texts of a list one by one, any other value as a whole. -/
def expectedText : Json → ExpectedText
  | .arr items => .each (items.map Json.display)
  | v => .one v.display

def readPattern (s : String) : Except Failure Pattern :=
  (Pattern.read s).mapError fun e =>
    match e with
    | .fault _ _ => .pattern (e.message s)
    | .flags => .value (e.message s)
    | .hugeRepeat => .overflow (e.message s)

/-- What a check of an element expects; checks of the page and custom ones are not among them. -/
def elementMatcher? (c : Check) : Except Failure (Option Matcher) :=
  match c.kind with
  | .visible => .ok (some .visible)
  | .hidden => .ok (some .hidden)
  | .hasText => .ok (some (.text (expectedText c.data)))
  | .containsText => .ok (some (.containsText (expectedText c.data)))
  | .hasValue => .ok (some (.value c.data.display))
  | .hasAttribute => .ok (some (.attributeValue (c.attributeName.getD "") c.data.display))
  | .hasCSS => .ok (some (.css (c.cssProperty.getD "") c.data.display))
  | .hasClass =>
    (readPattern c.data.display).map fun p => some (.classes c.data.display p)
  | _ => .ok none

/-- What a check of the page expects. -/
def pageMatcher (c : Check) : Except Failure Matcher :=
  match c.kind with
  | .hasTitle => .ok (.title c.data.display)
  | _ => (readPattern c.data.display).map fun p => .url c.data.display p

/-- The options of an expectation: the check's own come after the time limit of the settings. -/
def expectOptions (engine : Engine) (c : Check) : Members :=
  Members.merge [("timeout", .int engine.settings.expectTimeout)] c.options

/-- The failure of a check that has no element to look at. -/
def noElement (c : Check) : Failure :=
  Failure.engineError .missingElement
    s!"Validation '{c.label}' needs a selector or a step locator" [("type", .str c.kind.name)]

/-- Expects what a check of the page or of an element asks for. -/
def expectDeclared (engine : Engine) (c : Check) (outer : Option Query) (ctx : Context) :
    Play Unit := do
  let options := expectOptions engine c
  if c.kind.targetsPage then
    let m ← Act.ofExcept c.pageMatcher
    expect .page m options c.message
  else
    match ← Act.ofExcept (c.scope outer ctx) with
    | none => Act.fail c.noElement
    | some q =>
      let l ← q.locate
      match ← Act.ofExcept c.elementMatcher? with
      | some m => expect (.element l) m options c.message
      | none => return ()

/-- The report of a check that was not met. -/
def failedReport (c : Check) (cause : Failure) (details : Members) : Failure :=
  Failure.engineError .checkFailed (c.describe ++ ": " ++ cause.headline) details

/-- An expectation that was not met becomes a failed check; every other failure stays. -/
def ofExpectation (c : Check) : Failure → Failure
  | .assertion m =>
    c.failedReport (.assertion m) [("type", .str c.kind.name), ("expected", c.data)]
  | e => e

/-- The faults that a handler reports as they are. -/
def isReportedAsIs : EngineFault → Bool
  | .checkFailed | .missingElement | .missingField | .unknownPlugin => true
  | _ => false

/-- Whatever else a handler fails with is a failed check. -/
def ofHandler (c : Check) (e : Failure) : Failure :=
  let report :=
    c.failedReport e [("type", .str "custom"), ("name", .ofOption c.customName)]
  match e with
  | .engine x => if isReportedAsIs x.fault then e else report
  | _ => report

/-- Runs the handler of a custom check. -/
def runHandler (engine : Engine) (c : Check) (outer : Option Query) (ctx : Context) :
    Play Unit := do
  let h ← Act.ofExcept (engine.plugins.check c.customName)
  let q ← Act.ofExcept (c.scope outer ctx)
  let element ← Query.locateOptional q
  Act.handle (h.run c ctx element) fun e => Act.fail (c.ofHandler e)

/-- Looks whether the page is as a check expects. -/
def verify (engine : Engine) (c : Check) (outer : Option Query) (ctx : Context) : Play Unit :=
  if c.kind = .custom then c.runHandler engine outer ctx
  else Act.handle (c.expectDeclared engine outer ctx) fun e => Act.fail (c.ofExpectation e)

/-- The message of a failed check. -/
def failedMessage? : Failure → Option String
  | .engine e => if e.fault = .checkFailed then some e.message else none
  | _ => none

/-- A failed soft check is noted and its message returned; every other failure stays. -/
def soften (c : Check) (e : Failure) : Play (Option String) :=
  match c.soft, failedMessage? e with
  | true, some message => do
    Act.log .warning logName ("Soft validation failed: " ++ message)
    return some message
  | _, _ => Act.fail e

/-- Carries out a check. Returns the message of a soft one that failed. -/
def run (engine : Engine) (c : Check) (outer : Option Query) (ctx : Context) :
    Play (Option String) :=
  if !c.kind.isKnown then do
    Act.log .warning logName ("Unsupported validation type: " ++ c.kind.name)
    return none
  else do
    Act.ofExcept c.checkRequired
    Act.handle ((fun _ => none) <$> c.verify engine outer ctx) c.soften

end Walkthrough.Check
