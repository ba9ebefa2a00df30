import Walkthrough.Disk
import Walkthrough.Failure.Engine
import Walkthrough.Failure.Misuse
import Walkthrough.Number.Whole
import Walkthrough.Scenario.Reader

/-! Everything that can end an operation early. -/
namespace Walkthrough

/-- A failure by its cause. -/
inductive Failure where
  /-- The engine found a step, a check or their surroundings wanting. -/
  | engine (e : EngineError)
  /-- The browser refused. -/
  | page (message : String)
  /-- The page is not as expected. -/
  | assertion (message : String)
  /-- A text is no search pattern. -/
  | pattern (message : String)
  /-- A text is no file content in base 64. -/
  | base64 (message : String)
  /-- A file holds bytes that are no text. -/
  | notText (f : Text.Utf8.Fault)
  /-- A settings file cannot be read. -/
  | settings (message : String)
  | load (e : Scenario.LoadError)
  | disk (e : Disk.Error)
  /-- There is no module of that name, or the outer one has no modules inside. -/
  | noModule (name : String) (outer : Option String)
  | misuse (m : Misuse)
  /-- A value of a kind has no such operation. -/
  | noOperation (kind operation : String)
  /-- There is nothing under a key, which may be left unsaid. -/
  | noKey (key : Option String)
  /-- A value of the right kind that cannot be used. -/
  | value (message : String)
  | overflow (message : String)
  /-- The operation is not allowed at this time. -/
  | state (message : String)
  /-- The system refused something, in its own words. -/
  | system (message : String)
  /-- Somebody stopped the run. -/
  | interrupt (message : String)
  deriving Inhabited

namespace Failure

/-- The name of the kind of failure, which stands in for a message that is empty. -/
def kindName : Failure → String
  | engine e => e.fault.name
  | page _ => "PageError"
  | assertion _ => "AssertionError"
  | pattern _ => "RegexError"
  | base64 _ => "Base64Error"
  | notText _ => "UnicodeDecodeError"
  | settings _ => "TOMLDecodeError"
  | load _ => "ScenarioLoadError"
  | disk e =>
    match e.refusal with
    | .notFound => "FileNotFoundError"
    | .alreadyThere => "FileExistsError"
    | .notDirectory => "NotADirectoryError"
    | .isDirectory => "IsADirectoryError"
    | .nameTooLong => "OSError"
    | .nullInName => "ValueError"
  | noModule _ _ => "ModuleNotFoundError"
  | misuse _ => "TypeError"
  | noOperation _ _ => "AttributeError"
  | noKey _ => "KeyError"
  | value _ => "ValueError"
  | overflow _ => "OverflowError"
  | state _ => "RuntimeError"
  | system _ => "OSError"
  | interrupt _ => "KeyboardInterrupt"

def message : Failure → String
  | engine e => e.message
  | page m | assertion m | pattern m | base64 m | settings m => m
  | value m | overflow m | state m | system m | interrupt m => m
  | notText f => f.message
  | load e => e.message
  | disk e => e.message
  | noModule name none => s!"No module named '{name}'"
  | noModule name (some outer) => s!"No module named '{name}'; '{outer}' is not a package"
  | misuse m => m.message
  | noOperation kind operation => s!"'{kind}' object has no attribute '{operation}'"
  | noKey key => (key.map Text.quoted).getD ""

/-- The message, or the name of the kind where the message is empty. -/
def text (f : Failure) : String := if f.message = "" then f.kindName else f.message

/-- The first line of the message, or the name of the kind where it is blank. -/
def headline (f : Failure) : String :=
  match Text.lines (Text.trim f.message).toList with
  | [] => f.kindName
  | line :: _ => String.ofList line

/-- Whether the system refused something. -/
def isSystem : Failure → Bool
  | disk e => e.refusal != .nullInName
  | system _ => true
  | _ => false

/-- Whether the failure says that the page is not as expected. -/
def isAssertion : Failure → Bool
  | assertion _ => true
  | engine e => e.fault == .checkFailed
  | _ => false

def engineError (fault : EngineFault) (message : String) (details : Members) : Failure :=
  .engine { fault, message, details }

def ofUnloaded : Scenario.Unloaded → Failure
  | .load e => load e
  | .unusableAction kind => misuse (.asKey kind)
  | .hugeInteger n => value (Number.tooLongMessage n)

end Failure
end Walkthrough
