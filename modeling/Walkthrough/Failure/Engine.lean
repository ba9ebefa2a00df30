import Walkthrough.Json.Basic

/-! The errors that the step engine itself reports. -/
namespace Walkthrough

inductive EngineFault where
  | general
  | unsupportedSelector
  | unsupportedAction
  | missingElement
  | precondition
  | notFillable
  | missingField
  | noFiles
  | unknownPlugin
  | checkFailed
  deriving DecidableEq, Repr, Inhabited

namespace EngineFault

def all : List EngineFault :=
  [general, unsupportedSelector, unsupportedAction, missingElement, precondition, notFillable,
    missingField, noFiles, unknownPlugin, checkFailed]

def name : EngineFault → String
  | general => "ExecutionError"
  | unsupportedSelector => "UnsupportedSelectorKind"
  | unsupportedAction => "UnsupportedAction"
  | missingElement => "MissingLocator"
  | precondition => "ActionPrecondition"
  | notFillable => "NotFillable"
  | missingField => "MissingRequiredField"
  | noFiles => "NoFilesProvided"
  | unknownPlugin => "PluginNotFound"
  | checkFailed => "AssertionFailed"

def ofName? (s : String) : Option EngineFault := all.find? (·.name == s)

/-- The code under which reports show the fault. -/
def code : EngineFault → String
  | general => "EXECUTION_ERROR"
  | unsupportedSelector => "UNSUPPORTED_SELECTOR_KIND"
  | unsupportedAction => "UNSUPPORTED_ACTION"
  | missingElement => "MISSING_LOCATOR"
  | precondition => "ACTION_PRECONDITION"
  | notFillable => "NOT_FILLABLE"
  | missingField => "MISSING_REQUIRED_FIELD"
  | noFiles => "NO_FILES_PROVIDED"
  | unknownPlugin => "PLUGIN_NOT_FOUND"
  | checkFailed => "ASSERTION_FAILED"

/-- An element that takes no text is one that does not meet the condition of its action. -/
def isPrecondition : EngineFault → Bool
  | precondition | notFillable => true
  | _ => false

end EngineFault

/-- An error with the facts that belong to it, and a code of its own if it has one. -/
structure EngineError where
  fault : EngineFault
  message : String
  ownCode : Option String := none
  details : Members := []
  deriving Inhabited

namespace EngineError

def code (e : EngineError) : String := e.ownCode.getD e.fault.code

/-- The error as reports show it; details that hold nothing are left out. -/
def toJson (e : EngineError) : Json :=
  .obj ([("code", .str e.code), ("message", .str e.message)] ++
    if e.details.isEmpty then [] else [("details", .obj e.details)])

end EngineError
end Walkthrough
