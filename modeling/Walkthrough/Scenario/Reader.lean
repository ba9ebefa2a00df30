import Walkthrough.Json.Reader
import Walkthrough.Scenario.Basic
import Walkthrough.Step.Reader

/-! Scenarios read from documents and from text. -/
namespace Walkthrough.Scenario

open Schema Schema.Checked

def descriptionField : Field := ⟨"description", []⟩
def enabledField : Field := ⟨"enabled", []⟩
def stepsField : Field := ⟨"testSteps", ["test_steps"]⟩
def sourceField : Field := ⟨"source", []⟩

def fields : List Field := [descriptionField, enabledField, stepsField, sourceField]

/-- The steps that a scenario's members list; what is no list holds none. -/
def readSteps (ms : Members) : Except Step.Refusal (List Step) :=
  match stepsField.find? ms with
  | some (_, .arr items) => items.mapM Step.read
  | _ => .ok []

def readFields (steps : List Step) (ms : Members) : Checked Scenario :=
  Scenario.mk <$> descriptionField.required text ms
    <*> enabledField.optional truth true ms
    <*> stepsField.optional (fun v => (fun _ => steps) <$> list anything v) [] ms
    <*> sourceField.optional (nullOr text) none ms

/-- A scenario read from a document. A step that cannot be read hides all other problems. -/
def read (v : Json) : Except Step.Refusal Scenario :=
  match v with
  | .obj ms => do
    let steps ← readSteps ms
    Step.ofChecked (model fields (readFields steps) ms)
  | _ => Step.ofChecked (fail .notModel)

/-- Why no scenarios were loaded; `source` names the document. -/
inductive LoadError where
  | notFound (source : String)
  | notJson (source text : String) (e : Json.ReadError)
  | notObject (source : String) (position : Nat)
  | rejected (source : String) (problems : List Problem)

namespace LoadError

/-- The number of problems in a scenario, as a sentence. -/
def problemCount (n : Nat) : String :=
  toString n ++ (if n = 1 then " validation error" else " validation errors") ++ " for Scenario"

def source : LoadError → String
  | notFound s | notJson s _ _ | notObject s _ | rejected s _ => s

/-- The reason without the document's name; of several lines only the first. -/
def reason : LoadError → String
  | notFound _ => "file not found"
  | notJson _ text e => "invalid JSON (" ++ e.message text ++ ")"
  | notObject _ n => "entry " ++ toString n ++ " is not a JSON object"
  | rejected _ ps => problemCount ps.length

def message (e : LoadError) : String := e.source ++ ": " ++ e.reason

end LoadError

/-- Why loading stopped: an error of the documents, or one that no document explains. -/
inductive Unloaded where
  | load (e : LoadError)
  | unusableAction (kindName : String)
  | hugeInteger (digits : Nat)

/-- One document, which must be an object; its own `source` member gives way. -/
def ofDocument (source : String) (position : Nat) (v : Json) : Except Unloaded Scenario :=
  match v with
  | .obj ms =>
    match read (.obj (Members.put ms "source" (.str source))) with
    | .ok s => .ok s
    | .error (.problems ps) => .error (.load (.rejected source ps))
    | .error (.unusableAction k) => .error (.unusableAction k)
  | _ => .error (.load (.notObject source position))

def ofDocuments (source : String) : Nat → List Json → Except Unloaded (List Scenario)
  | _, [] => .ok []
  | n, v :: rest => do
    let s ← ofDocument source n v
    let others ← ofDocuments source (n + 1) rest
    return s :: others

/-- The scenarios of one value: a list of documents, or a single one. -/
def ofValue (source : String) : Json → Except Unloaded (List Scenario)
  | .arr items => ofDocuments source 0 items
  | v => ofDocuments source 0 [v]

/-- The scenarios of a text. `place` names it while it is no document, `source` afterwards. -/
def ofText (place source text : String) : Except Unloaded (List Scenario) :=
  match Json.read text with
  | .ok v => ofValue source v
  | .error (.hugeInteger n) => .error (.hugeInteger n)
  | .error e => .error (.load (.notJson place text e))

end Walkthrough.Scenario
