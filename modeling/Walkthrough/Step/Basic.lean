import Walkthrough.Check.Basic

/-! Steps of a scenario: one action each, with its target, its wait and its checks. -/
namespace Walkthrough

/-- How the content of an embedded file is written down. -/
inductive Encoding where
  | base64
  | utf8
  deriving DecidableEq, Repr, Inhabited

def Encoding.name : Encoding → String
  | base64 => "base64"
  | utf8 => "utf-8"

inductive FileSource where
  | path (p : String)
  | content (text : String)
  deriving DecidableEq, Repr, Inhabited

/-- A file to upload, by its path or with its content. -/
structure FileEntry where
  source : FileSource
  encoding : Encoding := .base64
  name : Option String := none
  mimeType : String := "application/octet-stream"
  deriving DecidableEq, Repr, Inhabited

/-- Paths to upload, as one text or as a list. -/
inductive UploadPaths where
  | none
  | one (path : String)
  | many (paths : List String)
  deriving DecidableEq, Repr, Inhabited

structure Upload where
  paths : UploadPaths := .none
  files : List FileEntry := []
  resolveFromBase : Bool := true
  clearFirst : Bool := false
  deriving DecidableEq, Repr, Inhabited

inductive ActionKind where
  | navigate
  | fill
  | type
  | click
  | hover
  | pressKey
  | wait
  | upload
  | custom
  deriving DecidableEq, Repr, Inhabited

namespace ActionKind

def all : List ActionKind := [navigate, fill, type, click, hover, pressKey, wait, upload, custom]

def name : ActionKind → String
  | navigate => "navigate"
  | fill => "fill"
  | type => "type"
  | click => "click"
  | hover => "hover"
  | pressKey => "pressKey"
  | wait => "wait"
  | upload => "upload"
  | custom => "custom"

/-- The action names of older documents. -/
def formerNames : List (String × ActionKind) :=
  [("goto", navigate), ("press", pressKey), ("waitForTimeout", wait)]

/-- The kind of a name, current or former. -/
def ofName? (s : String) : Option ActionKind :=
  match all.find? (·.name == s) with
  | some k => some k
  | none => (formerNames.find? (·.1 == s)).map (·.2)

/-- Whether the action is always done to an element. -/
def needsElement : ActionKind → Bool
  | fill | type | click | hover | upload => true
  | navigate | pressKey | wait | custom => false

end ActionKind

/-- What a step does. `unspecified` is a step that was never given an action. -/
inductive Action where
  | navigate (path : String)
  | fill (text : String)
  | type (text : String)
  | click
  | hover
  | pressKey (key : String)
  | wait
  | upload (u : Upload)
  | custom (name : String) (data : Json)
  | unspecified
  deriving Inhabited

def Action.kind? : Action → Option ActionKind
  | navigate _ => some .navigate
  | fill _ => some .fill
  | type _ => some .type
  | click => some .click
  | hover => some .hover
  | pressKey _ => some .pressKey
  | wait => some .wait
  | upload _ => some .upload
  | custom _ _ => some .custom
  | unspecified => none

/-- One step. `iterate` repeats it for every match of its selector; adjacent steps of one `group`
are repeated together. -/
structure Step where
  name : String := ""
  selector : Option String := none
  selectorKind : SelectorKind := .css
  waitTime : Option Nat := none
  index : Option Nat := none
  iterate : Bool := false
  group : Option String := none
  options : Members := []
  checks : List Check := []
  action : Action
  deriving Inhabited

namespace Step

def actionName (s : Step) : String := (s.action.kind?.map ActionKind.name).getD ""

/-- The step's name, or else that of its action. -/
def title (s : Step) : String := if s.name = "" then s.actionName else s.name

def needsElement (s : Step) : Bool := s.action.kind?.any ActionKind.needsElement

def isWait (s : Step) : Bool := s.action.kind? == some .wait

/-- The selector, unless it is empty. -/
def target? (s : Step) : Option String := s.selector.filter (· ≠ "")

end Step
end Walkthrough
