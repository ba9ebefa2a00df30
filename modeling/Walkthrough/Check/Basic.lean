import Walkthrough.Json.Basic
import Walkthrough.Selector
import Walkthrough.Text.Blank

/-! Declared checks of a page or an element. -/
namespace Walkthrough

/-- What a check compares. A kind that is not known is kept under its name. -/
inductive CheckKind where
  | visible
  | hidden
  | hasTitle
  | hasURL
  | hasText
  | containsText
  | hasValue
  | hasAttribute
  | hasCSS
  | hasClass
  | custom
  | unknown (name : String)
  deriving DecidableEq, Repr, Inhabited

namespace CheckKind

def known : List CheckKind :=
  [visible, hidden, hasTitle, hasURL, hasText, containsText, hasValue, hasAttribute, hasCSS,
    hasClass, custom]

def name : CheckKind → String
  | visible => "visible"
  | hidden => "hidden"
  | hasTitle => "hasTitle"
  | hasURL => "hasURL"
  | hasText => "hasText"
  | containsText => "containsText"
  | hasValue => "hasValue"
  | hasAttribute => "hasAttribute"
  | hasCSS => "hasCSS"
  | hasClass => "hasClass"
  | custom => "custom"
  | unknown s => s

/-- The matcher names of older documents. -/
def formerNames : List (String × CheckKind) :=
  [("toBeVisible", visible), ("toBeHidden", hidden), ("toHaveTitle", hasTitle),
    ("toHaveURL", hasURL), ("toHaveText", hasText), ("toContainText", containsText),
    ("toHaveValue", hasValue), ("toHaveAttribute", hasAttribute), ("toHaveCSS", hasCSS),
    ("toHaveClass", hasClass)]

/-- The kind of a name, current or former. -/
def ofName (s : String) : CheckKind :=
  match known.find? (·.name == s) with
  | some k => k
  | none =>
    match formerNames.find? (·.1 == s) with
    | some m => m.2
    | none => unknown s

def isKnown : CheckKind → Bool
  | unknown _ => false
  | _ => true

/-- Whether the check looks at the page as a whole. -/
def targetsPage : CheckKind → Bool
  | hasTitle | hasURL => true
  | _ => false

end CheckKind

/-- One check of a step. `data` is what is expected; its meaning depends on the kind. -/
structure Check where
  kind : CheckKind
  selector : Option String := none
  selectorKind : SelectorKind := .css
  index : Option Nat := none
  data : Json := .null
  soft : Bool := false
  message : Option String := none
  attributeName : Option String := none
  cssProperty : Option String := none
  customName : Option String := none
  options : Members := []
  deriving Inhabited

namespace Check

/-- The name under which a check is spoken of: its message, or its kind and selector. -/
def label (c : Check) : String :=
  match c.message with
  | some m => if m = "" then plain else m
  | none => plain
where
  plain : String := Text.trim (c.kind.name ++ " " ++ c.selector.getD "")

/-- Fields that some kinds of check need. -/
inductive Companion where
  | attributeName
  | cssProperty
  | data
  deriving DecidableEq, Repr

def Companion.name : Companion → String
  | attributeName => "attribute"
  | cssProperty => "cssProperty"
  | data => "data"

/-- What a kind of check needs besides an element, in the order in which it is asked for. -/
def companions : CheckKind → List Companion
  | .hasTitle | .hasURL | .hasText | .containsText | .hasValue | .hasClass => [.data]
  | .hasAttribute => [.attributeName, .data]
  | .hasCSS => [.cssProperty, .data]
  | _ => []

def lacks (c : Check) : Companion → Bool
  | .attributeName => c.attributeName.isNone
  | .cssProperty => c.cssProperty.isNone
  | .data => c.data.isNull

/-- The first needed field that the check does not give. -/
def missing? (c : Check) : Option Companion := (companions c.kind).find? c.lacks

/-- The text in an optional field, where a field without a value reads as none at all. -/
def shown (o : Option String) : String := o.getD "None"

/-- A sentence on what was expected, which opens the report of a failed check. -/
def describe (c : Check) : String :=
  if c.message.getD "" ≠ "" then c.message.getD ""
  else
    let k := c.kind.name
    let expected := c.data.display
    match c.kind with
    | .hasURL | .hasClass => k ++ " expected to match '" ++ expected ++ "'"
    | .hasAttribute => "hasAttribute expected " ++ shown c.attributeName ++ "='" ++ expected ++ "'"
    | .hasCSS => "hasCSS expected " ++ shown c.cssProperty ++ ": " ++ expected
    | .custom => "custom validation '" ++ shown c.customName ++ "' failed"
    | _ =>
      if c.data.isNull then
        let place := c.selector.getD ""
        k ++ " failed for '" ++ (if place = "" then "step locator" else place) ++ "'"
      else k ++ " expected '" ++ expected ++ "'"

end Check
end Walkthrough
