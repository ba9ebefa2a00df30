import Walkthrough.Check.Basic
import Walkthrough.Schema.Coercion
import Walkthrough.Schema.Field

/-! Checks read from documents. -/
namespace Walkthrough

open Schema Schema.Checked

/-- The kind of a selector; null stands for the first kind. -/
def SelectorKind.read (v : Json) : Checked SelectorKind :=
  match v with
  | .null => good .css
  | _ =>
    match v.asStr?.bind ofName? with
    | some k => good k
    | none =>
      fail (.rule ("selectorType must be one of " ++ ", ".intercalate (all.map name) ++
        " (got '" ++ v.display ++ "')"))

/-- The number of a match, counted from zero. -/
def readIndex (v : Json) : Checked (Option Nat) :=
  (nullOr whole v).andThen fun
    | none => good none
    | some n => if 0 ≤ n then good (some n.toNat) else fail (.rule "index must be >= 0")

def selectorField : Field := ⟨"selector", []⟩

def selectorKindField : Field := ⟨"selectorType", ["selectorKind", "selector_type"]⟩

def indexField : Field := ⟨"index", ["nth", "explicitIndex"]⟩

namespace Check

def kindField : Field := ⟨"type", []⟩
def dataField : Field := ⟨"data", []⟩
def softField : Field := ⟨"soft", ["softFlag"]⟩
def messageField : Field := ⟨"message", []⟩
def attributeField : Field := ⟨"attribute", ["attributeName"]⟩
def cssPropertyField : Field := ⟨"cssProperty", ["cssPropertyName", "css_property"]⟩
def customNameField : Field := ⟨"customName", ["custom_name"]⟩
def optionsField : Field := ⟨"options", ["expectOptions"]⟩

def fields : List Field :=
  [kindField, selectorField, selectorKindField, indexField, dataField, softField, messageField,
    attributeField, cssPropertyField, customNameField, optionsField]

def readFields (ms : Members) : Checked Check :=
  Check.mk <$> kindField.required (fun v => CheckKind.ofName <$> text v) ms
    <*> selectorField.optional (nullOr text) none ms
    <*> selectorKindField.optional SelectorKind.read .css ms
    <*> indexField.optional readIndex none ms
    <*> dataField.optional anything .null ms
    <*> softField.optional truth false ms
    <*> messageField.optional (nullOr text) none ms
    <*> attributeField.optional (nullOr text) none ms
    <*> cssPropertyField.optional (nullOr text) none ms
    <*> customNameField.optional (nullOr text) none ms
    <*> optionsField.optional object [] ms

def readMembers (ms : Members) : Checked Check := model fields readFields ms

/-- A check read from a document. -/
def read (v : Json) : Checked Check := submodel readMembers v

end Check
end Walkthrough
