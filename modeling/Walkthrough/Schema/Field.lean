import Walkthrough.Json.Basic
import Walkthrough.Schema.Problem

/-! Fields of a document with several accepted spellings. -/
namespace Walkthrough.Schema

open Checked

/-- A field under each of its spellings; the first one present is read, and a missing field is
named by the first of all. -/
structure Field where
  name : String
  others : List String := []
  deriving DecidableEq, Repr

namespace Field

variable {α : Type}

def spellings (f : Field) : List String := f.name :: f.others

/-- The member that spells the field. -/
def find? (f : Field) (ms : Members) : Option (String × Json) :=
  f.spellings.findSome? fun k => (ms.get? k).map fun v => (k, v)

/-- The field's value as `read` takes it, or the default where no member spells it. -/
def optional (f : Field) (read : Json → Checked α) (default : α) (ms : Members) : Checked α :=
  match f.find? ms with
  | some (k, v) => (read v).under (.key k)
  | none => good default

def required (f : Field) (read : Json → Checked α) (ms : Members) : Checked α :=
  match f.find? ms with
  | some (k, v) => (read v).under (.key k)
  | none => (fail .missing : Checked α).under (.key f.name)

end Field

/-- Whether a key is the one that spells some field. -/
def spells (fields : List Field) (ms : Members) (key : String) : Bool :=
  fields.any fun f => (f.find? ms).any fun m => m.1 == key

/-- Accepts members all of which spell a field. -/
def noOthers (fields : List Field) (ms : Members) : Checked Unit :=
  match ms.keys.filter fun k => !spells fields ms k with
  | [] => good ()
  | extra => bad (extra.map fun k => ⟨[.key k], .unknownKey⟩)

/-- A model read from an object, with no member left over. -/
def model {α : Type} (fields : List Field) (read : Members → Checked α) (ms : Members) :
    Checked α :=
  (fun a _ => a) <$> read ms <*> noOthers fields ms

/-- A model inside another one; anything but an object is no model. -/
def submodel {α : Type} (read : Members → Checked α) : Json → Checked α
  | .obj ms => read ms
  | _ => fail .notModel

end Walkthrough.Schema
