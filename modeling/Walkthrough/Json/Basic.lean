import Walkthrough.Number.Shortest
import Walkthrough.Text.Quoted

/-! Values of documents, with the members of an object in order. -/
namespace Walkthrough

/-- A value of a document. Whole numbers and floating-point numbers differ. -/
inductive Json where
  | null
  | bool (b : Bool)
  | int (n : Int)
  | float (x : Binary64)
  | str (s : String)
  | arr (items : List Json)
  | obj (members : List (String × Json))
  deriving Inhabited

abbrev Members := List (String × Json)

namespace Members

def get? : Members → String → Option Json
  | [], _ => none
  | (k, v) :: rest, key => if k = key then some v else get? rest key

def has (ms : Members) (key : String) : Bool := (ms.get? key).isSome

/-- Gives the key a value: in its place if it is there, at the end otherwise. -/
def put : Members → String → Json → Members
  | [], key, value => [(key, value)]
  | (k, v) :: rest, key, value => if k = key then (k, value) :: rest else (k, v) :: put rest key value

/-- The first members, with those of the second put into them one after the other. -/
def merge (ms new : Members) : Members := new.foldl (fun acc m => acc.put m.1 m.2) ms

/-- Members with distinct keys: of a repeated key the first place and the last value. -/
def ofPairs (pairs : List (String × Json)) : Members := merge [] pairs

def keys (ms : Members) : List String := ms.map (·.1)

end Members

namespace Json

/-- Values that stand for nothing: null, false, zero and whatever is empty do not count. -/
def truthy : Json → Bool
  | null => false
  | bool b => b
  | int n => n != 0
  | float x => !x.isZero
  | str s => s != ""
  | arr items => !items.isEmpty
  | obj members => !members.isEmpty

def isNull : Json → Bool
  | null => true
  | _ => false

/-- The name of a value's kind. -/
def kindName : Json → String
  | null => "NoneType"
  | bool _ => "bool"
  | int _ => "int"
  | float _ => "float"
  | str _ => "str"
  | arr _ => "list"
  | obj _ => "dict"

def asStr? : Json → Option String
  | str s => some s
  | _ => none

/-- Whether a value is just this text. -/
def isText (v : Json) (s : String) : Bool := v.asStr? == some s

/-- The member of an object; `none` for anything else. -/
def get? : Json → String → Option Json
  | obj ms, key => Members.get? ms key
  | _, _ => none

def ofOption (o : Option String) : Json :=
  match o with
  | some s => str s
  | none => null

def intOption (o : Option Int) : Json :=
  match o with
  | some n => int n
  | none => null

def strings (ss : List String) : Json := arr (ss.map str)

/-- A list of texts between two marks. -/
def enclosed (left right : String) (parts : List String) : String :=
  left ++ ", ".intercalate parts ++ right

mutual

/-- A value as it stands inside a list or an object: texts in quotation marks. -/
def quoted : Json → String
  | null => "None"
  | bool b => if b then "True" else "False"
  | int n => toString n
  | float x => x.text
  | str s => Text.quoted s
  | arr items => enclosed "[" "]" (quotedItems items)
  | obj members => enclosed "\x7b" "\x7d" (quotedMembers members)

def quotedItems : List Json → List String
  | [] => []
  | v :: rest => quoted v :: quotedItems rest

def quotedMembers : List (String × Json) → List String
  | [] => []
  | (k, v) :: rest => (Text.quoted k ++ ": " ++ quoted v) :: quotedMembers rest

end

/-- A value as text: a text is itself, everything else as inside a list. -/
def display : Json → String
  | str s => s
  | v => v.quoted

end Json
end Walkthrough
