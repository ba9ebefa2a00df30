import Walkthrough.Json.Basic

/-! Values that a setting can be given, before they are converted. -/
namespace Walkthrough

/-- A date or a time of day: the name of its kind, its plain text and its text inside a list. -/
structure Moment where
  kindName : String
  text : String
  quoted : String
  deriving DecidableEq, Repr, Inhabited

inductive Setting where
  | null
  | truth (b : Bool)
  | whole (n : Int)
  | float (x : Binary64)
  | text (s : String)
  | moment (m : Moment)
  | list (items : List Setting)
  | table (members : List (String × Setting))
  deriving Inhabited

abbrev SettingTable := List (String × Setting)

namespace SettingTable

def get? : SettingTable → String → Option Setting
  | [], _ => none
  | (k, v) :: rest, key => if k = key then some v else get? rest key

/-- Gives the key a value: in its place if it is there, at the end otherwise. -/
def put : SettingTable → String → Setting → SettingTable
  | [], key, value => [(key, value)]
  | (k, v) :: rest, key, value => if k = key then (k, value) :: rest else (k, v) :: put rest key value

/-- The first table with the entries of the second put into it one after the other. -/
def merge (t new : SettingTable) : SettingTable := new.foldl (fun acc m => acc.put m.1 m.2) t

end SettingTable

namespace Setting

mutual

def ofJson : Json → Setting
  | .null => null
  | .bool b => truth b
  | .int n => whole n
  | .float x => float x
  | .str s => text s
  | .arr items => list (ofItems items)
  | .obj members => table (ofMembers members)

def ofItems : List Json → List Setting
  | [] => []
  | v :: rest => ofJson v :: ofItems rest

def ofMembers : List (String × Json) → List (String × Setting)
  | [] => []
  | (k, v) :: rest => (k, ofJson v) :: ofMembers rest

end

/-- The name of a value's kind. -/
def kindName : Setting → String
  | null => Json.null.kindName
  | truth b => (Json.bool b).kindName
  | whole n => (Json.int n).kindName
  | float x => (Json.float x).kindName
  | text s => (Json.str s).kindName
  | moment m => "datetime." ++ m.kindName
  | list _ => (Json.arr []).kindName
  | table _ => (Json.obj []).kindName

def truthy : Setting → Bool
  | null => false
  | truth b => b
  | whole n => n != 0
  | float x => !x.isZero
  | text s => s != ""
  | moment _ => true
  | list items => !items.isEmpty
  | table members => !members.isEmpty

mutual

/-- A value as it stands inside a list or a table. -/
def quoted : Setting → String
  | null => Json.null.quoted
  | truth b => (Json.bool b).quoted
  | whole n => (Json.int n).quoted
  | float x => (Json.float x).quoted
  | text s => (Json.str s).quoted
  | moment m => m.quoted
  | list items => Json.enclosed "[" "]" (quotedItems items)
  | table members => Json.enclosed "\x7b" "\x7d" (quotedMembers members)

def quotedItems : List Setting → List String
  | [] => []
  | v :: rest => quoted v :: quotedItems rest

def quotedMembers : List (String × Setting) → List String
  | [] => []
  | (k, v) :: rest => (Text.quoted k ++ ": " ++ quoted v) :: quotedMembers rest

end

/-- A value as text. -/
def display : Setting → String
  | text s => s
  | moment m => m.text
  | v => v.quoted

end Setting
end Walkthrough
