import Walkthrough.Failure.Basic
import Walkthrough.Settings.Value
import Walkthrough.Text.LowerCase
import Walkthrough.Text.Split

/-! How values of any kind become the kinds that settings have. -/
namespace Walkthrough

/-- The whole number that a float is cut to. -/
def Binary64.toWhole (x : Binary64) : Except Failure Int :=
  match x.truncate? with
  | some n => .ok n
  | none =>
    match x with
    | .nan => .error (.value "cannot convert float NaN to integer")
    | _ => .error (.overflow "cannot convert float infinity to integer")

/-- The whole number that a text stands for. -/
def wholeOfText (s : String) : Except Failure Int :=
  (Number.readWhole s).mapError fun e => .value e.message

/-- A document's value as a whole number: floats are cut, texts are read. -/
def Json.toWhole : Json → Except Failure Int
  | .bool b => .ok (if b then 1 else 0)
  | .int n => .ok n
  | .float x => x.toWhole
  | .str s => wholeOfText s
  | v => .error (.misuse (.asNumber v.kindName))

/-- Words that stand for yes, in any case. -/
def yesWords : List String := ["true", "1", "yes", "on"]

def isYes (s : String) : Bool := yesWords.contains (Text.lower (Text.trim s))

namespace Setting

def toWhole : Setting → Except Failure Int
  | truth b => .ok (if b then 1 else 0)
  | whole n => .ok n
  | float x => x.toWhole
  | text s => wholeOfText s
  | v => .error (.misuse (.asNumber v.kindName))

def toTruth : Setting → Bool
  | truth b => b
  | v => isYes v.display

/-- The text of a value without blanks around it; a value that counts for nothing has none. -/
def toTrimmed (v : Setting) : String := if v.truthy then Text.trim v.display else ""

/-- The last part of the name of a kind. -/
def shortKindName : Setting → String
  | moment m => m.kindName
  | v => v.kindName

def toPath : Setting → Except Failure Path
  | text s => .ok (Path.ofString s)
  | v => .error (.misuse (.asPath v.shortKindName))

/-- The parts of a text between commas, trimmed, without the empty ones. -/
def commaParts (s : String) : List String :=
  ((Text.splitBy (· == ',') s.toList).map fun p => Text.trim (String.ofList p)).filter (· ≠ "")

/-- The names in a list, or between commas. -/
def toNames : Setting → List String
  | list items => (items.map fun v => Text.trim v.display).filter (· ≠ "")
  | v => if v.truthy then commaParts v.display else []

end Setting
end Walkthrough
