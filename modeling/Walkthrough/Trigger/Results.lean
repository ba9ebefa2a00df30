import Walkthrough.Failure.Basic
import Walkthrough.Json.Reader
import Walkthrough.Text.Ansi

/-! The summary of a run, found again in what the run printed. -/
namespace Walkthrough.Trigger

/-- The object that a line holds, if it holds one. -/
def objectOfLine (line : List Char) : Except Failure (Option Members) :=
  match Text.trimBy Text.isBlank line with
  | '{' :: rest =>
    match Json.read (String.ofList ('{' :: rest)) with
    | .ok (.obj ms) => .ok (some ms)
    | .error (.hugeInteger n) => .error (.value (Number.tooLongMessage n))
    | _ => .ok none
  | _ => .ok none

/-- The object of the first line that holds one. -/
def firstObject : List (List Char) → Except Failure (Option Members)
  | [] => .ok none
  | line :: rest => do
    match ← objectOfLine line with
    | some ms => return some ms
    | none => firstObject rest

/-- The object of the last line that holds one. -/
def results (output : String) : Except Failure (Option Members) :=
  firstObject (Text.lines output.toList).reverse

end Walkthrough.Trigger
