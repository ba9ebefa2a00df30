import Walkthrough.Environment
import Walkthrough.Settings.Conversion
import Walkthrough.Text.Ansi

/-! Runs in a process of their own. -/
namespace Walkthrough.Trigger

/-- Whether a document asks for a browser without a window; null leaves it open. -/
def headlessOf : Json → Option Bool
  | .null => none
  | .bool b => some b
  | v => some (isYes v.display)

/-- The arguments of a run, the program that is started first. A pattern need not be a text, but one
that counts for nothing is left out. -/
def arguments (program env : String) (grep : Json) (headless : Option Bool) : List Json :=
  [.str program, .str "-m", .str "stepengine", .str "--json", .str "--env", .str env] ++
    (if grep.truthy then [.str "--grep", grep] else []) ++
    (headless.map fun b => Json.str (if b then "--headless" else "--headed")).toList

/-- Arguments as texts, which they all must be. -/
def texts (arguments : List Json) : Except Failure (List String) :=
  arguments.zipIdx.mapM fun a =>
    match a.1 with
    | .str s => .ok s
    | v => .error (.misuse (.asText v.kindName a.2))

/-- A process to start: its arguments, its variables and the seconds that it is given. -/
structure Child where
  arguments : List String
  vars : List (String × String)
  timeout : Int
  deriving DecidableEq, Repr, Inhabited

/-- What a process wrote to one of its channels. -/
inductive Output where
  | none
  | text (s : String)
  | bytes (bs : List Nat)
  deriving DecidableEq, Repr, Inhabited

/-- The output as text, without control sequences. -/
def Output.read : Output → Except Failure String
  | none => .ok ""
  | text s => .ok (Text.Ansi.stripText s)
  | bytes bs => ((Text.Utf8.decode bs).map Text.Ansi.stripText).mapError .notText

/-- How a process ended, with what it wrote to its two channels. -/
inductive Ending where
  | finished (code : Int) (out err : Output)
  | timedOut (out err : Output)
  /-- It could not be started. -/
  | refused (message : String)
  deriving DecidableEq, Repr, Inhabited

end Walkthrough.Trigger
