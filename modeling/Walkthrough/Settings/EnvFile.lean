import Walkthrough.Text.Blank
import Walkthrough.Text.Split

/-!
Files of variables, one `NAME=value` to a line. Values may stand in marks and may refer to other
variables. A line that cannot be read is left out.
-/
namespace Walkthrough.EnvFile

/-- A variable; a name that stands alone has no value. -/
structure Binding where
  name : String
  value : Option String
  deriving DecidableEq, Repr

/-- Blanks inside a line. -/
def isInnerBlank (c : Char) : Bool := Text.isBlank c && c != '\n' && c != '\r'

def isInLine (c : Char) : Bool := c != '\n' && c != '\r'

/-- Cuts a text at the first mark that has no backslash before it. -/
def cutAtFreeMark? (mark : Char) (afterBackslash : Bool) : List Char → Option (List Char × List Char)
  | [] => none
  | c :: rest =>
    if c = mark && !afterBackslash then some ([], rest)
    else (cutAtFreeMark? mark (c = '\\') rest).map fun r => (c :: r.1, r.2)

/-- Cuts a text at its last mark. -/
def cutAtLastMark? (mark : Char) : List Char → Option (List Char × List Char)
  | [] => none
  | c :: rest =>
    match cutAtLastMark? mark rest with
    | some r => some (c :: r.1, r.2)
    | none => if c = mark then some ([], rest) else none

/-- The text up to the closing mark. If every mark has a backslash before it, the last one closes. -/
def cutQuoted? (mark : Char) (cs : List Char) : Option (List Char × List Char) :=
  match cutAtFreeMark? mark false cs with
  | some r => some r
  | none => cutAtLastMark? mark cs

def escapeChar? (c : Char) : Option Char :=
  match c with
  | 'a' => some '\x07'
  | 'b' => some '\x08'
  | 'f' => some '\x0c'
  | 'n' => some '\n'
  | 'r' => some '\r'
  | 't' => some '\t'
  | 'v' => some '\x0b'
  | '"' => some '"'
  | _ => none

/-- What stands behind a backslash, in a text between such marks. -/
def unescapeChar? (mark c : Char) : Option Char :=
  if c = '\\' || c = '\'' then some c
  else if mark = '"' then escapeChar? c
  else none

def unescape (mark : Char) : List Char → List Char
  | '\\' :: c :: rest =>
    match unescapeChar? mark c with
    | some x => x :: unescape mark rest
    | none => '\\' :: unescape mark (c :: rest)
  | c :: rest => c :: unescape mark rest
  | [] => []

/-- A value without marks, up to a blank with a comment behind it. -/
def withoutComment : List Char → List Char
  | [] => []
  | c :: rest =>
    if Text.isBlank c && ((c :: rest).dropWhile Text.isBlank).head? == some '#' then []
    else c :: withoutComment rest

/-- A value and the text behind it; in case of a fault the text from it on. -/
def value (cs : List Char) : Except (List Char) (String × List Char) :=
  let marked (mark : Char) (rest : List Char) : Except (List Char) (String × List Char) :=
    match cutQuoted? mark rest with
    | some (inner, after) => .ok (String.ofList (unescape mark inner), after)
    | none => .error cs
  match cs with
  | '\'' :: rest => marked '\'' rest
  | '"' :: rest => marked '"' rest
  | _ =>
    .ok (String.ofList (Text.trimRight (withoutComment (cs.takeWhile isInLine))),
      cs.dropWhile isInLine)

/-- A name, or none where a comment begins. -/
def name (cs : List Char) : Except (List Char) (Option String × List Char) :=
  match cs with
  | '#' :: _ => .ok (none, cs)
  | '\'' :: rest =>
    match Text.cutAt? ['\''] rest with
    | some (c :: inner, after) => .ok (some (String.ofList (c :: inner)), after)
    | _ => .error cs
  | _ =>
    let isPart := fun c => c != '=' && c != '#' && !Text.isBlank c
    match cs.takeWhile isPart with
    | [] => .error cs
    | part => .ok (some (String.ofList part), cs.dropWhile isPart)

/-- The word that may stand before a name. -/
def skipExport (cs : List Char) : List Char :=
  match Text.after? "export".toList cs with
  | some (c :: rest) => if isInnerBlank c then rest.dropWhile isInnerBlank else cs
  | _ => cs

/-- A comment, and the end of the line. -/
def lineEnd (cs : List Char) : Except (List Char) (List Char) :=
  let afterComment := match cs.dropWhile isInnerBlank with
    | '#' :: rest => rest.dropWhile isInLine
    | _ => cs
  match afterComment.dropWhile isInnerBlank with
  | '\r' :: '\n' :: rest => .ok rest
  | '\n' :: rest => .ok rest
  | '\r' :: rest => .ok rest
  | [] => .ok []
  | _ => .error afterComment

/-- One line, if it binds anything; in case of a fault the text from it on. -/
def line (cs : List Char) : Except (List Char) (Option Binding × List Char) := do
  let (n, afterName) ← name (skipExport cs)
  let (v, afterValue) ← match afterName.dropWhile isInnerBlank with
    | '=' :: rest => (value (rest.dropWhile isInnerBlank)).map fun r => (some r.1, r.2)
    | rest => .ok (none, rest)
  let rest ← lineEnd afterValue
  return (n.map fun n => ⟨n, v⟩, rest)

/-- What follows the rest of the line. -/
def skipLine (cs : List Char) : List Char := (cs.dropWhile isInLine).drop 1

def bindingsFrom : Nat → List Char → List Binding
  | 0, _ => []
  | fuel + 1, cs =>
    match cs.dropWhile Text.isBlank with
    | [] => []
    | start =>
      match line start with
      | .ok (some b, rest) => b :: bindingsFrom fuel rest
      | .ok (none, rest) => bindingsFrom fuel rest
      | .error left => bindingsFrom fuel (skipLine left)

/-- The variables of a file, in its order. -/
def bindings (cs : List Char) : List Binding := bindingsFrom (cs.length + 1) cs

/-- A reference to a variable, behind its dollar sign: the name, what to take in its place, and the
text behind the reference. -/
def reference? (cs : List Char) : Option (String × String × List Char) :=
  match cs with
  | '\x7b' :: rest =>
    let isName := fun c => c != '\x7d' && c != ':'
    let n := String.ofList (rest.takeWhile isName)
    match rest.dropWhile isName with
    | '\x7d' :: after => some (n, "", after)
    | ':' :: '-' :: more =>
      match more.dropWhile (· != '\x7d') with
      | '\x7d' :: after => some (n, String.ofList (more.takeWhile (· != '\x7d')), after)
      | _ => none
    | _ => none
  | _ => none

def expandFrom (lookup : String → Option (Option String)) : Nat → List Char → List Char
  | 0, cs => cs
  | _, [] => []
  | fuel + 1, c :: rest =>
    if c = '$' then
      match reference? rest with
      | some (n, instead, after) =>
        let s := match lookup n with
          | some v => v.getD ""
          | none => instead
        s.toList ++ expandFrom lookup fuel after
      | none => c :: expandFrom lookup fuel rest
    else c :: expandFrom lookup fuel rest

/-- A value with its references replaced. A variable without a value counts as empty text. -/
def expand (lookup : String → Option (Option String)) (s : String) : String :=
  String.ofList (expandFrom lookup (s.length + 1) s.toList)

/-- The value of the last binding of a name. -/
def latest? (bs : List Binding) (n : String) : Option (Option String) :=
  (bs.reverse.find? (·.name == n)).map (·.value)

/-- Replaces references one binding after the other: earlier ones of the file come first, then the
variables of the environment. `done` holds the finished ones. -/
def resolve (environment : String → Option String) (done : List Binding) :
    List Binding → List Binding
  | [] => done
  | b :: rest =>
    let lookup := fun n =>
      match latest? done n with
      | some v => some v
      | none => (environment n).map some
    resolve environment (done ++ [{ b with value := b.value.map (expand lookup) }]) rest

/-- One value to a name, in the order of their first bindings. -/
def put : List Binding → Binding → List Binding
  | [], b => [b]
  | x :: rest, b => if x.name = b.name then b :: rest else x :: put rest b

/-- The variables of a file with their final values. -/
def read (environment : String → Option String) (text : String) : List Binding :=
  (resolve environment [] (bindings (Text.unifyLineEnds text.toList))).foldl put []

end Walkthrough.EnvFile
