import Walkthrough.Json.Reader
import Walkthrough.Settings.Moment
import Walkthrough.Text.Split

/-! Reading settings files in TOML. -/
namespace Walkthrough.Toml

/-- Why a text is no settings file: a fault before its last `left` characters, or a whole number
with too many digits. -/
inductive Error where
  | fault (message : String) (left : Nat)
  | hugeInteger (digits : Nat)
  deriving DecidableEq, Repr

def faultAt {α : Type} (message : String) (rest : List Char) : Except Error α :=
  .error (.fault message rest.length)

/-- The place of a fault in the text. -/
def placeText (cs : List Char) (left : Nat) : String :=
  if left = 0 then "end of document"
  else
    let before := cs.take (cs.length - left)
    let line := before.count '\n' + 1
    let column := (before.reverse.takeWhile (· != '\n')).length + 1
    s!"line {line}, column {column}"

abbrev Key := List String

/-- A key as messages show it. -/
def keyText (k : Key) : String :=
  match k with
  | [one] => "(" ++ Text.quoted one ++ ",)"
  | _ => "(" ++ ", ".intercalate (k.map Text.quoted) ++ ")"

def isBlank (c : Char) : Bool := c = ' ' || c = '\t'

def isBlankOrEnd (c : Char) : Bool := isBlank c || c = '\n'

def isControl (c : Char) : Bool := c.toNat < 32 || c.toNat = 127

/-- Control characters that may not stand in a line. -/
def isIllegal (c : Char) : Bool := isControl c && c != '\t'

/-- Control characters that may not stand in a text of several lines. -/
def isIllegalInLines (c : Char) : Bool := isIllegal c && c != '\n'

def isBareKey (c : Char) : Bool := c.isAlphanum || c = '-' || c = '_'

def skipBlanks (cs : List Char) : List Char := cs.dropWhile isBlank

/-- Fails at the first character that is not allowed; `after` is the text behind the piece. -/
def checkPiece (illegal : Char → Bool) (after : Nat) : List Char → Except Error Unit
  | [] => .ok ()
  | c :: rest =>
    if illegal c then
      .error (.fault ("Found invalid character " ++ Text.quoted c.toString)
        (rest.length + 1 + after))
    else checkPiece illegal after rest

/-- The text up to a mark that has to come, and the text behind it. -/
def upTo (mark : String) (illegal : Char → Bool) (cs : List Char) :
    Except Error (List Char × List Char) :=
  match Text.cutAt? mark.toList cs with
  | none => .error (.fault ("Expected " ++ Text.quoted mark) 0)
  | some (piece, rest) => do
    checkPiece illegal (rest.length + mark.length) piece
    return (piece, rest)

/-- What follows a comment, if one stands here. -/
def skipComment (cs : List Char) : Except Error (List Char) :=
  match cs with
  | '#' :: rest => do
    let after := rest.dropWhile (· != '\n')
    checkPiece isIllegal after.length (rest.takeWhile (· != '\n'))
    return after
  | _ => .ok cs

/-- What follows blanks, line ends and comments. -/
def skipSpace : Nat → List Char → Except Error (List Char)
  | 0, cs => .ok cs
  | fuel + 1, cs => do
    let after ← skipComment (cs.dropWhile isBlankOrEnd)
    if after.length = cs.length then return cs else skipSpace fuel after

def escapeChar? (c : Char) : Option Char :=
  match c with
  | 'b' => some '\x08'
  | 't' => some '\t'
  | 'n' => some '\n'
  | 'f' => some '\x0c'
  | 'r' => some '\r'
  | '"' => some '"'
  | '\\' => some '\\'
  | _ => none

/-- A character by its code in so many hexadecimal digits. -/
def hexChar (width : Nat) (cs : List Char) : Except Error (Char × List Char) :=
  let ds := (cs.take width).filterMap Json.hexValue?
  let rest := cs.drop width
  if ds.length < width then faultAt "Invalid hex value" cs
  else
    let n := ds.foldl (fun n d => n * 16 + d) 0
    if n < 0xD800 ∨ (0xE000 ≤ n ∧ n ≤ 0x10FFFF) then .ok (Char.ofNat n, rest)
    else faultAt "Escaped character is not a Unicode scalar value" rest

/-- What a backslash stands for: a character, or nothing where it joins two lines. -/
def escape (severalLines : Bool) (cs : List Char) : Except Error (List Char × List Char) :=
  match cs with
  | c :: rest =>
    if severalLines && c = '\n' then .ok ([], rest.dropWhile isBlankOrEnd)
    else if severalLines && isBlank c then
      match skipBlanks rest with
      | [] => .ok ([], [])
      | '\n' :: more => .ok ([], more.dropWhile isBlankOrEnd)
      | more => faultAt "Unescaped '\\' in a string" more
    else if c = 'u' then (hexChar 4 rest).map fun r => ([r.1], r.2)
    else if c = 'U' then (hexChar 8 rest).map fun r => ([r.1], r.2)
    else
      match escapeChar? c with
      | some x => .ok ([x], rest)
      | none => faultAt "Unescaped '\\' in a string" rest
  | [] => faultAt "Unescaped '\\' in a string" []

/-- The rest of a text in double marks; `before` holds its characters so far, the last one first. -/
def basicText (severalLines : Bool) : Nat → List Char → List Char →
    Except Error (List Char × List Char)
  | 0, _, _ => faultAt "Unterminated string" []
  | fuel + 1, before, cs =>
    match cs with
    | [] => faultAt "Unterminated string" []
    | c :: rest =>
      if c = '"' then
        if !severalLines then .ok (before.reverse, rest)
        else
          match Text.after? ['"', '"'] rest with
          | some more => .ok (before.reverse, more)
          | none => basicText severalLines fuel (c :: before) rest
      else if c = '\\' then do
        let (xs, more) ← escape severalLines rest
        basicText severalLines fuel (xs.reverse ++ before) more
      else if (if severalLines then isIllegalInLines c else isIllegal c) then
        faultAt ("Illegal character " ++ Text.quoted c.toString) cs
      else basicText severalLines fuel (c :: before) rest

def oneLineText (cs : List Char) : Except Error (String × List Char) :=
  (basicText false (cs.length + 1) [] cs).map fun r => (String.ofList r.1, r.2)

def literalText (cs : List Char) : Except Error (String × List Char) :=
  (upTo "'" isIllegal cs).map fun r => (String.ofList r.1, r.2)

/-- Up to two more marks behind a closing one belong to the text. -/
def extraMarks (mark : Char) (text rest : List Char) : String × List Char :=
  match rest with
  | a :: b :: more =>
    if a = mark then
      if b = mark then (String.ofList (text ++ [mark, mark]), more)
      else (String.ofList (text ++ [mark]), b :: more)
    else (String.ofList text, rest)
  | [a] => if a = mark then (String.ofList (text ++ [mark]), []) else (String.ofList text, rest)
  | [] => (String.ofList text, [])

/-- A text of several lines, behind its opening marks. -/
def linesText (mark : Char) (cs : List Char) : Except Error (String × List Char) := do
  let cs := match cs with
    | '\n' :: rest => rest
    | _ => cs
  let (text, rest) ←
    if mark = '"' then basicText true (cs.length + 1) [] cs else upTo "'''" isIllegalInLines cs
  return extraMarks mark text rest

def keyPart (cs : List Char) : Except Error (String × List Char) :=
  match cs with
  | '\'' :: rest => literalText rest
  | '"' :: rest => oneLineText rest
  | _ =>
    match cs.takeWhile isBareKey with
    | [] => faultAt "Invalid initial character for a key part" cs
    | part => .ok (String.ofList part, cs.dropWhile isBareKey)

/-- A key of several parts with points between them. -/
def key : Nat → List Char → Except Error (Key × List Char)
  | 0, cs => faultAt "Invalid initial character for a key part" cs
  | fuel + 1, cs => do
    let (part, rest) ← keyPart cs
    match skipBlanks rest with
    | '.' :: more =>
      let (parts, after) ← key fuel (skipBlanks more)
      return (part :: parts, after)
    | after => return ([part], after)

def readKey (cs : List Char) : Except Error (Key × List Char) := key (cs.length + 1) cs

/-- Digits of a base with single underscores between them. -/
def digitRun (p : Char → Bool) : List Char → Option (List Char × List Char)
  | [] => none
  | c :: rest => if p c then some (go [c] rest) else none
where
  go (ds : List Char) : List Char → List Char × List Char
    | '_' :: c :: rest => if p c then go (c :: ds) rest else (ds.reverse, '_' :: c :: rest)
    | c :: rest => if p c then go (c :: ds) rest else (ds.reverse, c :: rest)
    | [] => (ds.reverse, [])

def valueIn (base : Nat) (ds : List Char) : Nat :=
  ds.foldl (fun n d => n * base + (Json.hexValue? d).getD 0) 0

def basedNumber (cs : List Char) : Option (Setting × List Char) :=
  let read (base : Nat) (p : Char → Bool) (rest : List Char) :=
    (digitRun p rest).map fun r => (Setting.whole (valueIn base r.1), r.2)
  match cs with
  | '0' :: 'x' :: rest => read 16 (fun c => (Json.hexValue? c).isSome) rest
  | '0' :: 'b' :: rest => read 2 (fun c => c = '0' || c = '1') rest
  | '0' :: 'o' :: rest => read 8 (fun c => '0' ≤ c && c ≤ '7') rest
  | _ => none

def wholeDigits (cs : List Char) : Option (List Char × List Char) :=
  match cs with
  | '0' :: rest => some (['0'], rest)
  | _ => digitRun Char.isDigit cs

def exponentDigits (cs : List Char) : Option (Bool × List Char × List Char) :=
  match cs with
  | e :: rest =>
    if e = 'e' ∨ e = 'E' then
      match rest with
      | '-' :: more => (digitRun Char.isDigit more).map fun r => (true, r)
      | '+' :: more => (digitRun Char.isDigit more).map fun r => (false, r)
      | _ => (digitRun Char.isDigit rest).map fun r => (false, r)
    else none
  | [] => none

/-- A decimal number: whole, unless a fraction or an exponent follows. -/
def decimalNumber (cs : List Char) : Option (Except Error (Setting × List Char)) :=
  let (negative, unsigned) := match cs with
    | '-' :: rest => (true, rest)
    | '+' :: rest => (false, rest)
    | _ => (false, cs)
  (wholeDigits unsigned).map fun (whole, rest) =>
    let fraction := match rest with
      | '.' :: more => digitRun Char.isDigit more
      | _ => none
    let afterFraction := (fraction.map (·.2)).getD rest
    let exponent := exponentDigits afterFraction
    if fraction.isNone && exponent.isNone then
      if Number.maxDigits < whole.length then .error (.hugeInteger whole.length)
      else
        let n : Int := (valueIn 10 whole : Nat)
        .ok (.whole (if negative then -n else n), rest)
    else
      let ds := (fraction.map (·.1)).getD []
      let e : Int := match exponent with
        | some (below, es, _) => if below then -((valueIn 10 es : Nat) : Int) else (valueIn 10 es : Nat)
        | none => 0
      let x := Binary64.ofDecimal negative (valueIn 10 (whole ++ ds)) (e - ds.length)
      .ok (.float x, (exponent.map (·.2.2)).getD afterFraction)

/-- Infinities and the value that is no number, with or without a sign. -/
def specialNumber (cs : List Char) : Option (Setting × List Char) :=
  let (negative, unsigned) := match cs with
    | '-' :: rest => (true, rest)
    | '+' :: rest => (false, rest)
    | _ => (false, cs)
  match unsigned with
  | 'i' :: 'n' :: 'f' :: rest => some (.float (.infinite negative), rest)
  | 'n' :: 'a' :: 'n' :: rest => some (.float .nan, rest)
  | _ => none

/-- A date, a time or a number. -/
def plainValue (cs : List Char) : Except Error (Setting × List Char) :=
  match Moment.dateTime? cs with
  | some (some m, rest) => .ok (.moment m, rest)
  | some (none, _) => faultAt "Invalid date or datetime" cs
  | none =>
    match Moment.clock? cs with
    | some (c, rest) => .ok (.moment (.ofClock c), rest)
    | none =>
      match basedNumber cs with
      | some r => .ok r
      | none =>
        match decimalNumber cs with
        | some r => r
        | none =>
          match specialNumber cs with
          | some r => .ok r
          | none => faultAt "Invalid value" cs

/-- Changes the table under a key, which is made where it is missing. With `lastOfLists`, a list on
the way stands for its last table. -/
def updateAt (lastOfLists : Bool) : Key → (SettingTable → Option SettingTable) → SettingTable →
    Option SettingTable
  | [], f, t => f t
  | k :: rest, f, t =>
    match (t.get? k).getD (.table []) with
    | .table inner => (updateAt lastOfLists rest f inner).map fun u => t.put k (.table u)
    | .list items =>
      match lastOfLists, items.getLast? with
      | true, some (.table inner) =>
        (updateAt lastOfLists rest f inner).map fun u =>
          t.put k (.list (items.dropLast ++ [.table u]))
      | _, _ => none
    | _ => none

def isContainer : Setting → Bool
  | .list _ | .table _ => true
  | _ => false

/-- Whether some beginning of a key is among the given keys. -/
def isWithin (keys : List Key) (k : Key) : Bool :=
  keys.any fun f => !f.isEmpty && f.isPrefixOf k

mutual

def value : Nat → List Char → Except Error (Setting × List Char)
  | 0, cs => faultAt "Invalid value" cs
  | fuel + 1, cs =>
    match cs with
    | '"' :: '"' :: '"' :: rest => (linesText '"' rest).map fun r => (.text r.1, r.2)
    | '"' :: rest => (oneLineText rest).map fun r => (.text r.1, r.2)
    | '\'' :: '\'' :: '\'' :: rest => (linesText '\'' rest).map fun r => (.text r.1, r.2)
    | '\'' :: rest => (literalText rest).map fun r => (.text r.1, r.2)
    | 't' :: 'r' :: 'u' :: 'e' :: rest => .ok (.truth true, rest)
    | 'f' :: 'a' :: 'l' :: 's' :: 'e' :: rest => .ok (.truth false, rest)
    | '[' :: rest => do
      match ← skipSpace (rest.length + 1) rest with
      | ']' :: after => return (.list [], after)
      | inner => arrayItems fuel [] inner
    | '{' :: rest =>
      match skipBlanks rest with
      | '}' :: after => .ok (.table [], after)
      | inner => inlineMembers fuel [] [] inner
    | _ => plainValue cs

/-- The items of an array from one item on; `before` holds the earlier ones, last first. -/
def arrayItems : Nat → List Setting → List Char → Except Error (Setting × List Char)
  | 0, _, cs => faultAt "Unclosed array" cs
  | fuel + 1, before, cs => do
    let (v, rest) ← value fuel cs
    match ← skipSpace (rest.length + 1) rest with
    | ']' :: after => return (.list (v :: before).reverse, after)
    | ',' :: more =>
      match ← skipSpace (more.length + 1) more with
      | ']' :: after => return (.list (v :: before).reverse, after)
      | inner => arrayItems fuel (v :: before) inner
    | after => faultAt "Unclosed array" after

/-- The members of a table between braces. Values that hold others are closed to further keys. -/
def inlineMembers : Nat → List Key → SettingTable → List Char → Except Error (Setting × List Char)
  | 0, _, _, cs => faultAt "Unclosed inline table" cs
  | fuel + 1, frozen, t, cs => do
    let (k, afterKey) ← readKey cs
    match afterKey with
    | '=' :: beforeValue =>
      let (v, rest) ← value fuel (skipBlanks beforeValue)
      let stem := k.getLast?.getD ""
      if isWithin frozen k then
        faultAt ("Cannot mutate immutable namespace " ++ keyText k) rest
      else
        match updateAt false k.dropLast some t with
        | none => faultAt "Cannot overwrite a value" rest
        | some _ =>
          match updateAt false k.dropLast
              (fun u => if (u.get? stem).isSome then none else some (u.put stem v)) t with
          | none => faultAt ("Duplicate inline table key " ++ Text.quoted stem) rest
          | some t =>
            match skipBlanks rest with
            | '}' :: after => return (.table t, after)
            | ',' :: more =>
              let frozen := if isContainer v then k :: frozen else frozen
              inlineMembers fuel frozen t (skipBlanks more)
            | after => faultAt "Unclosed inline table" after
    | _ => faultAt "Expected '=' after a key in a key/value pair" afterKey

end

/-- The tables read so far. Keys of values that hold others are frozen; keys of tables that were
declared, or used in a dotted key, cannot be declared again. -/
structure Document where
  root : SettingTable := []
  frozen : List Key := []
  explicit : List Key := []
  pending : List Key := []
  header : Key := []
  deriving Inhabited

/-- A table declaration, behind its bracket. -/
def declareTable (d : Document) (cs : List Char) : Except Error (Document × List Char) := do
  let (k, rest) ← readKey (skipBlanks cs)
  if d.explicit.contains k || isWithin d.frozen k then
    faultAt ("Cannot declare " ++ keyText k ++ " twice") rest
  else
    match updateAt true k some d.root with
    | none => faultAt "Cannot overwrite a value" rest
    | some root =>
      match rest with
      | ']' :: after => return ({ d with root, explicit := k :: d.explicit, header := k }, after)
      | _ => faultAt "Expected ']' at the end of a table declaration" rest

/-- A table with an empty one added at the end of the list under a key. -/
def appendTable (stem : String) (t : SettingTable) : Option SettingTable :=
  match t.get? stem with
  | none => some (t.put stem (.list [.table []]))
  | some (.list items) => some (t.put stem (.list (items ++ [.table []])))
  | some _ => none

/-- The declaration of one more table in a list, behind its brackets. -/
def declareItem (d : Document) (cs : List Char) : Except Error (Document × List Char) := do
  let (k, rest) ← readKey (skipBlanks cs)
  if isWithin d.frozen k then
    faultAt ("Cannot mutate immutable namespace " ++ keyText k) rest
  else
    match updateAt true k.dropLast (appendTable (k.getLast?.getD "")) d.root with
    | none => faultAt "Cannot overwrite a value" rest
    | some root =>
      match rest with
      | ']' :: ']' :: after =>
        let outside := fun x : Key => !k.isPrefixOf x
        return ({ d with
          root := root
          frozen := d.frozen.filter outside
          explicit := k :: d.explicit.filter outside
          header := k }, after)
      | _ => faultAt "Expected ']]' at the end of an array declaration" rest

/-- The beginnings of a key that name the tables on its way. -/
def properPrefixes (header k : Key) : List Key :=
  (List.range (k.length - 1)).map fun n => header ++ k.take (n + 1)

/-- A key with its value. -/
def assign (d : Document) (cs : List Char) : Except Error (Document × List Char) := do
  let (k, afterKey) ← readKey cs
  match afterKey with
  | '=' :: beforeValue =>
    let start := skipBlanks beforeValue
    let (v, rest) ← value (start.length + 2) start
    let path := d.header ++ k.dropLast
    let stem := k.getLast?.getD ""
    match (properPrefixes d.header k).find? d.explicit.contains with
    | some c => faultAt ("Cannot redefine namespace " ++ keyText c) rest
    | none =>
      if isWithin d.frozen path then
        faultAt ("Cannot mutate immutable namespace " ++ keyText path) rest
      else
        match updateAt true path
            (fun t => if (t.get? stem).isSome then none else some (t.put stem v)) d.root with
        | none => faultAt "Cannot overwrite a value" rest
        | some root =>
          return ({ d with
            root := root
            pending := d.pending ++ properPrefixes d.header k
            frozen := if isContainer v then (d.header ++ k) :: d.frozen else d.frozen }, rest)
  | _ => faultAt "Expected '=' after a key in a key/value pair" afterKey

/-- One statement; `none` where the line holds none. -/
def statement (d : Document) (cs : List Char) : Except Error (Document × List Char) :=
  match cs with
  | c :: rest =>
    if isBareKey c || c = '"' || c = '\'' then assign d cs
    else if c = '[' then
      let d := { d with explicit := d.pending ++ d.explicit, pending := [] }
      match rest with
      | '[' :: more => declareItem d more
      | _ => declareTable d rest
    else if c = '#' then .ok (d, cs)
    else faultAt "Invalid statement" cs
  | [] => .ok (d, [])

/-- All statements, one to a line. -/
def statements : Nat → Document → List Char → Except Error Document
  | 0, d, _ => .ok d
  | fuel + 1, d, cs =>
    match skipBlanks cs with
    | [] => .ok d
    | '\n' :: rest => statements fuel d rest
    | start => do
      let (d, rest) ← statement d start
      match ← skipComment (skipBlanks rest) with
      | [] => return d
      | '\n' :: more => statements fuel d more
      | after => faultAt "Expected newline or end of document after a statement" after

/-- Line feeds in place of carriage returns before them. -/
def joinLineEnds : List Char → List Char
  | '\r' :: '\n' :: rest => '\n' :: joinLineEnds rest
  | c :: rest => c :: joinLineEnds rest
  | [] => []

/-- The tables of a settings file. -/
def read (s : String) : Except Error SettingTable :=
  let cs := joinLineEnds s.toList
  (statements (cs.length + 1) {} cs).map (·.root)

/-- The error in words, for the text that was read. -/
def Error.message (s : String) : Error → String
  | fault m left => m ++ " (at " ++ placeText (joinLineEnds s.toList) left ++ ")"
  | hugeInteger n => Number.tooLongMessage n

end Walkthrough.Toml
