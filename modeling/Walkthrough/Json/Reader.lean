import Walkthrough.Json.Basic
import Walkthrough.Number.Whole

/-! Reading documents from text, and the place of the first fault. -/
namespace Walkthrough.Json

/-- What can be wrong with the text of a document. -/
inductive Fault where
  | byteOrderMark
  | value
  | key
  | colon
  | comma
  | openString
  | controlCharacter
  | escape
  | unicodeEscape
  | extraData
  deriving DecidableEq, Repr

def Fault.message : Fault → String
  | byteOrderMark => "Unexpected UTF-8 BOM (decode using utf-8-sig)"
  | value => "Expecting value"
  | key => "Expecting property name enclosed in double quotes"
  | colon => "Expecting ':' delimiter"
  | comma => "Expecting ',' delimiter"
  | openString => "Unterminated string starting at"
  | controlCharacter => "Invalid control character at"
  | escape => "Invalid \\escape"
  | unicodeEscape => "Invalid \\uXXXX escape"
  | extraData => "Extra data"

/-- Why a text is no document: a fault before its last `left` characters, or a whole number with
more digits than are converted. -/
inductive ReadError where
  | fault (kind : Fault) (left : Nat)
  | hugeInteger (digits : Nat)
  deriving DecidableEq, Repr

def faultAt {α : Type} (kind : Fault) (rest : List Char) : Except ReadError α :=
  .error (.fault kind rest.length)

def isDocumentBlank (c : Char) : Bool := c = ' ' || c = '\t' || c = '\n' || c = '\r'

def skipBlanks (cs : List Char) : List Char := cs.dropWhile isDocumentBlank

def hexValue? (c : Char) : Option Nat :=
  if '0' ≤ c ∧ c ≤ '9' then some (c.toNat - 48)
  else if 'a' ≤ c ∧ c ≤ 'f' then some (c.toNat - 87)
  else if 'A' ≤ c ∧ c ≤ 'F' then some (c.toNat - 55)
  else none

/-- A code unit of four hexadecimal digits, with more text behind it. -/
def codeUnit? : List Char → Option (Nat × List Char)
  | a :: b :: c :: d :: x :: rest => do
    let a ← hexValue? a
    let b ← hexValue? b
    let c ← hexValue? c
    let d ← hexValue? d
    return (a * 4096 + b * 256 + c * 16 + d, x :: rest)
  | _ => none

def isHighUnit (n : Nat) : Bool := 0xD800 ≤ n && n < 0xDC00

def isLowUnit (n : Nat) : Bool := 0xDC00 ≤ n && n < 0xE000

/-- The character of a code unit; half of a pair that stands alone has the replacement character. -/
def unitChar (n : Nat) : Char :=
  if isHighUnit n || isLowUnit n then '\uFFFD' else Char.ofNat n

def pairChar (high low : Nat) : Char :=
  Char.ofNat (0x10000 + (high - 0xD800) * 0x400 + (low - 0xDC00))

/-- The character that a letter after a backslash stands for. -/
def escapeChar? (c : Char) : Option Char :=
  if c = '"' ∨ c = '\\' ∨ c = '/' then some c
  else if c = 'b' then some '\x08'
  else if c = 'f' then some '\x0c'
  else if c = 'n' then some '\n'
  else if c = 'r' then some '\r'
  else if c = 't' then some '\t'
  else none

/-- The escape after the letter `u`: one unit, or two that make a pair. -/
def readUnits (cs : List Char) : Except ReadError (Char × List Char) :=
  match codeUnit? cs with
  | none => .error (.fault .unicodeEscape (cs.length + 1))
  | some (n, rest) =>
    match rest with
    | '\\' :: 'u' :: more =>
      if isHighUnit n && 4 < more.length then
        match codeUnit? more with
        | none => .error (.fault .unicodeEscape (more.length + 1))
        | some (low, after) =>
          if isLowUnit low then .ok (pairChar n low, after) else .ok (unitChar n, rest)
      else .ok (unitChar n, rest)
    | _ => .ok (unitChar n, rest)

/-- The rest of a string whose opening mark stands before the last `start` characters. -/
def readString (start : Nat) : Nat → List Char → List Char → Except ReadError (String × List Char)
  | 0, _, _ => .error (.fault .openString start)
  | _ + 1, _, [] => .error (.fault .openString start)
  | fuel + 1, before, c :: rest =>
    if c = '"' then .ok (String.ofList before.reverse, rest)
    else if c = '\\' then
      match rest with
      | [] => .error (.fault .openString start)
      | 'u' :: more => do
        let (u, after) ← readUnits more
        readString start fuel (u :: before) after
      | e :: more =>
        match escapeChar? e with
        | some x => readString start fuel (x :: before) more
        | none => faultAt .escape (c :: rest)
    else if c.toNat < 32 then faultAt .controlCharacter (c :: rest)
    else readString start fuel (c :: before) rest

/-- A string whose opening mark has been read. -/
def readText (cs : List Char) : Except ReadError (String × List Char) :=
  readString (cs.length + 1) (cs.length + 1) [] cs

def isDigit (c : Char) : Bool := '0' ≤ c && c ≤ '9'

def digitsValue (ds : List Char) : Nat := ds.foldl (fun n d => n * 10 + (d.toNat - 48)) 0

/-- The digits before the point: a zero alone, or digits that do not start with zero. -/
def wholeDigits? : List Char → Option (List Char × List Char)
  | '0' :: rest => some (['0'], rest)
  | cs =>
    match cs.takeWhile isDigit with
    | [] => none
    | ds => some (ds, cs.dropWhile isDigit)

/-- The digits after a point, with at least one of them. -/
def fractionDigits? : List Char → Option (List Char × List Char)
  | '.' :: rest =>
    match rest.takeWhile isDigit with
    | [] => none
    | ds => some (ds, rest.dropWhile isDigit)
  | _ => none

/-- An exponent with at least one digit. -/
def exponent? : List Char → Option (Int × List Char)
  | e :: rest =>
    if e = 'e' ∨ e = 'E' then
      let (negative, digits) := match rest with
        | '-' :: r => (true, r)
        | '+' :: r => (false, r)
        | r => (false, r)
      match digits.takeWhile isDigit with
      | [] => none
      | ds =>
        let n : Int := (digitsValue ds : Nat)
        some (if negative then -n else n, digits.dropWhile isDigit)
    else none
  | [] => none

/-- A number without its sign: whole, unless a point or an exponent follows with digits. -/
def readMagnitude (negative : Bool) (whole rest : List Char) : Except ReadError (Json × List Char) :=
  let fraction := fractionDigits? rest
  let afterFraction := (fraction.map (·.2)).getD rest
  let exponent := exponent? afterFraction
  if fraction.isNone && exponent.isNone then
    if Number.maxDigits < whole.length then .error (.hugeInteger whole.length)
    else
      let n : Int := (digitsValue whole : Nat)
      .ok (.int (if negative then -n else n), rest)
  else
    let ds := (fraction.map (·.1)).getD []
    let e := (exponent.map (·.1)).getD 0
    let x := Binary64.ofDecimal negative (digitsValue (whole ++ ds)) (e - ds.length)
    .ok (.float x, (exponent.map (·.2)).getD afterFraction)

def readNumber (cs : List Char) : Except ReadError (Json × List Char) :=
  let (negative, digits) := match cs with
    | '-' :: rest => (true, rest)
    | _ => (false, cs)
  match wholeDigits? digits with
  | some (whole, rest) => readMagnitude negative whole rest
  | none => faultAt .value cs

/-- A value written as one word, or as a number. -/
def readScalar : List Char → Except ReadError (Json × List Char)
  | 'n' :: 'u' :: 'l' :: 'l' :: rest => .ok (null, rest)
  | 't' :: 'r' :: 'u' :: 'e' :: rest => .ok (bool true, rest)
  | 'f' :: 'a' :: 'l' :: 's' :: 'e' :: rest => .ok (bool false, rest)
  | 'N' :: 'a' :: 'N' :: rest => .ok (float .nan, rest)
  | 'I' :: 'n' :: 'f' :: 'i' :: 'n' :: 'i' :: 't' :: 'y' :: rest =>
    .ok (float (.infinite false), rest)
  | '-' :: 'I' :: 'n' :: 'f' :: 'i' :: 'n' :: 'i' :: 't' :: 'y' :: rest =>
    .ok (float (.infinite true), rest)
  | cs => readNumber cs

mutual

/-- A value at the start of the text; `fuel` bounds the number of nested values and items. -/
def readValue : Nat → List Char → Except ReadError (Json × List Char)
  | 0, cs => faultAt .value cs
  | fuel + 1, cs =>
    match cs with
    | '"' :: rest => do
      let (s, after) ← readText rest
      return (str s, after)
    | '[' :: rest =>
      match skipBlanks rest with
      | ']' :: after => .ok (arr [], after)
      | inner => readItems fuel [] inner
    | '{' :: rest =>
      match skipBlanks rest with
      | '}' :: after => .ok (obj [], after)
      | inner => readMembers fuel [] inner
    | _ => readScalar cs

/-- The items of an array from one item on; `before` holds the earlier ones, last first. -/
def readItems : Nat → List Json → List Char → Except ReadError (Json × List Char)
  | 0, _, cs => faultAt .value cs
  | fuel + 1, before, cs => do
    let (v, after) ← readValue fuel cs
    match skipBlanks after with
    | ']' :: rest => .ok (arr (v :: before).reverse, rest)
    | ',' :: rest => readItems fuel (v :: before) (skipBlanks rest)
    | rest => faultAt .comma rest

/-- The members of an object from one key on; `before` holds the earlier ones, last first. -/
def readMembers : Nat → List (String × Json) → List Char → Except ReadError (Json × List Char)
  | 0, _, cs => faultAt .value cs
  | fuel + 1, before, cs =>
    match cs with
    | '"' :: inner => do
      let (k, afterKey) ← readText inner
      match skipBlanks afterKey with
      | ':' :: rest =>
        let (v, after) ← readValue fuel (skipBlanks rest)
        match skipBlanks after with
        | '}' :: rest => .ok (obj (Members.ofPairs ((k, v) :: before).reverse), rest)
        | ',' :: rest => readMembers fuel ((k, v) :: before) (skipBlanks rest)
        | rest => faultAt .comma rest
      | rest => faultAt .colon rest
    | _ => faultAt .key cs

end

/-- The one document in a text, with nothing but blanks around it. -/
def readChars (cs : List Char) : Except ReadError Json :=
  if cs.head? = some '\uFEFF' then .error (.fault .byteOrderMark cs.length)
  else do
    let (v, after) ← readValue (cs.length + 1) (skipBlanks cs)
    let rest := skipBlanks after
    if rest.isEmpty then .ok v else .error (.fault .extraData rest.length)

def read (s : String) : Except ReadError Json := readChars s.toList

/-- The place of a character in a text: its line, its column in the line, and its number. -/
def place (cs : List Char) (position : Nat) : String :=
  let before := cs.take position
  let line := before.count '\n' + 1
  let column := (before.reverse.takeWhile (· != '\n')).length + 1
  s!"line {line} column {column} (char {position})"

/-- The error in words, for the text that was read. -/
def ReadError.message (text : String) : ReadError → String
  | .fault kind left => kind.message ++ ": " ++ place text.toList (text.length - left)
  | .hugeInteger digits => Number.tooLongMessage digits

end Walkthrough.Json
