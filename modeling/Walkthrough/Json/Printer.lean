import Walkthrough.Json.Basic

/-! Documents as text: on one line, with or without escapes beyond ASCII, or indented. -/
namespace Walkthrough.Json

/-- An escape of one code unit of 16 bits. -/
def unitEscape (n : Nat) : List Char := '\\' :: 'u' :: Text.hex 4 n

/-- A character beyond ASCII as escapes; one above the first plane takes two. -/
def wideEscape (c : Char) : List Char :=
  let n := c.toNat
  if n < 0x10000 then unitEscape n
  else
    let m := n - 0x10000
    unitEscape (0xD800 + m / 0x400) ++ unitEscape (0xDC00 + m % 0x400)

/-- A character inside a string. `ascii` asks for escapes beyond the visible ASCII characters. -/
def stringChar (ascii : Bool) (c : Char) : List Char :=
  if c = '"' then ['\\', '"']
  else if c = '\\' then ['\\', '\\']
  else if c = '\n' then ['\\', 'n']
  else if c = '\r' then ['\\', 'r']
  else if c = '\t' then ['\\', 't']
  else if c = '\x08' then ['\\', 'b']
  else if c = '\x0c' then ['\\', 'f']
  else if c.toNat < 32 then unitEscape c.toNat
  else if ascii && 126 < c.toNat then wideEscape c
  else [c]

def stringChars (ascii : Bool) (s : String) : List Char :=
  '"' :: s.toList.flatMap (stringChar ascii) ++ ['"']

/-- A number; the values that are none have names of their own. -/
def floatChars : Binary64 → List Char
  | .nan => "NaN".toList
  | .infinite negative => (if negative then "-Infinity" else "Infinity").toList
  | x => x.text.toList

def intChars (n : Int) : List Char := (toString n).toList

mutual

/-- A document on one line. -/
def chars (ascii : Bool) : Json → List Char
  | null => "null".toList
  | bool b => (if b then "true" else "false").toList
  | int n => intChars n
  | float x => floatChars x
  | str s => stringChars ascii s
  | arr [] => ['[', ']']
  | arr (v :: rest) => '[' :: chars ascii v ++ itemChars ascii rest
  | obj [] => ['{', '}']
  | obj ((k, v) :: rest) =>
    '{' :: stringChars ascii k ++ ':' :: ' ' :: chars ascii v ++ memberChars ascii rest

/-- The items after the first, and the closing bracket. -/
def itemChars (ascii : Bool) : List Json → List Char
  | [] => [']']
  | v :: rest => ',' :: ' ' :: chars ascii v ++ itemChars ascii rest

/-- The members after the first, and the closing brace. -/
def memberChars (ascii : Bool) : List (String × Json) → List Char
  | [] => ['}']
  | (k, v) :: rest =>
    ',' :: ' ' :: stringChars ascii k ++ ':' :: ' ' :: chars ascii v ++ memberChars ascii rest

end

/-- A document on one line; with `ascii`, escapes stand for all characters beyond ASCII. -/
def render (ascii : Bool) (v : Json) : String := String.ofList (v.chars ascii)

/-- A new line, indented by two blanks for each level. -/
def indentation (level : Nat) : List Char := '\n' :: List.replicate (2 * level) ' '

mutual

/-- A document with one item or member a line. -/
def indentedChars (level : Nat) : Json → List Char
  | arr [] => ['[', ']']
  | arr (v :: rest) =>
    '[' :: indentation (level + 1) ++ indentedChars (level + 1) v ++ indentedItems level rest
  | obj [] => ['{', '}']
  | obj ((k, v) :: rest) =>
    '{' :: indentation (level + 1) ++ stringChars false k ++ ':' :: ' ' ::
      indentedChars (level + 1) v ++ indentedMembers level rest
  | v => chars false v

def indentedItems (level : Nat) : List Json → List Char
  | [] => indentation level ++ [']']
  | v :: rest =>
    ',' :: indentation (level + 1) ++ indentedChars (level + 1) v ++ indentedItems level rest

def indentedMembers (level : Nat) : List (String × Json) → List Char
  | [] => indentation level ++ ['}']
  | (k, v) :: rest =>
    ',' :: indentation (level + 1) ++ stringChars false k ++ ':' :: ' ' ::
      indentedChars (level + 1) v ++ indentedMembers level rest

end

/-- A document over several lines, with characters beyond ASCII as they are. -/
def renderIndented (v : Json) : String := String.ofList (v.indentedChars 0)

end Walkthrough.Json
