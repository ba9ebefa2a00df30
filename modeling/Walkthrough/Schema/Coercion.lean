import Walkthrough.Json.Basic
import Walkthrough.Schema.Problem
import Walkthrough.Text.Blank

/-! Values of documents read as texts, numbers, truth values, lists and objects. -/
namespace Walkthrough.Schema

open Checked

/-- A text; nothing else is taken for one. -/
def text : Json → Checked String
  | .str s => good s
  | _ => fail .notText

/-- Null, or whatever `read` accepts. -/
def nullOr {α : Type} (read : Json → Checked α) : Json → Checked (Option α)
  | .null => good none
  | v => some <$> read v

def anything (v : Json) : Checked Json := good v

def object : Json → Checked Members
  | .obj ms => good ms
  | _ => fail .notObject

def list {α : Type} (read : Json → Checked α) : Json → Checked (List α)
  | .arr vs => items read vs
  | _ => fail .notList

/-- Digits with single underscores between them: the value of the digits. -/
def groupedDigits? : List Char → Option Nat
  | [] => none
  | cs => go 0 false cs
where
  go (value : Nat) (afterDigit : Bool) : List Char → Option Nat
    | [] => if afterDigit then some value else none
    | c :: rest =>
      if c.isDigit then go (value * 10 + (c.toNat - 48)) true rest
      else if c = '_' && afterDigit then go value false rest
      else none

/-- A whole number in text: a sign, digits, and zeros alone after a point. -/
def wholeText? (s : String) : Option Int :=
  let cs := Text.trimBy Text.isAsciiBlank s.toList
  let (negative, unsigned) := match cs with
    | '-' :: rest => (true, rest)
    | '+' :: rest => (false, rest)
    | _ => (false, cs)
  let whole := unsigned.takeWhile (· != '.')
  match unsigned.dropWhile (· != '.') with
  | [] => (groupedDigits? whole).map (signed negative)
  | _ :: fraction =>
    if !fraction.isEmpty && fraction.all (· == '0') then
      (groupedDigits? whole).map (signed negative)
    else none
where
  signed (negative : Bool) (n : Nat) : Int := if negative then -n else n

/-- The longest text that is read as a whole number. -/
def maxWholeText : Nat := 4300

/-- A whole number: also a truth value, a float without a fraction, or a text of digits. -/
def whole : Json → Checked Int
  | .int n => good n
  | .bool b => good (if b then 1 else 0)
  | .float x =>
    match x.truncate? with
    | none => fail .notFinite
    | some n =>
      if !x.isIntegral then fail .fractional
      else if n.natAbs < Nat.pow 2 63 then good n
      else fail .wholeTooLarge
  | .str s =>
    if maxWholeText < s.length then fail .wholeTooLarge
    else
      match wholeText? s with
      | some n => good n
      | none => fail .unreadableWhole
  | _ => fail .notWhole

def trueWords : List String := ["1", "on", "t", "true", "y", "yes"]

def falseWords : List String := ["0", "off", "f", "false", "n", "no"]

/-- A truth value: also the numbers 0 and 1, and a few words in letters of either case. -/
def truth : Json → Checked Bool
  | .bool b => good b
  | .int n => if n = 0 then good false else if n = 1 then good true else fail .unreadableTruth
  | .float x =>
    if !x.isIntegral then fail .notTruth
    else if x.truncate? = some 0 then good false
    else if x.truncate? = some 1 then good true
    else fail .notTruth
  | .str s =>
    let word := s.toLower
    if trueWords.contains word then good true
    else if falseWords.contains word then good false
    else fail .unreadableTruth
  | _ => fail .notTruth

end Walkthrough.Schema
