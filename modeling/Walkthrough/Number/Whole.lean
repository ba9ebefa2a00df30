import Walkthrough.Text.Alphanumeric
import Walkthrough.Text.Blank
import Walkthrough.Text.Quoted

/-! Whole numbers written as text, in the digits of any alphabet. -/
namespace Walkthrough.Number

/-- Why a text stands for no whole number. -/
inductive WholeError where
  | unreadable (text : String)
  | tooLong (digits : Nat)
  deriving DecidableEq, Repr

/-- The most digits that are converted. -/
def maxDigits : Nat := 4300

/-- A sentence on the digits of a number that is too long to convert. -/
def tooLongMessage (digits : Nat) : String :=
  s!"Exceeds the limit ({maxDigits} digits) for integer string conversion: value has " ++
    s!"{digits} digits; use sys.set_int_max_str_digits() to increase the limit"

def WholeError.message : WholeError → String
  | unreadable s =>
    "invalid literal for int() with base 10: " ++
      String.ofList ((Text.quoted s).toList.take 200)
  | tooLong n => tooLongMessage n

def isAscii (c : Char) : Bool := c.toNat < 128

/-- Digits with single underscores between them, and the text after the last digit. `ds` holds
the digits so far, the last one first. -/
def digitGroups (ds : List Nat) (afterUnderscore : Bool) : List Char → Option (List Nat × List Char)
  | [] => if afterUnderscore || ds.isEmpty then none else some (ds.reverse, [])
  | c :: rest =>
    match Text.digitValue? c with
    | some d => digitGroups (d :: ds) false rest
    | none =>
      if afterUnderscore || ds.isEmpty then none
      else if c = '_' then digitGroups ds true rest
      else some (ds.reverse, c :: rest)

/-- A sign, digits in groups, and blanks around them. In a text beyond ASCII the blanks of other
scripts count as well. -/
def readWhole (s : String) : Except WholeError Int :=
  let cs := s.toList
  let blank := if cs.all isAscii then Text.isAsciiBlank else Text.isBlank
  let (negative, unsigned) := match cs.dropWhile blank with
    | '-' :: rest => (true, rest)
    | '+' :: rest => (false, rest)
    | rest => (false, rest)
  match digitGroups [] false unsigned with
  | none => .error (.unreadable s)
  | some (ds, rest) =>
    if maxDigits < ds.length then .error (.tooLong ds.length)
    else if rest.all blank then
      let n : Int := (ds.foldl (fun n d => n * 10 + d) 0 : Nat)
      .ok (if negative then -n else n)
    else .error (.unreadable s)

end Walkthrough.Number
