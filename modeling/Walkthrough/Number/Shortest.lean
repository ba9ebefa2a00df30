import Walkthrough.Number.Binary64

/-! The shortest decimal that reads back as a given value, and its usual written form. -/
namespace Walkthrough.Binary64

/-- The decimals that round to a value: from `low / den` to `high / den`, ends included when
`closed`. `value / den` is the value itself. -/
structure Interval where
  low : Nat
  value : Nat
  high : Nat
  den : Nat
  closed : Bool

/-- The interval of a positive mantissa and its exponent, in quarters of the last place. -/
def interval (mantissa : Nat) (exponent : Int) : Interval :=
  let below := if mantissa = Nat.pow 2 52 ∧ minExponent < exponent then 1 else 2
  let (unit, den) := magnitude 1 (exponent - 2)
  { low := (4 * mantissa - below) * unit, value := 4 * mantissa * unit
    high := (4 * mantissa + 2) * unit, den := den, closed := mantissa % 2 == 0 }

/-- Whether `digits * num / den` lies in the interval. -/
def Interval.holds (i : Interval) (digits num den : Nat) : Bool :=
  let x := digits * num * i.den
  if i.closed then decide (i.low * den ≤ x) && decide (x ≤ i.high * den)
  else decide (i.low * den < x) && decide (x < i.high * den)

/-- A power of ten as a quotient. -/
def powerOfTen (exponent : Int) : Nat × Nat :=
  if 0 ≤ exponent then (Nat.pow 10 exponent.toNat, 1) else (1, Nat.pow 10 (-exponent).toNat)

/-- The multiple of `10 ^ exponent` that lies in the interval nearest to the value, if any; a tie
goes to the even one. -/
def Interval.onGrid (i : Interval) (exponent : Int) : Option Nat :=
  let (num, den) := powerOfTen exponent
  let lower := i.value * den / (i.den * num)
  let rest := 2 * (i.value * den % (i.den * num))
  let upperNearer := i.den * num < rest || (i.den * num == rest && lower % 2 == 1)
  match i.holds lower num den, i.holds (lower + 1) num den with
  | true, true => some (if upperNearer then lower + 1 else lower)
  | true, false => some lower
  | false, true => some (lower + 1)
  | false, false => none

/-- The least `e` with `value < 10 ^ e`, searched upward from `start`. -/
def decimalOrder (i : Interval) (start : Int) : Nat → Int
  | 0 => start
  | fuel + 1 =>
    let (num, den) := powerOfTen start
    if i.value * den < i.den * num then start else decimalOrder i (start + 1) fuel

/-- Tries one digit, two digits and so on. -/
def shortestFrom (i : Interval) (order : Int) (digits : Nat) : Nat → Nat × Int
  | 0 => (i.value / i.den, 0)
  | fuel + 1 =>
    match i.onGrid (order - digits) with
    | some n => (n, order - digits)
    | none => shortestFrom i order (digits + 1) fuel

/-- The digits and the exponent of ten of the shortest decimal that reads back as the value. -/
def shortest (mantissa : Nat) (exponent : Int) : Nat × Int :=
  let i := interval mantissa exponent
  let start := ((mantissa.log2 : Int) + exponent) * 30103 / 100000 - 1
  shortestFrom i (decimalOrder i start 5) 1 17

/-- Digits without the zeros at their end. -/
def dropFinalZeros (ds : List Char) : List Char :=
  (ds.reverse.dropWhile (· == '0')).reverse

/-- An exponent with its sign and at least two digits. -/
def exponentText (e : Int) : List Char :=
  let ds := Nat.toDigits 10 e.natAbs
  (if e < 0 then '-' else '+') :: (if ds.length < 2 then '0' :: ds else ds)

/-- Digits with the point after the first `order` of them; from `10 ^ 16` on and below `10 ^ -4`
an exponent stands at the end. -/
def place (ds : List Char) (order : Int) : List Char :=
  if order ≤ -4 ∨ 16 < order then
    let tail := ds.drop 1
    ds.take 1 ++ (if tail.isEmpty then [] else '.' :: tail) ++ 'e' :: exponentText (order - 1)
  else if order ≤ 0 then
    '0' :: '.' :: List.replicate (-order).toNat '0' ++ ds
  else if ds.length ≤ order.toNat then
    ds ++ List.replicate (order.toNat - ds.length) '0' ++ ['.', '0']
  else
    ds.take order.toNat ++ '.' :: ds.drop order.toNat

/-- The written form of a finite value without its sign. -/
def magnitudeText (mantissa : Nat) (exponent : Int) : List Char :=
  if mantissa = 0 then ['0', '.', '0']
  else
    let (n, e) := shortest mantissa exponent
    let ds := Nat.toDigits 10 n
    place (dropFinalZeros ds) ((ds.length : Int) + e)

/-- The written form: the fewest digits that read back, with a point or an exponent. -/
def text : Binary64 → String
  | .finite negative m q =>
    String.ofList ((if negative then ['-'] else []) ++ magnitudeText m q)
  | .infinite negative => if negative then "-inf" else "inf"
  | .nan => "nan"

end Walkthrough.Binary64
