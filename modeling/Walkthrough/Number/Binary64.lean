/-! Binary floating-point numbers of 64 bits, held exactly. -/
namespace Walkthrough

/-- A sign with `mantissa * 2 ^ exponent`, an infinity, or no number at all. Finite values are kept
with the mantissa below `2 ^ 53` and either at least `2 ^ 52` or at the least exponent. -/
inductive Binary64 where
  | finite (negative : Bool) (mantissa : Nat) (exponent : Int)
  | infinite (negative : Bool)
  | nan
  deriving DecidableEq, Repr, Inhabited

namespace Binary64

/-- The exponent of the smallest step between two values. -/
def minExponent : Int := -1074

/-- The exponent of the largest finite value. -/
def maxExponent : Int := 971

def zero (negative : Bool) : Binary64 := .finite negative 0 minExponent

/-- The whole number nearest to a quotient; a half goes to the even neighbour. -/
def roundQuotient (num den : Nat) : Nat :=
  let q := num / den
  let r := num % den
  if 2 * r < den then q
  else if den < 2 * r then q + 1
  else if q % 2 = 0 then q else q + 1

/-- `num / den` divided by `2 ^ exponent`, as a quotient of whole numbers. -/
def scaled (num den : Nat) (exponent : Int) : Nat × Nat :=
  if 0 ≤ exponent then (num, den * Nat.pow 2 exponent.toNat)
  else (num * Nat.pow 2 (-exponent).toNat, den)

/-- The exponent at which the mantissa of `num / den` fills 53 bits, or the least one. -/
def exponentFor (num den : Nat) : Int :=
  let guess : Int := (num.log2 : Int) - (den.log2 : Int) - 53
  let (n, d) := scaled num den guess
  let fitting := if n / d < Nat.pow 2 53 then guess else guess + 1
  max fitting minExponent

/-- The nearest value to `num / den`. -/
def ofQuotient (negative : Bool) (num den : Nat) : Binary64 :=
  if num = 0 then zero negative
  else
    let q := exponentFor num den
    let (n, d) := scaled num den q
    let m := roundQuotient n d
    let (m, q) := if m = Nat.pow 2 53 then (Nat.pow 2 52, q + 1) else (m, q)
    if maxExponent < q then .infinite negative else .finite negative m q

/-- The number of decimal digits of a whole number. -/
def digitCount (n : Nat) : Nat := (Nat.toDigits 10 n).length

/-- The nearest value to `digits * 10 ^ exponent`. Numbers far outside the range are settled by
their number of digits alone. -/
def ofDecimal (negative : Bool) (digits : Nat) (exponent : Int) : Binary64 :=
  if digits = 0 then zero negative
  else
    let magnitude := (digitCount digits : Int) + exponent
    if 400 < magnitude then .infinite negative
    else if magnitude < -400 then zero negative
    else if 0 ≤ exponent then ofQuotient negative (digits * Nat.pow 10 exponent.toNat) 1
    else ofQuotient negative digits (Nat.pow 10 (-exponent).toNat)

def isZero : Binary64 → Bool
  | .finite _ m _ => m == 0
  | _ => false

/-- The value as a quotient of whole numbers, without its sign. -/
def magnitude (mantissa : Nat) (exponent : Int) : Nat × Nat :=
  if 0 ≤ exponent then (mantissa * Nat.pow 2 exponent.toNat, 1)
  else (mantissa, Nat.pow 2 (-exponent).toNat)

/-- The whole part, toward zero. -/
def truncate? : Binary64 → Option Int
  | .finite negative m q =>
    let (n, d) := magnitude m q
    some (if negative then -((n / d : Nat) : Int) else (n / d : Nat))
  | _ => none

/-- The nearest value to the one that is greater by one. -/
def addOne : Binary64 → Binary64
  | .finite negative m q =>
    let (n, d) := magnitude m q
    let sum : Int := (if negative then -(n : Int) else n) + d
    ofQuotient (decide (sum < 0)) sum.natAbs d
  | x => x

/-- Whether a finite value is a whole number. -/
def isIntegral : Binary64 → Bool
  | .finite _ m q =>
    let (n, d) := magnitude m q
    n % d == 0
  | _ => false

end Binary64
end Walkthrough
