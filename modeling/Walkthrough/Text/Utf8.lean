import Walkthrough.Text.Quoted

/-! Texts as bytes, and the place of the first byte that belongs to no character. -/
namespace Walkthrough.Text.Utf8

/-- Why bytes are no text. -/
inductive Reason where
  | startByte
  | continuationByte
  | endOfData
  deriving DecidableEq, Repr

def Reason.message : Reason → String
  | startByte => "invalid start byte"
  | continuationByte => "invalid continuation byte"
  | endOfData => "unexpected end of data"

/-- The faulty bytes: how many, which one is first, and where it stands. -/
structure Fault where
  reason : Reason
  start : Nat
  length : Nat
  first : Nat
  deriving DecidableEq, Repr

def Fault.message (f : Fault) : String :=
  if f.length = 1 then
    "'utf-8' codec can't decode byte 0x" ++ String.ofList (hex 2 f.first) ++
      s!" in position {f.start}: " ++ f.reason.message
  else
    s!"'utf-8' codec can't decode bytes in position {f.start}-{f.start + f.length - 1}: " ++
      f.reason.message

/-- The number of bytes that follow a first byte, and the bounds of the second one. -/
def following? (b : Nat) : Option (Nat × Nat × Nat) :=
  if 0xC2 ≤ b ∧ b ≤ 0xDF then some (1, 0x80, 0xBF)
  else if b = 0xE0 then some (2, 0xA0, 0xBF)
  else if b = 0xED then some (2, 0x80, 0x9F)
  else if 0xE1 ≤ b ∧ b ≤ 0xEF then some (2, 0x80, 0xBF)
  else if b = 0xF0 then some (3, 0x90, 0xBF)
  else if 0xF1 ≤ b ∧ b ≤ 0xF3 then some (3, 0x80, 0xBF)
  else if b = 0xF4 then some (3, 0x80, 0x8F)
  else none

/-- The bits that a first byte adds to its character. -/
def firstBits (count b : Nat) : Nat :=
  if count = 1 then b % 0x20 else if count = 2 then b % 0x10 else b % 0x08

/-- So many further bytes of a character, the first of them between `low` and `high`: the code
point and the rest, or the fault and the number of bytes that were right. -/
def tails (code : Nat) : Nat → Nat → Nat → Nat → List Nat → Except (Reason × Nat) (Nat × List Nat)
  | 0, _, _, _, bs => .ok (code, bs)
  | _ + 1, _, _, seen, [] => .error (.endOfData, seen)
  | n + 1, low, high, seen, b :: bs =>
    if low ≤ b ∧ b ≤ high then tails (code * 0x40 + b % 0x40) n 0x80 0xBF (seen + 1) bs
    else .error (.continuationByte, seen)

theorem tails_length {code n low high seen : Nat} {bs rest : List Nat} {c : Nat}
    (h : tails code n low high seen bs = .ok (c, rest)) : rest.length ≤ bs.length := by
  induction n generalizing code low high seen bs with
  | zero => simp [tails] at h; simp [h.2]
  | succ n ih =>
    cases bs with
    | nil => simp [tails] at h
    | cons b bs =>
      simp only [tails] at h
      split at h
      · have := ih h
        simp; omega
      · simp at h

/-- The characters of the bytes from position `at_` on. -/
def decodeFrom (at_ : Nat) (bytes : List Nat) : Except Fault (List Char) :=
  match bytes with
  | [] => .ok []
  | b :: bs =>
    if b < 0x80 then do
      let cs ← decodeFrom (at_ + 1) bs
      return Char.ofNat b :: cs
    else
      match following? b with
      | none => .error ⟨.startByte, at_, 1, b⟩
      | some (count, low, high) =>
        match _h : tails (firstBits count b) count low high 1 bs with
        | .error (reason, seen) => .error ⟨reason, at_, seen, b⟩
        | .ok (code, rest) => do
          let cs ← decodeFrom (at_ + count + 1) rest
          return Char.ofNat code :: cs
termination_by bytes.length
decreasing_by
  · simp
  · have := tails_length (by assumption)
    simp; omega

def decode (bytes : List Nat) : Except Fault String :=
  (decodeFrom 0 bytes).map String.ofList

/-- The bytes of one character. -/
def encodeChar (c : Char) : List Nat :=
  let n := c.toNat
  if n < 0x80 then [n]
  else if n < 0x800 then [0xC0 + n / 0x40, 0x80 + n % 0x40]
  else if n < 0x10000 then [0xE0 + n / 0x1000, 0x80 + n / 0x40 % 0x40, 0x80 + n % 0x40]
  else
    [0xF0 + n / 0x40000, 0x80 + n / 0x1000 % 0x40, 0x80 + n / 0x40 % 0x40, 0x80 + n % 0x40]

def encode (s : String) : List Nat := s.toList.flatMap encodeChar

end Walkthrough.Text.Utf8
