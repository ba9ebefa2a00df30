/-! Bytes written in base 64. -/
namespace Walkthrough.Base64

/-- Why a text cannot be read. -/
inductive Fault where
  | notAscii
  | padding
  | lonely (count : Nat)
  deriving DecidableEq, Repr

def Fault.message : Fault → String
  | notAscii => "string argument should contain only ASCII characters"
  | padding => "Incorrect padding"
  | lonely count =>
    s!"Invalid base64-encoded string: number of data characters ({count}) " ++
      "cannot be 1 more than a multiple of 4"

/-- The six bits that a character of the alphabet stands for. -/
def sixBits? (c : Char) : Option Nat :=
  let n := c.toNat
  if 'A' ≤ c ∧ c ≤ 'Z' then some (n - 65)
  else if 'a' ≤ c ∧ c ≤ 'z' then some (n - 71)
  else if '0' ≤ c ∧ c ≤ '9' then some (n + 4)
  else if c = '+' then some 62
  else if c = '/' then some 63
  else none

/-- How far a group of four characters has been read: how many there are, the bits that belong to
the next byte, and the padding since the last of them. -/
structure Group where
  count : Nat := 0
  left : Nat := 0
  pads : Nat := 0
  deriving DecidableEq, Repr, Inhabited

/-- The byte that six more bits complete, if they do. -/
def Group.byte? (g : Group) (bits : Nat) : Option Nat :=
  match g.count with
  | 1 => some (g.left * 4 + bits / 16)
  | 2 => some (g.left * 16 + bits / 4)
  | 3 => some (g.left * 64 + bits)
  | _ => none

/-- The group after six more bits. -/
def Group.push (g : Group) (bits : Nat) : Group :=
  match g.count with
  | 0 => ⟨1, bits, 0⟩
  | 1 => ⟨2, bits % 16, 0⟩
  | 2 => ⟨3, bits % 4, 0⟩
  | _ => ⟨0, 0, 0⟩

/-- Reads characters up to the padding that closes a group. Characters outside the alphabet, and
padding where none can be, do not count. `before` is the number of bytes read so far. -/
def decodeFrom (g : Group) (before : Nat) : List Char → Except Fault (List Nat)
  | [] =>
    if g.count = 0 then .ok []
    else if g.count = 1 then .error (.lonely (before / 3 * 4 + 1))
    else .error .padding
  | c :: rest =>
    if c = '=' then
      if 2 ≤ g.count then
        if 4 ≤ g.count + g.pads + 1 then .ok []
        else decodeFrom { g with pads := g.pads + 1 } before rest
      else decodeFrom g before rest
    else
      match sixBits? c with
      | none => decodeFrom g before rest
      | some bits =>
        match g.byte? bits with
        | some b => (decodeFrom (g.push bits) (before + 1) rest).map (b :: ·)
        | none => decodeFrom (g.push bits) before rest

def decode (s : String) : Except Fault (List Nat) :=
  if s.toList.all fun c => c.toNat < 128 then decodeFrom {} 0 s.toList else .error .notAscii

end Walkthrough.Base64
