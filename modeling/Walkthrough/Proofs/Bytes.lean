import Walkthrough.Proofs.Result
import Walkthrough.Text.Utf8

/-!
Texts as bytes: the bytes that are read as a text are those that the text is written in, and bytes
that end inside of a character are none of any text.
-/
namespace Walkthrough.Text.Utf8

/-- Bytes behind the first one of a character: the first of them between two bounds, all others
between the usual ones. -/
def Fits (low high : Nat) : List Nat → Prop
  | [] => True
  | b :: bs => low ≤ b ∧ b ≤ high ∧ Fits 0x80 0xBF bs

/-- The code point that further bytes make of the bits before them. -/
def codeOf (code : Nat) (bs : List Nat) : Nat := bs.foldl (fun n b => n * 0x40 + b % 0x40) code

section Tails

variable {low high : Nat} {t : List Nat}

theorem tails_append (h : Fits low high t) (code seen : Nat) (rest : List Nat) :
    tails code t.length low high seen (t ++ rest) = .ok (codeOf code t, rest) := by
  induction t generalizing code low high seen with
  | nil => rfl
  | cons b bs ih =>
    obtain ⟨hlow, hhigh, hbs⟩ := h
    rw [List.length_cons, List.cons_append, tails, if_pos ⟨hlow, hhigh⟩, ih hbs]
    rfl

theorem of_tails {code n seen code' : Nat} {bs rest : List Nat}
    (h : tails code n low high seen bs = .ok (code', rest)) :
    ∃ t, bs = t ++ rest ∧ t.length = n ∧ Fits low high t ∧ code' = codeOf code t := by
  induction n generalizing code low high seen bs with
  | zero =>
    cases h
    exact ⟨[], rfl, rfl, trivial, rfl⟩
  | succ n ih =>
    cases bs with
    | nil => cases h
    | cons b bs =>
      rw [tails] at h
      split at h
      · rename_i hb
        obtain ⟨t, rfl, rfl, ht, rfl⟩ := ih h
        exact ⟨b :: t, rfl, rfl, ⟨hb.1, hb.2, ht⟩, rfl⟩
      · cases h

end Tails

/-- The bytes of one character beyond ASCII: a first byte that announces the others, which fit and
make the character's code point. -/
structure Spells (c : Char) (b : Nat) (t : List Nat) : Prop where
  wide : 0x80 ≤ b
  fits : ∃ low high, following? b = some (t.length, low, high) ∧ Fits low high t
  code : codeOf (firstBits t.length b) t = c.toNat

section Following

variable {b count low high : Nat}

theorem following?_two (h : 0xC2 ≤ b ∧ b ≤ 0xDF) : following? b = some (1, 0x80, 0xBF) :=
  if_pos h

/-- The bounds that a first byte of three sets to the second one. -/
theorem following?_three (h : 0xE0 ≤ b ∧ b ≤ 0xEF) : following? b =
    some (2, if b = 0xE0 then 0xA0 else 0x80, if b = 0xED then 0x9F else 0xBF) := by
  unfold following?
  rw [if_neg (by omega)]
  by_cases h0 : b = 0xE0
  · rw [if_pos h0, if_pos h0, if_neg (by omega)]
  · rw [if_neg h0, if_neg h0]
    by_cases hd : b = 0xED
    · rw [if_pos hd, if_pos hd]
    · rw [if_neg hd, if_neg hd, if_pos (by omega)]

/-- The bounds that a first byte of four sets to the second one. -/
theorem following?_four (h : 0xF0 ≤ b ∧ b ≤ 0xF4) : following? b =
    some (3, if b = 0xF0 then 0x90 else 0x80, if b = 0xF4 then 0x8F else 0xBF) := by
  unfold following?
  rw [if_neg (by omega), if_neg (by omega), if_neg (by omega), if_neg (by omega)]
  by_cases h0 : b = 0xF0
  · rw [if_pos h0, if_pos h0, if_neg (by omega)]
  · rw [if_neg h0, if_neg h0]
    by_cases h4 : b = 0xF4
    · rw [if_neg (by omega), if_pos h4, if_pos h4]
    · rw [if_pos (by omega), if_neg h4]

theorem following?_cases (h : following? b = some (count, low, high)) :
    (0xC2 ≤ b ∧ b ≤ 0xDF) ∨ (0xE0 ≤ b ∧ b ≤ 0xEF) ∨ (0xF0 ≤ b ∧ b ≤ 0xF4) := by
  unfold following? at h
  repeat' split at h
  all_goals first | omega | cases h

end Following

theorem encodeChar_narrow {c : Char} (h : c.toNat < 0x80) : encodeChar c = [c.toNat] := if_pos h

/-- A character beyond ASCII is written as bytes that spell it. -/
theorem encodeChar_spells {c : Char} (h : 0x80 ≤ c.toNat) :
    ∃ b t, encodeChar c = b :: t ∧ Spells c b t := by
  have hvalid : c.toNat < 0xD800 ∨ 0xDFFF < c.toNat ∧ c.toNat < 0x110000 := c.valid
  unfold encodeChar
  dsimp only
  rw [if_neg (by omega)]
  by_cases htwo : c.toNat < 0x800
  · rw [if_pos htwo]
    refine ⟨_, _, rfl, by omega, ⟨_, _, following?_two (by omega), ?_⟩, ?_⟩
    · exact ⟨by omega, by omega, trivial⟩
    · simp [codeOf, firstBits]
      omega
  rw [if_neg htwo]
  by_cases hthree : c.toNat < 0x10000
  · rw [if_pos hthree]
    refine ⟨_, _, rfl, by omega, ⟨_, _, following?_three (by omega), ?_⟩, ?_⟩
    · refine ⟨?_, ?_, by omega, by omega, trivial⟩
      · split <;> omega
      · split <;> omega
    · simp [codeOf, firstBits]
      omega
  rw [if_neg hthree]
  refine ⟨_, _, rfl, by omega, ⟨_, _, following?_four (by omega), ?_⟩, ?_⟩
  · refine ⟨?_, ?_, by omega, by omega, by omega, by omega, trivial⟩
    · split <;> omega
    · split <;> omega
  · simp [codeOf, firstBits]
    omega

theorem toNat_ofNat {n : Nat} (h : n < 0xD800 ∨ 0xDFFF < n ∧ n < 0x110000) :
    (Char.ofNat n).toNat = n := by
  have hvalid : n.isValidChar := h
  rw [Char.ofNat, dif_pos hvalid]
  rfl

/-- Bytes that fit a first byte are those of a character. -/
theorem encodeChar_of_fits {b low high : Nat} {t : List Nat}
    (h : following? b = some (t.length, low, high)) (ht : Fits low high t) :
    encodeChar (Char.ofNat (codeOf (firstBits t.length b) t)) = b :: t := by
  rcases following?_cases h with hb | hb | hb
  · rw [following?_two hb] at h
    simp only [Option.some.injEq, Prod.mk.injEq] at h
    obtain ⟨hlength, rfl, rfl⟩ := h
    obtain ⟨x, rfl⟩ := List.length_eq_one_iff.mp hlength.symm
    obtain ⟨hx, hx', -⟩ := ht
    have hcode : codeOf (firstBits 1 b) [x] = b % 0x20 * 0x40 + x % 0x40 := rfl
    rw [List.length_singleton, hcode, encodeChar, toNat_ofNat (by omega),
      if_neg (by omega), if_pos (by omega)]
    simp only [List.cons.injEq, and_true]
    omega
  · rw [following?_three hb] at h
    simp only [Option.some.injEq, Prod.mk.injEq] at h
    obtain ⟨hlength, hlow, hhigh⟩ := h
    obtain ⟨x, y, rfl⟩ := List.length_eq_two.mp hlength.symm
    obtain ⟨hx, hx', hy, hy', -⟩ := ht
    obtain ⟨n, hn⟩ : ∃ n, n = (b % 0x10 * 0x40 + x % 0x40) * 0x40 + y % 0x40 := ⟨_, rfl⟩
    have hcode : codeOf (firstBits 2 b) [x, y] = n := hn.symm
    -- the bounds of the second byte leave out short characters, and halves of pairs
    have hvalid : 0x800 ≤ n ∧ (n < 0xD800 ∨ 0xDFFF < n ∧ n < 0x10000) := by
      split at hlow <;> split at hhigh <;> omega
    have hsecond : 0x80 ≤ x ∧ x ≤ 0xBF := by
      split at hlow <;> split at hhigh <;> omega
    rw [List.length_cons, List.length_singleton, hcode, encodeChar, toNat_ofNat (by omega),
      if_neg (by omega), if_neg (by omega), if_pos (by omega)]
    simp only [List.cons.injEq, and_true]
    omega
  · rw [following?_four hb] at h
    simp only [Option.some.injEq, Prod.mk.injEq] at h
    obtain ⟨hlength, hlow, hhigh⟩ := h
    obtain ⟨x, y, z, rfl⟩ := List.length_eq_three.mp hlength.symm
    obtain ⟨hx, hx', hy, hy', hz, hz', -⟩ := ht
    obtain ⟨n, hn⟩ : ∃ n, n =
        ((b % 0x08 * 0x40 + x % 0x40) * 0x40 + y % 0x40) * 0x40 + z % 0x40 := ⟨_, rfl⟩
    have hcode : codeOf (firstBits 3 b) [x, y, z] = n := hn.symm
    have hvalid : 0x10000 ≤ n ∧ n < 0x110000 := by
      split at hlow <;> split at hhigh <;> omega
    have hsecond : 0x80 ≤ x ∧ x ≤ 0xBF := by
      split at hlow <;> split at hhigh <;> omega
    rw [List.length_cons, List.length_cons, List.length_singleton, hcode, encodeChar,
      toNat_ofNat (by omega), if_neg (by omega), if_neg (by omega), if_neg (by omega)]
    simp only [List.cons.injEq, and_true]
    omega

/-! Whole texts. -/

section Decode

variable {c : Char} {bytes rest : List Nat}

theorem decodeFrom_narrow {b : Nat} (hb : b < 0x80) (at_ : Nat) :
    decodeFrom at_ (b :: rest) = (decodeFrom (at_ + 1) rest).map (Char.ofNat b :: ·) := by
  rw [decodeFrom, if_pos hb]
  rfl

theorem decodeFrom_wide {b low high : Nat} {t : List Nat} (hb : 0x80 ≤ b)
    (hfollowing : following? b = some (t.length, low, high)) (ht : Fits low high t) (at_ : Nat) :
    decodeFrom at_ (b :: (t ++ rest)) = (decodeFrom (at_ + t.length + 1) rest).map
      (Char.ofNat (codeOf (firstBits t.length b) t) :: ·) := by
  rw [decodeFrom, if_neg (by omega), hfollowing]
  dsimp only
  rw [tails_append ht]
  rfl

/-- A character in front is read, and the rest behind it. -/
theorem decodeFrom_encodeChar (c : Char) (at_ : Nat) (rest : List Nat) :
    decodeFrom at_ (encodeChar c ++ rest) =
      (decodeFrom (at_ + (encodeChar c).length) rest).map (c :: ·) := by
  by_cases hc : c.toNat < 0x80
  · rw [encodeChar_narrow hc, List.singleton_append, decodeFrom_narrow hc, Char.ofNat_toNat]
    rfl
  · obtain ⟨b, t, hbytes, hspells⟩ := encodeChar_spells (Nat.le_of_not_lt hc)
    obtain ⟨low, high, hfollowing, hfits⟩ := hspells.fits
    rw [hbytes, List.cons_append, decodeFrom_wide hspells.wide hfollowing hfits, hspells.code,
      Char.ofNat_toNat]
    rfl

theorem decodeFrom_flatMap (cs : List Char) (at_ : Nat) (rest : List Nat) :
    decodeFrom at_ (cs.flatMap encodeChar ++ rest) =
      (decodeFrom (at_ + (cs.flatMap encodeChar).length) rest).map (cs ++ ·) := by
  induction cs generalizing at_ with
  | nil =>
    rw [List.flatMap_nil, List.nil_append, List.length_nil, Nat.add_zero]
    cases decodeFrom at_ rest <;> rfl
  | cons c cs ih =>
    rw [List.flatMap_cons, List.append_assoc, decodeFrom_encodeChar, ih, List.length_append,
      Nat.add_assoc]
    cases decodeFrom (at_ + ((encodeChar c).length + (cs.flatMap encodeChar).length)) rest <;> rfl

/-- Only the bytes of characters are read as these characters. -/
theorem eq_of_decodeFrom {at_ : Nat} {cs : List Char} (h : decodeFrom at_ bytes = .ok cs) :
    bytes = cs.flatMap encodeChar := by
  -- on the bytes, a whole character at a time
  fun_induction decodeFrom at_ bytes generalizing cs with
  | case1 =>
    cases h
    rfl
  | case2 at_ b bs hb ih =>
    obtain ⟨more, hrest, h⟩ := except_bind_eq_ok.mp h
    cases h
    have hn : (Char.ofNat b).toNat = b := toNat_ofNat (by omega)
    rw [List.flatMap_cons, encodeChar_narrow (by omega), hn, List.singleton_append, ih hrest]
  | case3 => cases h
  | case4 => cases h
  | case5 at_ b bs hb count low high hfollowing code rest htails ih =>
    obtain ⟨t, rfl, rfl, hfits, rfl⟩ := of_tails htails
    obtain ⟨more, hrest, h⟩ := except_bind_eq_ok.mp h
    cases h
    rw [List.flatMap_cons, encodeChar_of_fits hfollowing hfits, ih hrest, List.cons_append]

theorem decodeFrom_encode (s : String) : decodeFrom 0 (encode s) = .ok s.toList := by
  have hall := decodeFrom_flatMap s.toList 0 []
  rw [List.append_nil, decodeFrom] at hall
  rw [encode, hall]
  simp [Except.map]

/-- Bytes are read as a text just where they are the bytes of that text. -/
theorem decode_eq_ok {s : String} : decode bytes = .ok s ↔ bytes = encode s := by
  constructor
  · intro h
    obtain ⟨cs, hcs, rfl⟩ := except_map_eq_ok.mp h
    rw [encode, String.toList_ofList]
    exact eq_of_decodeFrom hcs
  · rintro rfl
    rw [decode, decodeFrom_encode]
    exact congrArg Except.ok String.ofList_toList

/-- A text whose bytes come first among those of another one is a beginning of it. -/
theorem encode_beginning {s t : String} (h : encode s ++ rest = encode t) : s.toList <+: t.toList := by
  have hall := decodeFrom_encode t
  rw [← h, encode, decodeFrom_flatMap] at hall
  obtain ⟨more, -, hmore⟩ := except_map_eq_ok.mp hall
  exact ⟨more, hmore⟩

end Decode

end Walkthrough.Text.Utf8
