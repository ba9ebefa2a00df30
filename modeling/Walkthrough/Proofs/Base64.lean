import Walkthrough.Proofs.Result
import Walkthrough.Upload.Base64

/-!
Base 64 as it is written: three bytes are four letters, one or two bytes at the end are closed by
padding. Reading takes these texts back to their bytes, whatever of no account is put into them.
-/
namespace Walkthrough.Base64

/-- The alphabet in order. -/
def letters : List Char :=
  "ABCDEFGHIJKLMNOPQRSTUVWXYZabcdefghijklmnopqrstuvwxyz0123456789+/".toList

/-- The letter for six bits. -/
def letter (n : Nat) : Char := letters.getD n '='

/-- The standard text of bytes. -/
def encode : List Nat → List Char
  | [] => []
  | [a] => [letter (a / 4), letter (a % 4 * 16), '=', '=']
  | [a, b] => [letter (a / 4), letter (a % 4 * 16 + b / 16), letter (b % 16 * 4), '=']
  | a :: b :: c :: rest =>
    letter (a / 4) :: letter (a % 4 * 16 + b / 16) :: letter (b % 16 * 4 + c / 64) ::
      letter (c % 64) :: encode rest

/-- Characters of no account: those in ASCII that are neither letters nor padding. -/
def Ignored (c : Char) : Prop := c.toNat < 128 ∧ c ∉ letters ∧ c ≠ '='

/-- A text with characters of no account put in anywhere. -/
inductive Strewn : List Char → List Char → Prop
  | nil : Strewn [] []
  | keep {cs ds : List Char} (c : Char) : Strewn cs ds → Strewn (c :: cs) (c :: ds)
  | put {cs ds : List Char} {c : Char} : Ignored c → Strewn cs ds → Strewn cs (c :: ds)

theorem sixBits?_letter : ∀ n < 64, sixBits? (letter n) = some n := by decide +kernel

theorem letter_ne_padding : ∀ n < 64, letter n ≠ '=' := by decide +kernel

theorem letter_ascii (n : Nat) : (letter n).toNat < 128 := by
  have hall : letters.all (fun c => c.toNat < 128) = true := by decide +kernel
  unfold letter
  rw [List.getD_eq_getElem?_getD]
  cases h : letters[n]? with
  | none => decide
  | some c => simpa using List.all_eq_true.mp hall c (List.mem_of_getElem? h)

/-- In ASCII, what stands for six bits is in the alphabet. -/
theorem sixBits?_of_ignored {c : Char} (h : Ignored c) : sixBits? c = none := by
  have hall : ∀ n < 128, Char.ofNat n ∈ letters ∨ sixBits? (Char.ofNat n) = none := by
    decide +kernel
  obtain ⟨hascii, houtside, -⟩ := h
  rw [← Char.ofNat_toNat c] at houtside ⊢
  exact (hall c.toNat hascii).resolve_left houtside

section Decode

variable {g : Group} {left pads before : Nat} {c : Char} {cs ds rest : List Char} {bytes : List Nat}

theorem decodeFrom_ignored (h : Ignored c) :
    decodeFrom g before (c :: rest) = decodeFrom g before rest := by
  rw [decodeFrom, if_neg h.2.2, sixBits?_of_ignored h]

/-- Characters of no account are read over, wherever they stand. -/
theorem decodeFrom_strewn (h : Strewn cs ds) (g : Group) (before : Nat) :
    decodeFrom g before ds = decodeFrom g before cs := by
  induction h generalizing g before with
  | nil => rfl
  | keep c _ ih => simp only [decodeFrom, ih]
  | put hc _ ih => rw [decodeFrom_ignored hc, ih]

theorem decodeFrom_letter {n : Nat} (h : n < 64) :
    decodeFrom g before (letter n :: rest) = (g.byte? n).elim (decodeFrom (g.push n) before rest)
      fun b => (decodeFrom (g.push n) (before + 1) rest).map (b :: ·) := by
  rw [decodeFrom, if_neg (letter_ne_padding n h)]
  simp only [sixBits?_letter n h]
  cases g.byte? n <;> rfl

/-! Where a letter stands in its group: the first one completes no byte, each other one does. -/

theorem decodeFrom_first {n : Nat} (h : n < 64) :
    decodeFrom {} before (letter n :: rest) = decodeFrom ⟨1, n, 0⟩ before rest :=
  decodeFrom_letter h

theorem decodeFrom_second {n : Nat} (h : n < 64) :
    decodeFrom ⟨1, left, pads⟩ before (letter n :: rest) =
      (decodeFrom ⟨2, n % 16, 0⟩ (before + 1) rest).map ((left * 4 + n / 16) :: ·) :=
  decodeFrom_letter h

theorem decodeFrom_third {n : Nat} (h : n < 64) :
    decodeFrom ⟨2, left, pads⟩ before (letter n :: rest) =
      (decodeFrom ⟨3, n % 4, 0⟩ (before + 1) rest).map ((left * 16 + n / 4) :: ·) :=
  decodeFrom_letter h

theorem decodeFrom_fourth {n : Nat} (h : n < 64) :
    decodeFrom ⟨3, left, pads⟩ before (letter n :: rest) =
      (decodeFrom {} (before + 1) rest).map ((left * 64 + n) :: ·) :=
  decodeFrom_letter h

/-- What is written is read back. -/
theorem decodeFrom_encode (h : ∀ b ∈ bytes, b < 256) (before : Nat) :
    decodeFrom {} before (encode bytes) = .ok bytes := by
  -- a whole group at a time
  induction bytes using encode.induct generalizing before with
  | case1 => rfl
  | case2 a =>
    have ha : a < 256 := h a (by simp)
    rw [encode, decodeFrom_first (by omega), decodeFrom_second (by omega)]
    have hbyte : a / 4 * 4 + a % 4 * 16 / 16 = a := by omega
    rw [hbyte]
    rfl
  | case3 a b =>
    have ha : a < 256 := h a (by simp)
    have hb : b < 256 := h b (by simp)
    rw [encode, decodeFrom_first (by omega), decodeFrom_second (by omega),
      decodeFrom_third (by omega)]
    have hfirst : a / 4 * 4 + (a % 4 * 16 + b / 16) / 16 = a := by omega
    have hsecond : (a % 4 * 16 + b / 16) % 16 * 16 + b % 16 * 4 / 4 = b := by omega
    rw [hfirst, hsecond]
    rfl
  | case4 a b c rest ih =>
    have ha : a < 256 := h a (by simp)
    have hb : b < 256 := h b (by simp)
    have hc : c < 256 := h c (by simp)
    rw [encode, decodeFrom_first (by omega), decodeFrom_second (by omega),
      decodeFrom_third (by omega), decodeFrom_fourth (by omega),
      ih (fun x hx => h x (by simp [hx]))]
    have hfirst : a / 4 * 4 + (a % 4 * 16 + b / 16) / 16 = a := by omega
    have hsecond : (a % 4 * 16 + b / 16) % 16 * 16 + (b % 16 * 4 + c / 64) / 4 = b := by omega
    have hthird : (b % 16 * 4 + c / 64) % 4 * 64 + c % 64 = c := by omega
    rw [hfirst, hsecond, hthird]
    rfl

end Decode

theorem encode_ascii (bytes : List Nat) : ∀ c ∈ encode bytes, c.toNat < 128 := by
  induction bytes using encode.induct with
  | case1 => simp [encode]
  | case2 a => simp [encode, letter_ascii]
  | case3 a b => simp [encode, letter_ascii]
  | case4 a b c rest ih => simpa [encode, letter_ascii] using ih

theorem Strewn.ascii {cs ds : List Char} (h : Strewn cs ds) (hcs : ∀ c ∈ cs, c.toNat < 128) :
    ∀ d ∈ ds, d.toNat < 128 := by
  induction h with
  | nil => exact hcs
  | keep c _ ih =>
    obtain ⟨hc, hrest⟩ := List.forall_mem_cons.mp hcs
    exact List.forall_mem_cons.mpr ⟨hc, ih hrest⟩
  | put hc _ ih => exact List.forall_mem_cons.mpr ⟨hc.1, ih hcs⟩

/-- The text of bytes is read as these bytes, whatever of no account is put into it. -/
theorem decode_strewn {bytes : List Nat} {text : String} (hbytes : ∀ b ∈ bytes, b < 256)
    (htext : Strewn (encode bytes) text.toList) : decode text = .ok bytes := by
  have hascii := htext.ascii (encode_ascii bytes)
  rw [decode, if_pos (by simpa using hascii), decodeFrom_strewn htext, decodeFrom_encode hbytes]

end Walkthrough.Base64
