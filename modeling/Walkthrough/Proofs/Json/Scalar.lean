import Walkthrough.Json.Printer
import Walkthrough.Json.Reader

/-! Texts and whole numbers are read as they were written. -/
namespace Walkthrough.Json

/-- A check of each of some characters. -/
theorem forall_mem_of_all {p : Char → Prop} [DecidablePred p] {cs : List Char}
    (h : cs.all (fun c => decide (p c)) = true) : ∀ c ∈ cs, p c := by
  simpa using h

/-! Escapes. -/

theorem hexValue?_hexDigit : ∀ d < 16, hexValue? (Text.hexDigit d) = some d := by decide

theorem hex_four (n : Nat) :
    Text.hex 4 n = [Text.hexDigit (n / 16 / 16 / 16 % 16), Text.hexDigit (n / 16 / 16 % 16),
      Text.hexDigit (n / 16 % 16), Text.hexDigit (n % 16)] := by
  simp [Text.hex]

theorem codeUnit?_hex {n : Nat} (h : n < 0x10000) (x : Char) (rest : List Char) :
    codeUnit? (Text.hex 4 n ++ x :: rest) = some (n, x :: rest) := by
  rw [hex_four]
  simp only [List.cons_append, List.nil_append, codeUnit?]
  rw [hexValue?_hexDigit _ (by omega), hexValue?_hexDigit _ (by omega),
    hexValue?_hexDigit _ (by omega), hexValue?_hexDigit _ (by omega)]
  simp only [Option.bind_eq_bind, Option.bind_some, Option.pure_def, Option.some.injEq,
    Prod.mk.injEq, and_true]
  omega

theorem readUnits_hex {n : Nat} (h : n < 0x10000) (hn : isHighUnit n = false) (x : Char)
    (rest : List Char) : readUnits (Text.hex 4 n ++ x :: rest) = .ok (unitChar n, x :: rest) := by
  unfold readUnits
  rw [codeUnit?_hex h]
  dsimp only
  split
  · rw [hn]
    rfl
  · rfl

theorem readUnits_pair {high low : Nat} (hh : 0xD800 ≤ high ∧ high < 0xDC00)
    (hl : 0xDC00 ≤ low ∧ low < 0xE000) (x : Char) (rest : List Char) :
    readUnits (Text.hex 4 high ++ '\\' :: 'u' :: (Text.hex 4 low ++ x :: rest)) =
      .ok (pairChar high low, x :: rest) := by
  have hhigh : isHighUnit high = true := by simp [isHighUnit, hh]
  have hlow : isLowUnit low = true := by simp [isLowUnit, hl]
  have hlength : 4 < (Text.hex 4 low ++ x :: rest).length := by simp [hex_four]
  unfold readUnits
  rw [codeUnit?_hex (by omega)]
  simp only [hhigh, hlength, decide_true, Bool.and_self, if_true]
  rw [codeUnit?_hex (by omega)]
  simp only [hlow, if_true]

/-- No character is half of a pair. -/
theorem unitChar_toNat (c : Char) : isHighUnit c.toNat = false ∧ unitChar c.toNat = c := by
  have hvalid : c.toNat < 0xD800 ∨ 0xDFFF < c.toNat ∧ c.toNat < 0x110000 := c.valid
  have hhigh : isHighUnit c.toNat = false := by
    simp only [isHighUnit, Bool.and_eq_false_iff, decide_eq_false_iff_not]
    omega
  have hlow : isLowUnit c.toNat = false := by
    simp only [isLowUnit, Bool.and_eq_false_iff, decide_eq_false_iff_not]
    omega
  refine ⟨hhigh, ?_⟩
  simp only [unitChar, hhigh, hlow, Bool.or_self, Bool.false_eq_true, if_false]
  exact Char.ofNat_toNat c

theorem readString_unitEscape {c : Char} (h : c.toNat < 0x10000) (start fuel : Nat)
    (before : List Char) (x : Char) (rest : List Char) :
    readString start (fuel + 1) before (unitEscape c.toNat ++ x :: rest) =
      readString start fuel (c :: before) (x :: rest) := by
  obtain ⟨hhigh, hchar⟩ := unitChar_toNat c
  simp only [unitEscape, List.cons_append, readString]
  rw [readUnits_hex h hhigh, hchar]
  rfl

theorem readString_wideEscape (c : Char) (start fuel : Nat) (before : List Char) (x : Char)
    (rest : List Char) :
    readString start (fuel + 1) before (wideEscape c ++ x :: rest) =
      readString start fuel (c :: before) (x :: rest) := by
  unfold wideEscape
  dsimp only
  split
  · rename_i h
    exact readString_unitEscape h start fuel before x rest
  · have hlt : c.toNat < 0x110000 := by
      have hvalid : c.toNat < 0xD800 ∨ 0xDFFF < c.toNat ∧ c.toNat < 0x110000 := c.valid
      omega
    have hchar : pairChar (0xD800 + (c.toNat - 0x10000) / 0x400)
        (0xDC00 + (c.toNat - 0x10000) % 0x400) = c := by
      have hn : 0x10000 + (0xD800 + (c.toNat - 0x10000) / 0x400 - 0xD800) * 0x400 +
          (0xDC00 + (c.toNat - 0x10000) % 0x400 - 0xDC00) = c.toNat := by omega
      rw [pairChar, hn]
      exact Char.ofNat_toNat c
    simp only [unitEscape, List.cons_append, List.append_assoc, readString]
    rw [readUnits_pair (by omega) (by omega), hchar]
    rfl

/-- A written character is read as itself. -/
theorem readString_stringChar (ascii : Bool) (c : Char) (start fuel : Nat) (before : List Char)
    (x : Char) (rest : List Char) :
    readString start (fuel + 1) before (stringChar ascii c ++ x :: rest) =
      readString start fuel (c :: before) (x :: rest) := by
  unfold stringChar
  -- first the characters that have a letter of their own
  iterate 7
    split
    · subst_vars
      simp [readString, escapeChar?]
  split
  · exact readString_unitEscape (by omega) start fuel before x rest
  split
  · exact readString_wideEscape c start fuel before x rest
  · rename_i hquote hback _ _ _ _ _ hlow _
    simp only [List.cons_append, List.nil_append, readString]
    rw [if_neg hquote, if_neg hback, if_neg hlow]

theorem readString_stringChars (ascii : Bool) (cs : List Char) {start fuel : Nat}
    (h : cs.length < fuel) (before rest : List Char) :
    readString start fuel before (cs.flatMap (stringChar ascii) ++ '"' :: rest) =
      .ok (String.ofList (before.reverse ++ cs), rest) := by
  induction cs generalizing fuel before with
  | nil =>
    obtain ⟨fuel, rfl⟩ := Nat.exists_eq_succ_of_ne_zero (Nat.ne_of_gt h)
    simp [readString]
  | cons c cs ih =>
    obtain ⟨fuel, rfl⟩ := Nat.exists_eq_succ_of_ne_zero (Nat.ne_of_gt (Nat.zero_lt_of_lt h))
    obtain ⟨x, more, hmore⟩ : ∃ x more,
        cs.flatMap (stringChar ascii) ++ '"' :: rest = x :: more := by
      cases cs.flatMap (stringChar ascii) with
      | nil => exact ⟨'"', rest, rfl⟩
      | cons x more => exact ⟨x, more ++ '"' :: rest, rfl⟩
    rw [List.flatMap_cons, List.append_assoc, hmore, readString_stringChar, ← hmore,
      ih (Nat.lt_of_succ_lt_succ h)]
    simp

theorem stringChar_ne_nil (ascii : Bool) (c : Char) : stringChar ascii c ≠ [] := by
  unfold stringChar wideEscape unitEscape
  dsimp only
  repeat' split
  all_goals simp

theorem length_le_stringChars (ascii : Bool) (cs : List Char) :
    cs.length ≤ (cs.flatMap (stringChar ascii)).length := by
  induction cs with
  | nil => simp
  | cons c cs ih =>
    have hc := List.length_pos_iff.mpr (stringChar_ne_nil ascii c)
    simp only [List.flatMap_cons, List.length_append, List.length_cons]
    omega

/-- A written text is read as itself. -/
theorem readText_stringChars (ascii : Bool) (t : String) (rest : List Char) :
    readText (t.toList.flatMap (stringChar ascii) ++ '"' :: rest) = .ok (t, rest) := by
  have hlength := length_le_stringChars ascii t.toList
  unfold readText
  rw [readString_stringChars ascii _ (by simp only [List.length_append]; omega)]
  simp

/-! Whole numbers. -/

/-- What stands behind a value: nothing, or what separates it from the next one or closes. -/
def Closes (rest : List Char) : Prop := ∀ c ∈ rest.head?, c = ',' ∨ c = ']' ∨ c = '}'

theorem digitsValue_toDigits (n : Nat) : digitsValue (Nat.toDigits 10 n) = n := by
  conv => rhs; rw [← Nat.ofDigitChars_ten_toDigits (n := n), Nat.ofDigitChars_eq_foldl]
  unfold digitsValue
  congr 1
  funext sofar c
  rw [Nat.mul_comm]
  rfl

theorem head?_toDigits {n : Nat} (h : 0 < n) : (Nat.toDigits 10 n).head? ≠ some '0' := by
  induction n using Nat.base_induction 10 (by decide) with
  | single m hm =>
    have hdigit : ∀ m < 10, 0 < m → m.digitChar ≠ '0' := by decide
    simpa [Nat.toDigits_of_lt_base hm] using hdigit m hm h
  | digit m k hk hm ih =>
    rw [← Nat.toDigits_append_toDigits (by decide) hm hk]
    cases hds : Nat.toDigits 10 m with
    | nil => exact absurd hds Nat.toDigits_ne_nil
    | cons d ds =>
      rw [hds] at ih
      exact ih hm

theorem isDigit_of_mem {n : Nat} : ∀ c ∈ Nat.toDigits 10 n, isDigit c = true := by
  intro c hc
  exact Nat.isDigit_of_mem_toDigits (by decide) (by decide) hc

theorem span_digits {ds rest : List Char} (hds : ∀ c ∈ ds, isDigit c = true)
    (hrest : ∀ c ∈ rest.head?, isDigit c = false) :
    (ds ++ rest).takeWhile isDigit = ds ∧ (ds ++ rest).dropWhile isDigit = rest := by
  have htake : rest.takeWhile isDigit = [] := by
    cases rest with
    | nil => rfl
    | cons c rest => simp [hrest c rfl]
  have hdrop : rest.dropWhile isDigit = rest := by
    cases rest with
    | nil => rfl
    | cons c rest => simp [hrest c rfl]
  rw [List.takeWhile_append_of_pos hds, List.dropWhile_append_of_pos hds, htake, hdrop]
  simp

theorem Closes.not_digit {rest : List Char} (h : Closes rest) :
    ∀ c ∈ rest.head?, isDigit c = false := by
  intro c hc
  rcases h c hc with rfl | rfl | rfl <;> decide

theorem wholeDigits?_toDigits (n : Nat) {rest : List Char} (h : Closes rest) :
    wholeDigits? (Nat.toDigits 10 n ++ rest) = some (Nat.toDigits 10 n, rest) := by
  rcases Nat.eq_zero_or_pos n with rfl | hn
  · rfl
  · obtain ⟨htake, hdrop⟩ := span_digits (isDigit_of_mem (n := n)) h.not_digit
    have hhead := head?_toDigits hn
    cases hds : Nat.toDigits 10 n with
    | nil => exact absurd hds Nat.toDigits_ne_nil
    | cons d ds =>
      rw [hds] at htake hdrop hhead
      have hd : d ≠ '0' := by simpa using hhead
      unfold wholeDigits?
      split
      · rename_i more heq
        simp only [List.cons_append, List.cons.injEq] at heq
        exact absurd heq.1 hd
      · rw [htake, hdrop]

/-- The number of digits of a whole number that is too long to be read. -/
def tooLongInt? (n : Int) : Option Nat :=
  let digits := (Nat.toDigits 10 n.natAbs).length
  if Number.maxDigits < digits then some digits else none

theorem readMagnitude_toDigits (negative : Bool) (n : Nat) {rest : List Char} (h : Closes rest) :
    readMagnitude negative (Nat.toDigits 10 n) rest =
      match tooLongInt? n with
      | some digits => .error (.hugeInteger digits)
      | none => .ok (.int (if negative then -(n : Int) else n), rest) := by
  have hfraction : fractionDigits? rest = none := by
    unfold fractionDigits?
    split
    · rename_i more
      rcases h '.' rfl with h | h | h <;> cases h
    · rfl
  have hexponent : exponent? rest = none := by
    unfold exponent?
    split
    · rename_i c more
      have hc : ¬ (c = 'e' ∨ c = 'E') := by
        rcases h c rfl with rfl | rfl | rfl <;> decide
      rw [if_neg hc]
    · rfl
  unfold readMagnitude tooLongInt?
  simp only [hfraction, hexponent, Option.map_none, Option.getD_none, Option.isNone_none,
    Bool.and_self, if_true, Int.natAbs_natCast, digitsValue_toDigits]
  split <;> rfl

theorem readNumber_negative {digits whole rest : List Char}
    (h : wholeDigits? digits = some (whole, rest)) :
    readNumber ('-' :: digits) = readMagnitude true whole rest := by
  unfold readNumber
  simp only [h]

theorem readNumber_positive {digits whole rest : List Char} (hhead : digits.head? ≠ some '-')
    (h : wholeDigits? digits = some (whole, rest)) :
    readNumber digits = readMagnitude false whole rest := by
  cases digits with
  | nil => simp [wholeDigits?] at h
  | cons d ds =>
    have hd : d ≠ '-' := by simpa using hhead
    unfold readNumber
    split
    rename_i negative digits hsign
    split at hsign
    · rename_i heq
      exact absurd (List.cons.inj heq).1 hd
    · cases hsign
      simp only [h]

/-- What starts with a digit, or with a minus sign and a digit, is no word. -/
theorem readScalar_number {c : Char} (cs : List Char) (hc : isDigit c = true) :
    readScalar (c :: cs) = readNumber (c :: cs) ∧
      readScalar ('-' :: c :: cs) = readNumber ('-' :: c :: cs) := by
  constructor
  · unfold readScalar
    split <;> simp_all [isDigit]
  · unfold readScalar
    split <;> simp_all [isDigit]

theorem intChars_natCast (n : Nat) : intChars (n : Int) = Nat.toDigits 10 n :=
  Nat.toList_repr

theorem intChars_negSucc (n : Nat) : intChars (Int.negSucc n) = '-' :: Nat.toDigits 10 (n + 1) := by
  show ("-" ++ Nat.repr (n + 1)).toList = _
  simp

theorem toDigits_cons (n : Nat) :
    ∃ d ds, Nat.toDigits 10 n = d :: ds ∧ isDigit d = true := by
  cases hds : Nat.toDigits 10 n with
  | nil => exact absurd hds Nat.toDigits_ne_nil
  | cons d ds => exact ⟨d, ds, rfl, isDigit_of_mem d (by rw [hds]; exact List.mem_cons_self)⟩

/-- Characters that no word and no number starts with. -/
def otherStarts : List Char := ['"', '[', ']', '{', ' ', '\t', '\n', '\r', '\uFEFF']

theorem intChars_cons (n : Int) : ∃ c cs, intChars n = c :: cs ∧ c ∉ otherStarts := by
  have hother : ∀ c ∈ otherStarts, isDigit c = false ∧ c ≠ '-' := forall_mem_of_all (by decide)
  cases n with
  | ofNat n =>
    obtain ⟨d, ds, hds, hd⟩ := toDigits_cons n
    refine ⟨d, ds, (intChars_natCast n).trans hds, fun hmem => ?_⟩
    rw [(hother d hmem).1] at hd
    cases hd
  | negSucc n => exact ⟨_, _, intChars_negSucc n, fun hmem => (hother _ hmem).2 rfl⟩

/-- A written whole number is read as itself, unless it is too long. -/
theorem readScalar_intChars (n : Int) {rest : List Char} (h : Closes rest) :
    readScalar (intChars n ++ rest) =
      match tooLongInt? n with
      | some digits => .error (.hugeInteger digits)
      | none => .ok (.int n, rest) := by
  cases n with
  | ofNat n =>
    have hwhole := wholeDigits?_toDigits n h
    have hread := readMagnitude_toDigits false n h
    obtain ⟨d, ds, hds, hd⟩ := toDigits_cons n
    rw [Int.ofNat_eq_natCast, intChars_natCast]
    rw [hds] at hwhole hread ⊢
    have hhead : (d :: ds ++ rest).head? ≠ some '-' := by
      rintro hd'
      cases hd'
      exact absurd hd (by decide)
    rw [List.cons_append, (readScalar_number (ds ++ rest) hd).1, ← List.cons_append,
      readNumber_positive hhead hwhole, hread]
    rfl
  | negSucc n =>
    have hwhole := wholeDigits?_toDigits (n + 1) h
    have hread := readMagnitude_toDigits true (n + 1) h
    obtain ⟨d, ds, hds, hd⟩ := toDigits_cons (n + 1)
    rw [intChars_negSucc]
    rw [hds] at hwhole hread ⊢
    rw [List.cons_append, List.cons_append, (readScalar_number (ds ++ rest) hd).2,
      ← List.cons_append, readNumber_negative hwhole, hread]
    rfl

end Walkthrough.Json
