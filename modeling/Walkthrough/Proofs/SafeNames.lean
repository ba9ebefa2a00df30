import Mathlib
import Walkthrough.Pattern.Search
import Walkthrough.Proofs.Files

/-!
The names of the files in which reports are kept. A title keeps the characters that a search for
letters, digits, underscores and hyphens finds when case is left aside, and each of the others becomes
an underscore. Which characters these are is read off the tables of Unicode: besides those of ASCII, four
letters are kept whose small or capital form is one of ASCII.
-/
namespace Walkthrough

namespace Text

/-- The code points of small letters, digits, the underscore and the hyphen. -/
def IsSafeCode (n : Nat) : Prop := 97 ≤ n ∧ n ≤ 122 ∨ 48 ≤ n ∧ n ≤ 57 ∨ n = 95 ∨ n = 45

instance : DecidablePred IsSafeCode := fun n => by unfold IsSafeCode; infer_instance

theorem capitals_of_caseRuns : ∀ r ∈ caseRuns, r.first = 65 ∧ r.last = 90 ∨ 128 ≤ r.first := by
  decide +kernel

/-- Of the wide letters only the Kelvin sign has a small form in ASCII. -/
theorem wide_of_caseRuns : ∀ r ∈ caseRuns, 128 ≤ r.first →
    128 ≤ r.first + r.shift ∨ r.first = 0x212a ∧ r.last = 0x212a := by
  decide +kernel

/-- No letter has the dotless i or the long s as its small form. -/
theorem unshared_of_caseRuns : ∀ r ∈ caseRuns, ∀ n : Nat, n = 0x131 ∨ n = 0x17f →
    r.holds (n - r.shift).toNat = false := by
  simp only [forall_eq_or_imp, forall_eq]
  decide +kernel

theorem narrow_of_sharedCapitals : ∀ row ∈ sharedCapitals, ∀ n ∈ row.2, n < 128 →
    row.1 = 0x131 ∨ row.1 = 0x17f := by
  decide +kernel

theorem CaseRun.bounds {r : CaseRun} {n : Nat} (h : r.holds n = true) :
    r.first ≤ n ∧ n ≤ r.last := by
  simp only [CaseRun.holds, Bool.and_eq_true, decide_eq_true_eq] at h
  exact h.1

theorem CaseRun.eq_kelvin {r : CaseRun} {n : Nat} (hr : r ∈ caseRuns) (h : r.holds n = true)
    (hwide : 128 ≤ n) (hsmall : n + r.shift < 128) : n = 0x212a := by
  have hbounds := CaseRun.bounds h
  have hcapital := capitals_of_caseRuns r hr
  have hfirst : 128 ≤ r.first := by omega
  have hkelvin := wide_of_caseRuns r hr hfirst
  omega

theorem CaseRun.ne_shared {r : CaseRun} {n m : Nat} (hr : r ∈ caseRuns) (h : r.holds n = true)
    (hm : m = 0x131 ∨ m = 0x17f) : n + r.shift ≠ m := by
  intro heq
  have hnone := unshared_of_caseRuns r hr m hm
  rw [← heq, Int.add_sub_cancel, Int.toNat_natCast, h] at hnone
  cases hnone

theorem lowerChar_cases (c : Char) : lowerChar c = c ∨
    ∃ r ∈ caseRuns, r.holds c.toNat = true ∧ lowerChar c = Char.ofNat (c.toNat + r.shift).toNat := by
  unfold lowerChar
  split
  · rename_i r hr
    have hheld := List.find?_some hr
    exact Or.inr ⟨r, List.mem_of_find?_eq_some hr, hheld, rfl⟩
  · exact Or.inl rfl

theorem toNat_ofNat_cases (n : Nat) : (Char.ofNat n).toNat = n ∨ (Char.ofNat n).toNat = 0 := by
  unfold Char.ofNat
  split
  · exact Or.inl rfl
  · exact Or.inr rfl

/-- A code point of a safe character is no capital, so it can only be the small form itself. -/
theorem eq_of_mem_capitalsOf {small n : Nat} (hn : IsSafeCode n) (h : n ∈ capitalsOf small) :
    n = small := by
  simp only [capitalsOf, List.cons_append, List.mem_cons, List.mem_append, List.mem_filterMap,
    Option.ite_none_right_eq_some, Option.some.injEq] at h
  obtain rfl | hdotted | ⟨r, hr, hheld, rfl⟩ := h
  · rfl
  · split at hdotted
    · obtain rfl := List.mem_singleton.mp hdotted
      exact absurd hn (by decide)
    · cases hdotted
  · have hbounds := CaseRun.bounds hheld
    have hcapital := capitals_of_caseRuns r hr
    unfold IsSafeCode at hn
    omega

/-- A small form stands for a safe character just if it is one, or shares its capital with one. -/
theorem safe_mate_iff (small : Nat) : (∃ n ∈ caseMates small, IsSafeCode n) ↔
    IsSafeCode small ∨ small = 0x131 ∨ small = 0x17f := by
  constructor
  · rintro ⟨n, hmate, hn⟩
    obtain ⟨m, hm, hcapital⟩ := List.mem_flatMap.mp hmate
    obtain rfl := eq_of_mem_capitalsOf hn hcapital
    rcases List.mem_cons.mp hm with rfl | hshared
    · exact Or.inl hn
    · unfold capitalMates at hshared
      cases hrow : sharedCapitals.find? (·.1 == small) with
      | none =>
        rw [hrow] at hshared
        cases hshared
      | some row =>
        rw [hrow] at hshared
        have hnarrow : n < 128 := by
          unfold IsSafeCode at hn
          omega
        have hsmall := List.find?_some hrow
        rw [← eq_of_beq hsmall]
        have hrow : row ∈ sharedCapitals := List.mem_of_find?_eq_some hrow
        exact Or.inr (narrow_of_sharedCapitals row hrow n hshared hnarrow)
  · rintro (hsmall | rfl | rfl)
    · exact ⟨small, by simp [caseMates, capitalsOf], hsmall⟩
    · exact ⟨0x69, by decide +kernel, by decide⟩
    · exact ⟨0x73, by decide +kernel, by decide⟩

end Text

namespace Desk

open Text

/-- The letters and digits of ASCII, the underscore and the hyphen. -/
def IsSafe (c : Char) : Prop := c.isAlphanum = true ∨ c = '_' ∨ c = '-'

instance : DecidablePred IsSafe := fun c => by unfold IsSafe; infer_instance

/-- The capital dotted i, the small dotless i, the long s and the Kelvin sign. -/
def strayLetters : List Char := ['\u0130', '\u0131', '\u017f', '\u212a']

theorem isNameChar_iff (c : Char) : isNameChar c = true ↔ IsSafe c ∨ c ∈ strayLetters := by
  have hcode : ∀ d : Char, c.toNat = d.toNat ↔ c = d := fun d => Char.toNat_inj
  simp only [isNameChar, IsSafe, strayLetters, Bool.or_eq_true, decide_eq_true_eq,
    List.contains_iff_mem, List.mem_cons, List.not_mem_nil, or_false, ← hcode, or_assoc]
  rfl

/-- What a character of ASCII counts as is looked up for each of them. -/
theorem narrow_safe_iff : ∀ n < 128,
    (IsSafeCode (foldCase n) ∨ foldCase n = 0x131 ∨ foldCase n = 0x17f ↔
      isNameChar (Char.ofNat n) = true) := by
  decide +kernel

theorem wide_safe_iff {c : Char} (hc : 128 ≤ c.toNat) :
    IsSafeCode (foldCase c.toNat) ∨ foldCase c.toNat = 0x131 ∨ foldCase c.toNat = 0x17f ↔
      c ∈ strayLetters := by
  have hcode : ∀ d : Char, c.toNat = d.toNat → d ∈ strayLetters → c ∈ strayLetters :=
    fun d heq hd => Char.toNat_inj.mp heq ▸ hd
  constructor
  · intro h
    by_cases hdotted : c.toNat = 0x130
    · exact hcode '\u0130' hdotted (by decide)
    rw [foldCase, if_neg hdotted, Char.ofNat_toNat] at h
    obtain hself | ⟨r, hr, hheld, hsmall⟩ := lowerChar_cases c
    · rw [hself] at h
      rcases h with hsafe | hdotless | hlong
      · unfold IsSafeCode at hsafe
        omega
      · exact hcode '\u0131' hdotless (by decide)
      · exact hcode '\u017f' hlong (by decide)
    · rw [hsmall] at h
      have hnumber := toNat_ofNat_cases (c.toNat + r.shift).toNat
      rcases h with hsafe | hshared
      · refine hcode '\u212a' (CaseRun.eq_kelvin hr hheld hc ?_) (by decide)
        unfold IsSafeCode at hsafe
        omega
      · exact absurd (by omega) (CaseRun.ne_shared hr hheld hshared)
  · intro h
    simp only [strayLetters, List.mem_cons, List.not_mem_nil, or_false] at h
    rcases h with rfl | rfl | rfl | rfl <;> decide +kernel

theorem wide_of_mem_strayLetters {c : Char} (h : c ∈ strayLetters) : 128 ≤ c.toNat := by
  simp only [strayLetters, List.mem_cons, List.not_mem_nil, or_false] at h
  rcases h with rfl | rfl | rfl | rfl <;> decide

theorem narrow_of_isSafe {c : Char} (h : IsSafe c) : c.toNat < 128 := by
  obtain h | rfl | rfl := h
  · simp only [Char.isAlphanum, Char.isAlpha, Char.isUpper, Char.isLower, Char.isDigit,
      Bool.or_eq_true, Bool.and_eq_true, decide_eq_true_eq, UInt32.le_iff_toNat_le, ge_iff_le] at h
    change ((65 ≤ c.toNat ∧ c.toNat ≤ 90) ∨ (97 ≤ c.toNat ∧ c.toNat ≤ 122)) ∨
      (48 ≤ c.toNat ∧ c.toNat ≤ 57) at h
    omega
  · decide
  · decide

/-- A character is kept just if one of the characters that it stands for when case is left aside is a
small letter, a digit, an underscore or a hyphen. -/
theorem isNameChar_iff_mate (c : Char) :
    isNameChar c = true ↔ ∃ n ∈ caseMates (foldCase c.toNat), IsSafeCode n := by
  rw [safe_mate_iff]
  by_cases hc : c.toNat < 128
  · rw [narrow_safe_iff c.toNat hc, Char.ofNat_toNat]
  · rw [wide_safe_iff (by omega), isNameChar_iff, or_iff_right]
    exact fun hsafe => hc (narrow_of_isSafe hsafe)

end Desk

namespace Pattern

/-- A pattern of one set is found in a single character just if the set holds it. -/
theorem search_set (f : Flags) (negated : Bool) (items : List SetItem) (c : Char) :
    (⟨[.set negated items], f⟩ : Pattern).search c.toString = setHolds f negated items c := by
  have hchars : c.toString.toList = [c] := by simp
  simp only [search, hchars, searchFrom, matchSeq, matchNode, Cursor.advance?, stop]
  cases setHolds f negated items c <;> rfl

/-- What is not kept of a title, as it is asked for. -/
def unsafeSet : Pattern :=
  ⟨[.set true [.range 97 122, .range 48 57, .char 95, .char 45]], { ignoreCase := true }⟩

theorem read_unsafeSet : Pattern.read "(?i)[^a-z0-9_\\-]" = .ok unsafeSet := by cbv

/-- The set holds just the characters that are not kept. -/
theorem search_unsafeSet (c : Char) : unsafeSet.search c.toString = !Desk.isNameChar c := by
  have hmates : ([.range 97 122, .range 48 57, .char 95, .char 45] : List SetItem).any
      (·.holds { ignoreCase := true } (Char.ofNat (Text.foldCase c.toNat))
        (Text.caseMates (Text.foldCase c.toNat))) = Desk.isNameChar c := by
    rw [Bool.eq_iff_iff, Desk.isNameChar_iff_mate]
    simp only [List.any_cons, List.any_nil, SetItem.holds, Bool.or_false, Bool.or_eq_true,
      List.any_eq_true, Text.IsSafeCode, Bool.and_eq_true, decide_eq_true_eq,
      List.contains_iff_mem]
    constructor
    · rintro (⟨n, hmate, hn⟩ | ⟨n, hmate, hn⟩ | hmate | hmate)
      · exact ⟨n, hmate, Or.inl hn⟩
      · exact ⟨n, hmate, Or.inr (Or.inl hn)⟩
      · exact ⟨95, hmate, by simp⟩
      · exact ⟨45, hmate, by simp⟩
    · rintro ⟨n, hmate, hn | hn | rfl | rfl⟩
      · exact Or.inl ⟨n, hmate, hn⟩
      · exact Or.inr (Or.inl ⟨n, hmate, hn⟩)
      · exact Or.inr (Or.inr (Or.inl hmate))
      · exact Or.inr (Or.inr (Or.inr hmate))
  rw [unsafeSet, search_set, ← hmates, ← Bool.bne_true]
  rfl

end Pattern

namespace Desk

theorem toList_safeName (title : String) : (safeName title).toList =
    title.toList.map fun c => if isNameChar c then c else '_' := by
  rw [safeName, String.toList_ofList]

theorem mem_safeName_of_stray {c : Char} {title : String} (hc : c ∈ strayLetters)
    (hmem : c ∈ title.toList) : c ∈ (safeName title).toList := by
  have hkept : isNameChar c = true := (isNameChar_iff c).mpr (Or.inr hc)
  rw [toList_safeName]
  exact List.mem_map.mpr ⟨c, hmem, if_pos hkept⟩

/-- The characters of a name in safe letters are safe just if the title holds no stray letter. -/
theorem safeName_safe_iff (title : String) :
    (∀ c ∈ (safeName title).toList, IsSafe c) ↔ ∀ c ∈ strayLetters, c ∉ title.toList := by
  constructor
  · intro h c hc hmem
    have hsafe : IsSafe c := h c (mem_safeName_of_stray hc hmem)
    exact Nat.not_lt.mpr (wide_of_mem_strayLetters hc) (narrow_of_isSafe hsafe)
  · intro h c hc
    rw [toList_safeName] at hc
    obtain ⟨d, hmem, rfl⟩ := List.mem_map.mp hc
    by_cases hkept : isNameChar d = true
    · rw [if_pos hkept]
      exact ((isNameChar_iff d).mp hkept).resolve_right fun hd => h d hd hmem
    · rw [if_neg hkept]
      exact Or.inr (Or.inl rfl)

/-- Behind the title a report's name has nothing but characters of ASCII. -/
theorem reportName_narrow_iff (title : String) (now : Int) :
    (∀ c ∈ (reportName title now).toList, c.toNat < 128) ↔
      ∀ c ∈ strayLetters, c ∉ title.toList := by
  have hjson : ".json".toList.all (·.toNat < 128) = true := by decide
  constructor
  · intro h c hc hmem
    have hkept : c ∈ (reportName title now).toList := by
      simp [reportName, mem_safeName_of_stray hc hmem]
    exact Nat.not_lt.mpr (wide_of_mem_strayLetters hc) (h c hkept)
  · intro h c hc
    simp only [reportName, String.toList_append, List.mem_append, or_assoc] at hc
    rcases hc with hsafe | hhyphen | hnow | hend
    · exact narrow_of_isSafe ((safeName_safe_iff title).mpr h c hsafe)
    · obtain rfl : c = '-' := List.mem_singleton.mp hhyphen
      decide
    · by_cases hdigit : c.isDigit = true
      · exact narrow_of_isSafe (Or.inl (by simp [Char.isAlphanum, hdigit]))
      · by_cases hminus : c = '-'
        · exact narrow_of_isSafe (Or.inr (Or.inr hminus))
        · exact absurd hnow (not_mem_toString (Bool.not_eq_true _ ▸ hdigit) hminus now)
    · exact of_decide_eq_true (List.all_eq_true.mp hjson c hend)

/-- A title in safe letters has as many characters as the title. In its place stands each letter and
digit of ASCII, each underscore and each hyphen, and so does each of the four stray letters, which a
search for the others does not find when case is left aside; everything else has become an underscore.
So all of its characters are safe, and those of the report's name are of ASCII, just where the title
holds no stray letter. In any case a report has a name without slashes in its directory. -/
theorem safeName_kept (dir : Path) (title : String) (now : Int) :
    (safeName title).length = title.length ∧
    (∀ i : Nat, (safeName title).toList[i]? = title.toList[i]?.map fun c =>
      if IsSafe c ∨ c ∈ strayLetters then c else '_') ∧
    (∃ p, Pattern.read "(?i)[^a-z0-9_\\-]" = .ok p ∧
      (safeName title).toList = title.toList.map fun c => if p.search c.toString then '_' else c) ∧
    ((∀ c ∈ (safeName title).toList, IsSafe c) ↔ ∀ c ∈ strayLetters, c ∉ title.toList) ∧
    reportPath dir title now = { dir with parts := dir.parts ++ [reportName title now] } ∧
    '/' ∉ (reportName title now).toList ∧
    ((∀ c ∈ (reportName title now).toList, c.toNat < 128) ↔
      ∀ c ∈ strayLetters, c ∉ title.toList) := by
  refine ⟨?_, fun i => ?_, ⟨_, Pattern.read_unsafeSet, ?_⟩, safeName_safe_iff title,
    reportPath_eq dir title now, not_mem_reportName (by decide) (by decide) title now,
    reportName_narrow_iff title now⟩
  · rw [← String.length_toList, toList_safeName, List.length_map, String.length_toList]
  · simp only [toList_safeName, List.getElem?_map, isNameChar_iff]
  · rw [toList_safeName]
    refine List.map_congr_left fun c _ => ?_
    rw [Pattern.search_unsafeSet]
    cases isNameChar c <;> rfl

/-- The Kelvin sign is kept, as its small form is the letter k. -/
theorem safeName_keeps_kelvin : (safeName "\u212a").toList = ['\u212a'] ∧
    ¬ (∀ c ∈ (safeName "\u212a").toList, IsSafe c) ∧
    ¬ ∀ c ∈ (reportName "\u212a" 1000).toList, c.toNat < 128 := by
  have hname : (safeName "\u212a").toList = ['\u212a'] := by decide +kernel
  have hkept : '\u212a' ∈ (reportName "\u212a" 1000).toList := by decide +kernel
  refine ⟨hname, fun h => ?_, fun h => absurd (h '\u212a' hkept) (by decide)⟩
  rw [hname] at h
  exact absurd (h '\u212a' (List.mem_singleton_self _)) (by decide)

end Desk

end Walkthrough
