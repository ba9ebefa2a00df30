import Walkthrough.Proofs.Json.Quotes

/-!
What a document is written with: visible characters alone, and the marks go in pairs. Characters
beyond ASCII stand for themselves.
-/
namespace Walkthrough.Json

/-- A visible character of the ASCII range that is no mark and no backslash. -/
def IsVisible (c : Char) : Prop := IsPlain c ∧ 32 ≤ c.toNat

instance (c : Char) : Decidable (IsVisible c) := by unfold IsVisible; infer_instance

theorem isVisible_of_digit {c : Char} (h : isDigit c = true) : IsVisible c := by
  refine ⟨isPlain_of_digit h, ?_⟩
  simp only [isDigit, Bool.and_eq_true, decide_eq_true_eq] at h
  exact Nat.le_trans (by decide) (show '0'.toNat ≤ c.toNat from h.1)

theorem isVisible_hexDigit : ∀ d < 16, IsVisible (Text.hexDigit d) := by decide

theorem isVisible_of_mem_hex {c : Char} {width n : Nat} (h : c ∈ Text.hex width n) :
    IsVisible c := by
  induction width generalizing n with
  | zero => cases h
  | succ width ih =>
    rcases List.mem_append.mp h with h | h
    · exact ih h
    · obtain rfl := List.mem_singleton.mp h
      exact isVisible_hexDigit _ (Nat.mod_lt n (by decide))

theorem scan_visible {cs : List Char} (h : ∀ c ∈ cs, IsVisible c) {p : Place} (hp : p ≠ .escaped) :
    scan p cs = some p := by
  induction cs with
  | nil => rfl
  | cons c cs ih =>
    rw [scan, next_plain (h c List.mem_cons_self).1 hp, Option.bind_some]
    exact ih fun d hd => h d (List.mem_cons_of_mem c hd)

/-- Characters that some texts are written with. -/
structure Writes (cs texts : List Char) : Prop where
  scan_eq : scan .outside cs = some .outside
  visible : ∀ c ∈ cs, 32 ≤ c.toNat
  wide : ∀ c, 127 < c.toNat → (c ∈ cs ↔ c ∈ texts)

variable {cs ds texts more : List Char}

theorem Writes.append (h : Writes cs texts) (h' : Writes ds more) :
    Writes (cs ++ ds) (texts ++ more) where
  scan_eq := by rw [scan_append, h.scan_eq, Option.bind_some, h'.scan_eq]
  visible c hc := (List.mem_append.mp hc).elim (h.visible c) (h'.visible c)
  wide c hc := by rw [List.mem_append, List.mem_append, h.wide c hc, h'.wide c hc]

theorem writes_visible (h : ∀ c ∈ cs, IsVisible c) : Writes cs [] where
  scan_eq := scan_visible h (by simp)
  visible c hc := (h c hc).2
  wide c hc := by
    refine ⟨fun hmem => ?_, by simp⟩
    have hascii : c.toNat ≤ 127 := (h c hmem).1.2.2
    omega

theorem writes_word (h : cs.all (fun c => decide (IsVisible c)) = true) : Writes cs [] :=
  writes_visible (forall_mem_of_all h)

/-! Texts. -/

theorem scan_unitEscape (n : Nat) : scan .inside (unitEscape n) = some .inside := by
  rw [unitEscape, scan_escape (by decide)]
  exact scan_visible (fun c hc => isVisible_of_mem_hex hc) (by simp)

theorem unitEscape_ascii {n : Nat} : ∀ c ∈ unitEscape n, 32 ≤ c.toNat ∧ c.toNat ≤ 127 := by
  intro c hc
  simp only [unitEscape, List.mem_cons] at hc
  rcases hc with rfl | rfl | hc
  · decide
  · decide
  · exact ⟨(isVisible_of_mem_hex hc).2, (isVisible_of_mem_hex hc).1.2.2⟩

/-- Where escapes are asked for, only visible characters are written. -/
theorem visible_stringChar (c : Char) : ∀ d ∈ stringChar true c, 32 ≤ d.toNat := by
  unfold stringChar
  split_ifs with h₁ h₂ h₃ h₄ h₅ h₆ h₇ hcontrol hwide
  iterate 7
    · exact forall_mem_of_all (by decide)
  · exact fun d hd => (unitEscape_ascii d hd).1
  · intro d hd
    unfold wideEscape at hd
    dsimp only at hd
    split at hd
    · exact (unitEscape_ascii d hd).1
    · obtain hd | hd := List.mem_append.mp hd
      · exact (unitEscape_ascii d hd).1
      · exact (unitEscape_ascii d hd).1
  · intro d hd
    rw [List.mem_singleton.mp hd]
    exact Nat.le_of_not_lt hcontrol

theorem visible_stringChars (s : String) : ∀ c ∈ stringChars true s, 32 ≤ c.toNat := by
  intro c hc
  unfold stringChars at hc
  obtain hc | hc := List.mem_append.mp hc
  · obtain rfl | hc := List.mem_cons.mp hc
    · decide
    · obtain ⟨d, -, hd⟩ := List.mem_flatMap.mp hc
      exact visible_stringChar d c hd
  · rw [List.mem_singleton.mp hc]
    decide

theorem escape_inside {c e : Char} (hc : c.toNat ≤ 127) (he : 32 ≤ e.toNat ∧ e.toNat ≤ 127) :
    scan .inside ['\\', e] = some .inside ∧ (∀ d ∈ ['\\', e], 32 ≤ d.toNat) ∧
      ((c.toNat ≤ 127 ∧ ∀ d ∈ ['\\', e], d.toNat ≤ 127) ∨ ['\\', e] = [c]) := by
  refine ⟨scan_escape he.2 [], ?_, Or.inl ⟨hc, ?_⟩⟩
  · simpa using he.1
  · simpa using he.2

/-- A character inside a text: an escape within the ASCII range, or itself. -/
theorem stringChar_inside (c : Char) : scan .inside (stringChar false c) = some .inside ∧
    (∀ d ∈ stringChar false c, 32 ≤ d.toNat) ∧
    ((c.toNat ≤ 127 ∧ ∀ d ∈ stringChar false c, d.toNat ≤ 127) ∨ stringChar false c = [c]) := by
  unfold stringChar
  by_cases hquote : c = '"'
  · subst hquote
    exact escape_inside (by decide) (by decide)
  by_cases hback : c = '\\'
  · subst hback
    exact escape_inside (by decide) (by decide)
  rw [if_neg hquote, if_neg hback]
  repeat' split
  all_goals try (subst_vars; exact escape_inside (by decide) (by decide))
  · rename_i hcontrol
    exact ⟨scan_unitEscape c.toNat, fun d hd => (unitEscape_ascii d hd).1,
      Or.inl ⟨by omega, fun d hd => (unitEscape_ascii d hd).2⟩⟩
  · simp_all
  · rename_i hcontrol _
    have hnext : Place.next c .inside = some .inside := by
      simp [Place.next, hquote, hback]
    refine ⟨?_, ?_, Or.inr rfl⟩
    · rw [scan, hnext]
      rfl
    · intro d hd
      obtain rfl := List.mem_singleton.mp hd
      omega

theorem mem_stringChar {c d : Char} (hd : 127 < d.toNat) : d ∈ stringChar false c ↔ d = c := by
  rcases (stringChar_inside c).2.2 with ⟨hc, hascii⟩ | hself
  · refine ⟨fun hmem => ?_, fun heq => ?_⟩
    · exact absurd (hascii d hmem) (by omega)
    · rw [heq] at hd
      omega
  · rw [hself, List.mem_singleton]

theorem writes_stringChars (s : String) : Writes (stringChars false s) s.toList := by
  have hscan : scan .inside (s.toList.flatMap (stringChar false)) = some .inside := by
    induction s.toList with
    | nil => rfl
    | cons c cs ih =>
      rw [List.flatMap_cons, scan_append, (stringChar_inside c).1, Option.bind_some, ih]
  refine ⟨?_, ?_, ?_⟩
  · rw [stringChars, List.cons_append, scan, show Place.next '"' .outside = some .inside from rfl,
      Option.bind_some, scan_append, hscan]
    rfl
  · intro d hd
    simp only [stringChars, List.cons_append, List.mem_cons, List.mem_append, List.mem_flatMap,
      List.not_mem_nil, or_false] at hd
    rcases hd with rfl | ⟨c, -, hd⟩ | rfl
    · decide
    · exact (stringChar_inside c).2.1 d hd
    · decide
  · intro d hd
    have hquote : d ≠ '"' := by
      rintro rfl
      exact absurd hd (by decide)
    simp [stringChars, hquote, mem_stringChar hd]

/-! Numbers. -/

theorem visible_intChars (n : Int) : ∀ c ∈ intChars n, IsVisible c := by
  intro c hc
  cases n with
  | ofNat n =>
    rw [show intChars (Int.ofNat n) = _ from intChars_natCast n] at hc
    exact isVisible_of_digit (isDigit_of_mem c hc)
  | negSucc n =>
    rw [intChars_negSucc] at hc
    rcases List.mem_cons.mp hc with rfl | hc
    · decide
    · exact isVisible_of_digit (isDigit_of_mem c hc)

theorem visible_exponentText (e : Int) : ∀ c ∈ Binary64.exponentText e, IsVisible c := by
  intro c hc
  rcases List.mem_cons.mp hc with rfl | hc
  · split <;> decide
  · split at hc
    · rcases List.mem_cons.mp hc with rfl | hc
      · decide
      · exact isVisible_of_digit (isDigit_of_mem c hc)
    · exact isVisible_of_digit (isDigit_of_mem c hc)

theorem visible_place (h : ∀ c ∈ ds, isDigit c = true) (order : Int) :
    ∀ c ∈ Binary64.place ds order, IsVisible c := by
  have hdigit : ∀ c ∈ ds, IsVisible c := fun c hc => isVisible_of_digit (h c hc)
  intro c hc
  unfold Binary64.place at hc
  dsimp only at hc
  split at hc
  · simp only [List.mem_append, List.mem_cons] at hc
    rcases hc with (hc | hc) | rfl | hc
    · exact hdigit c (List.mem_of_mem_take hc)
    · split at hc
      · cases hc
      · rcases List.mem_cons.mp hc with rfl | hc
        · decide
        · exact hdigit c (List.mem_of_mem_drop hc)
    · decide
    · exact visible_exponentText _ c hc
  · split at hc
    · simp only [List.cons_append, List.mem_cons, List.mem_append, List.mem_replicate] at hc
      rcases hc with rfl | rfl | ⟨-, rfl⟩ | hc
      · decide
      · decide
      · decide
      · exact hdigit c hc
    · split at hc
      · simp only [List.mem_append, List.mem_replicate, List.mem_cons, List.not_mem_nil,
          or_false] at hc
        rcases hc with (hc | ⟨-, rfl⟩) | rfl | rfl
        · exact hdigit c hc
        · decide
        · decide
        · decide
      · simp only [List.mem_append, List.mem_cons] at hc
        rcases hc with hc | rfl | hc
        · exact hdigit c (List.mem_of_mem_take hc)
        · decide
        · exact hdigit c (List.mem_of_mem_drop hc)

theorem visible_floatChars (x : Binary64) : ∀ c ∈ floatChars x, IsVisible c := by
  cases x with
  | nan => exact forall_mem_of_all (by decide)
  | infinite negative => cases negative <;> exact forall_mem_of_all (by decide)
  | finite negative mantissa exponent =>
    intro c hc
    simp only [floatChars, Binary64.text, String.toList_ofList, List.mem_append] at hc
    rcases hc with hc | hc
    · split at hc
      · obtain rfl := List.mem_singleton.mp hc
        decide
      · cases hc
    · unfold Binary64.magnitudeText at hc
      split at hc
      · simp only [List.mem_cons, List.not_mem_nil, or_false] at hc
        rcases hc with rfl | rfl | rfl <;> decide
      · generalize Binary64.shortest mantissa exponent = shortest at hc
        obtain ⟨n, e⟩ := shortest
        refine visible_place (fun d hd => ?_) _ c hc
        have hd := (List.dropWhile_sublist _).subset (List.mem_reverse.mp hd)
        exact isDigit_of_mem d (List.mem_reverse.mp hd)

/-! Values. -/

theorem writes_itemChars {items : List Json}
    (h : ∀ v ∈ items, Writes (chars false v) v.textChars) :
    Writes (itemChars false items) (itemTextChars items) := by
  induction items with
  | nil => exact writes_word (by decide)
  | cons v rest ih =>
    have hrest := ih fun x hx => h x (List.mem_cons_of_mem v hx)
    have hcomma : Writes [',', ' '] [] := writes_word (by decide)
    exact (hcomma.append (h v List.mem_cons_self)).append hrest

/-- A member with its key and its colon. -/
theorem writes_member {m : String × Json} (h : Writes (chars false m.2) m.2.textChars) :
    Writes (stringChars false m.1 ++ ':' :: ' ' :: chars false m.2)
      (m.1.toList ++ m.2.textChars) := by
  have hcolon : Writes [':', ' '] [] := writes_word (by decide)
  exact (writes_stringChars m.1).append (hcolon.append h)

theorem writes_memberChars {members : Members}
    (h : ∀ m ∈ members, Writes (chars false m.2) m.2.textChars) :
    Writes (memberChars false members) (memberTextChars members) := by
  induction members with
  | nil => exact writes_word (by decide)
  | cons m rest ih =>
    have hrest := ih fun x hx => h x (List.mem_cons_of_mem m hx)
    have hcomma : Writes [',', ' '] [] := writes_word (by decide)
    simpa [memberChars, memberTextChars] using
      (hcomma.append (writes_member (h m List.mem_cons_self))).append hrest

theorem writes_chars (v : Json) : Writes (chars false v) v.textChars := by
  induction v using Json.induction with
  | null => exact writes_word (by decide)
  | bool b => cases b <;> exact writes_word (by decide)
  | int n => exact writes_visible (visible_intChars n)
  | float x => exact writes_visible (visible_floatChars x)
  | str s => exact writes_stringChars s
  | arr items ih =>
    cases items with
    | nil => exact writes_word (by decide)
    | cons v rest =>
      have hopen : Writes ['['] [] := writes_word (by decide)
      have hrest := writes_itemChars fun x hx => ih x (List.mem_cons_of_mem v hx)
      exact (hopen.append (ih v List.mem_cons_self)).append hrest
  | obj members ih =>
    cases members with
    | nil => exact writes_word (by decide)
    | cons m rest =>
      have hopen : Writes ['{'] [] := writes_word (by decide)
      have hrest := writes_memberChars fun x hx => ih x (List.mem_cons_of_mem m hx)
      simpa [chars, textChars, memberTextChars] using
        (hopen.append (writes_member (ih m List.mem_cons_self))).append hrest

theorem memberChars_last (members : Members) :
    ∃ init, memberChars false members = init ++ ['}'] := by
  induction members with
  | nil => exact ⟨[], rfl⟩
  | cons m rest ih =>
    obtain ⟨init, hinit⟩ := ih
    exact ⟨_, by rw [memberChars, hinit, ← List.append_assoc]⟩

/-- An object stands between braces. -/
theorem chars_obj (members : Members) :
    ∃ mid, chars false (obj members) = '{' :: mid ++ ['}'] := by
  cases members with
  | nil => exact ⟨[], rfl⟩
  | cons m rest =>
    obtain ⟨init, hinit⟩ := memberChars_last rest
    exact ⟨stringChars false m.1 ++ ':' :: ' ' :: chars false m.2 ++ init,
      by simp [chars, hinit]⟩

end Walkthrough.Json
