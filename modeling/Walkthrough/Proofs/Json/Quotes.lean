import Walkthrough.Proofs.Json.Value

/-!
Quotation marks: which parts of a written document stand inside texts, and that a reader takes for
texts just what stands between marks.
-/
namespace Walkthrough.Json

/-- A place in a text as seen from its quotation marks. -/
inductive Place where
  | outside
  | inside
  | escaped
  deriving DecidableEq, Repr

/-- The place behind a character. Outside of texts and right behind a backslash there are only
characters of the ASCII range, and outside of texts no backslashes. -/
def Place.next (c : Char) : Place → Option Place
  | outside =>
    if c = '"' then some inside else if c = '\\' ∨ 127 < c.toNat then none else some outside
  | inside => if c = '"' then some outside else if c = '\\' then some escaped else some inside
  | escaped => if 127 < c.toNat then none else some inside

/-- The place behind some characters. -/
def scan : Place → List Char → Option Place
  | p, [] => some p
  | p, c :: cs => (p.next c).bind fun q => scan q cs

theorem scan_append (p : Place) (cs ds : List Char) :
    scan p (cs ++ ds) = (scan p cs).bind fun q => scan q ds := by
  induction cs generalizing p with
  | nil => rfl
  | cons c cs ih =>
    rw [List.cons_append, scan, scan]
    cases p.next c with
    | none => rfl
    | some q => exact ih q

/-- A character that is no mark, no backslash and within the ASCII range. -/
def IsPlain (c : Char) : Prop := c ≠ '"' ∧ c ≠ '\\' ∧ c.toNat ≤ 127

instance (c : Char) : Decidable (IsPlain c) := by unfold IsPlain; infer_instance

theorem next_plain {c : Char} (h : IsPlain c) {p : Place} (hp : p ≠ .escaped) :
    p.next c = some p := by
  obtain ⟨hquote, hback, hascii⟩ := h
  have hwide : ¬ 127 < c.toNat := by omega
  cases p with
  | outside => simp [Place.next, hquote, hback, hwide]
  | inside => simp [Place.next, hquote, hback]
  | escaped => exact absurd rfl hp

/-- A text that has only been read up to `rest`: the marks in front of it go in pairs, and without
backslashes the texts that were read are made of its characters. -/
structure Spells (cs rest texts : List Char) : Prop where
  scan_eq : scan .outside cs = scan .outside rest
  suffix : rest <:+ cs
  mem : '\\' ∉ cs → ∀ c ∈ texts, c ∈ cs

namespace Spells

variable {cs mid rest texts more : List Char} {c : Char}

theorem refl (cs : List Char) : Spells cs cs [] := ⟨rfl, List.suffix_refl cs, by simp⟩

theorem trans (h : Spells cs mid texts) (h' : Spells mid rest more) :
    Spells cs rest (texts ++ more) where
  scan_eq := h.scan_eq.trans h'.scan_eq
  suffix := h'.suffix.trans h.suffix
  mem hback c hc := by
    rcases List.mem_append.mp hc with hc | hc
    · exact h.mem hback c hc
    · exact h.suffix.subset (h'.mem (fun hm => hback (h.suffix.subset hm)) c hc)

theorem cons (hc : IsPlain c) (h : Spells cs rest texts) : Spells (c :: cs) rest texts where
  scan_eq := by
    rw [scan, next_plain hc (by simp)]
    exact h.scan_eq
  suffix := h.suffix.trans (List.suffix_cons c cs)
  mem hback d hd :=
    List.mem_cons_of_mem c (h.mem (fun hm => hback (List.mem_cons_of_mem c hm)) d hd)

theorem dropWhile {p : Char → Bool} (hp : ∀ c, p c = true → IsPlain c) (cs : List Char) :
    Spells cs (cs.dropWhile p) [] := by
  induction cs with
  | nil => exact refl []
  | cons c cs ih =>
    rw [List.dropWhile_cons]
    split
    · rename_i hc
      exact cons (hp c hc) ih
    · exact refl _

theorem mono (h : Spells cs rest texts) (hsub : ∀ c ∈ more, c ∈ texts) : Spells cs rest more :=
  ⟨h.scan_eq, h.suffix, fun hback c hc => h.mem hback c (hsub c hc)⟩

end Spells

theorem isPlain_of_digit {c : Char} (h : isDigit c = true) : IsPlain c := by
  simp only [isDigit, Bool.and_eq_true, decide_eq_true_eq] at h
  refine ⟨?_, ?_, ?_⟩
  · rintro rfl
    exact absurd h (by decide)
  · rintro rfl
    exact absurd h (by decide)
  · exact Nat.le_trans h.2 (by decide)

theorem isPlain_of_blank {c : Char} (h : isDocumentBlank c = true) : IsPlain c := by
  simp only [isDocumentBlank, Bool.or_eq_true, decide_eq_true_eq] at h
  rcases h with ((rfl | rfl) | rfl) | rfl <;> decide

theorem spells_skipBlanks (cs : List Char) : Spells cs (skipBlanks cs) [] :=
  Spells.dropWhile (fun _ => isPlain_of_blank) cs

theorem spells_bracket {c : Char} (hc : IsPlain c) (cs : List Char) :
    Spells (c :: cs) (skipBlanks cs) [] :=
  Spells.cons hc (spells_skipBlanks cs)

theorem isPlain_of_hexValue {c : Char} {n : Nat} (h : hexValue? c = some n) : IsPlain c := by
  have hcases : ('0' ≤ c ∧ c ≤ '9') ∨ ('a' ≤ c ∧ c ≤ 'f') ∨ ('A' ≤ c ∧ c ≤ 'F') := by
    unfold hexValue? at h
    split at h
    · exact Or.inl ‹_›
    · split at h
      · exact Or.inr (Or.inl ‹_›)
      · split at h
        · exact Or.inr (Or.inr ‹_›)
        · cases h
  have hne : ∀ x, ¬ (('0' ≤ x ∧ x ≤ '9') ∨ ('a' ≤ x ∧ x ≤ 'f') ∨ ('A' ≤ x ∧ x ≤ 'F')) → c ≠ x := by
    rintro x hx rfl
    exact hx hcases
  refine ⟨hne _ (by decide), hne _ (by decide), ?_⟩
  rcases hcases with h | h | h <;> exact Nat.le_trans h.2 (by decide)

variable {cs rest after before : List Char} {start fuel : Nat} {t : String}

theorem codeUnit?_rest {n : Nat} (h : codeUnit? cs = some (n, rest)) :
    scan .inside cs = scan .inside rest ∧ rest <:+ cs := by
  unfold codeUnit? at h
  split at h
  · rename_i a b c d x more
    simp only [Option.bind_eq_bind, Option.bind_eq_some_iff, Option.pure_def, Option.some.injEq,
      Prod.mk.injEq] at h
    obtain ⟨_, ha, _, hb, _, hc, _, hd, -, rfl⟩ := h
    refine ⟨?_, ?_⟩
    · rw [scan, next_plain (isPlain_of_hexValue ha) (by simp), Option.bind_some, scan,
        next_plain (isPlain_of_hexValue hb) (by simp), Option.bind_some, scan,
        next_plain (isPlain_of_hexValue hc) (by simp), Option.bind_some, scan,
        next_plain (isPlain_of_hexValue hd) (by simp), Option.bind_some]
    · exact List.suffix_append [a, b, c, d] (x :: more)
  · cases h

theorem scan_escape {e : Char} (he : e.toNat ≤ 127) (cs : List Char) :
    scan .inside ('\\' :: e :: cs) = scan .inside cs := by
  have hnext : Place.next e .escaped = some .inside := by
    simp only [Place.next]
    rw [if_neg (by omega)]
  rw [scan, show Place.next '\\' .inside = some .escaped from rfl, Option.bind_some, scan, hnext,
    Option.bind_some]

theorem readUnits_rest {u : Char} (h : readUnits cs = .ok (u, after)) :
    scan .inside cs = scan .inside after ∧ after <:+ cs := by
  unfold readUnits at h
  split at h
  · cases h
  · rename_i n rest hunit
    obtain ⟨hscan, hsuffix⟩ := codeUnit?_rest hunit
    split at h
    · rename_i more
      split at h
      · split at h
        · cases h
        · rename_i low after' hlow
          obtain ⟨hscan', hsuffix'⟩ := codeUnit?_rest hlow
          split at h
          · simp only [Except.ok.injEq, Prod.mk.injEq] at h
            obtain ⟨-, rfl⟩ := h
            have hpair : scan .inside ('\\' :: 'u' :: more) = scan .inside more :=
              scan_escape (by decide) more
            refine ⟨hscan.trans (hpair.trans hscan'), ?_⟩
            exact (hsuffix'.trans (List.suffix_append ['\\', 'u'] more)).trans hsuffix
          · cases h
            exact ⟨hscan, hsuffix⟩
      · cases h
        exact ⟨hscan, hsuffix⟩
    · cases h
      exact ⟨hscan, hsuffix⟩

theorem escapeChar?_ascii {e x : Char} (h : escapeChar? e = some x) : e.toNat ≤ 127 := by
  unfold escapeChar? at h
  split at h
  · rename_i hself
    rcases hself with rfl | rfl | rfl <;> decide
  · repeat' split at h
    all_goals first | (subst_vars; decide) | cases h

theorem readString_rest (h : readString start fuel before cs = .ok (t, rest)) :
    scan .inside cs = scan .outside rest ∧ rest <:+ cs ∧
      ('\\' ∉ cs → ∀ c ∈ t.toList, c ∈ before ∨ c ∈ cs) := by
  induction fuel generalizing before cs with
  | zero => cases h
  | succ fuel ih =>
    cases cs with
    | nil => cases h
    | cons c cs =>
      unfold readString at h
      split at h
      · rename_i hquote
        cases h
        subst hquote
        exact ⟨rfl, List.suffix_cons _ _, fun _ d hd => Or.inl (by simpa using hd)⟩
      · rename_i hquote
        split at h
        · rename_i hback
          subst hback
          suffices hrest : scan .inside ('\\' :: cs) = scan .outside rest ∧ rest <:+ '\\' :: cs from
            ⟨hrest.1, hrest.2, fun hno => absurd List.mem_cons_self hno⟩
          split at h
          · cases h
          · rename_i more
            cases hunits : readUnits more with
            | error e => simp [hunits, bind, Except.bind] at h
            | ok p =>
              obtain ⟨u, after⟩ := p
              simp only [hunits, bind, Except.bind] at h
              obtain ⟨hscan, hsuffix, -⟩ := ih h
              obtain ⟨hscan', hsuffix'⟩ := readUnits_rest hunits
              refine ⟨?_, (hsuffix.trans hsuffix').trans (List.suffix_append ['\\', 'u'] more)⟩
              rw [scan_escape (by decide), hscan', hscan]
          · rename_i e more _
            split at h
            · rename_i x hx
              obtain ⟨hscan, hsuffix, -⟩ := ih h
              refine ⟨?_, hsuffix.trans (List.suffix_append ['\\', e] more)⟩
              rw [scan_escape (escapeChar?_ascii hx), hscan]
            · cases h
        · rename_i hback
          split at h
          · cases h
          · obtain ⟨hscan, hsuffix, hmem⟩ := ih h
            have hnext : Place.next c .inside = some .inside := by
              simp [Place.next, hquote, hback]
            refine ⟨?_, hsuffix.trans (List.suffix_cons c cs), fun hno d hd => ?_⟩
            · rw [scan, hnext]
              exact hscan
            · rcases hmem (fun hm => hno (List.mem_cons_of_mem c hm)) d hd with hd | hd
              · rcases List.mem_cons.mp hd with rfl | hd
                · exact Or.inr List.mem_cons_self
                · exact Or.inl hd
              · exact Or.inr (List.mem_cons_of_mem c hd)

/-- A text with its two marks. -/
theorem spells_readText (h : readText cs = .ok (t, rest)) : Spells ('"' :: cs) rest t.toList where
  scan_eq := (readString_rest h).1
  suffix := (readString_rest h).2.1.trans (List.suffix_cons _ _)
  mem hback c hc := by
    rcases (readString_rest h).2.2 (fun hm => hback (List.mem_cons_of_mem _ hm)) c hc with hc | hc
    · cases hc
    · exact List.mem_cons_of_mem _ hc

/-! Words and numbers. -/

theorem spells_wholeDigits {ds : List Char} (h : wholeDigits? cs = some (ds, rest)) :
    Spells cs rest [] := by
  unfold wholeDigits? at h
  split at h
  · cases h
    exact Spells.cons (by decide) (Spells.refl _)
  · split at h
    · cases h
    · simp only [Option.some.injEq, Prod.mk.injEq] at h
      obtain ⟨-, rfl⟩ := h
      exact Spells.dropWhile (fun _ => isPlain_of_digit) cs

theorem spells_fractionDigits {ds : List Char} (h : fractionDigits? cs = some (ds, rest)) :
    Spells cs rest [] := by
  unfold fractionDigits? at h
  split at h
  · split at h
    · cases h
    · simp only [Option.some.injEq, Prod.mk.injEq] at h
      obtain ⟨-, rfl⟩ := h
      exact Spells.cons (by decide) (Spells.dropWhile (fun _ => isPlain_of_digit) _)
  · cases h

theorem spells_exponent {n : Int} (h : exponent? cs = some (n, rest)) : Spells cs rest [] := by
  unfold exponent? at h
  split at h
  · rename_i e more
    split at h
    · rename_i he
      have hplain : IsPlain e := by rcases he with rfl | rfl <;> decide
      split at h
      rename_i negative digits hsign
      have hdigits : Spells more digits [] := by
        split at hsign
        · cases hsign
          exact Spells.cons (by decide) (Spells.refl _)
        · cases hsign
          exact Spells.cons (by decide) (Spells.refl _)
        · cases hsign
          exact Spells.refl _
      split at h
      · cases h
      · simp only [Option.some.injEq, Prod.mk.injEq] at h
        obtain ⟨-, rfl⟩ := h
        exact Spells.cons hplain
          (hdigits.trans (Spells.dropWhile (fun _ => isPlain_of_digit) digits))
    · cases h
  · cases h

theorem spells_readMagnitude {negative : Bool} {whole : List Char} {v : Json}
    (h : readMagnitude negative whole cs = .ok (v, rest)) : Spells cs rest v.textChars := by
  have hfraction : Spells cs (((fractionDigits? cs).map (·.2)).getD cs) [] := by
    cases hds : fractionDigits? cs with
    | none => exact Spells.refl cs
    | some p => exact spells_fractionDigits hds
  unfold readMagnitude at h
  dsimp only at h
  generalize ((fractionDigits? cs).map (·.2)).getD cs = afterFraction at h hfraction
  split at h
  · split at h
    · cases h
    · simp only [Except.ok.injEq, Prod.mk.injEq] at h
      obtain ⟨rfl, rfl⟩ := h
      exact Spells.refl cs
  · simp only [Except.ok.injEq, Prod.mk.injEq] at h
    obtain ⟨rfl, rfl⟩ := h
    cases hexponent : exponent? afterFraction with
    | none => exact hfraction
    | some p => exact hfraction.trans (spells_exponent hexponent)

theorem spells_readNumber {v : Json} (h : readNumber cs = .ok (v, rest)) :
    Spells cs rest v.textChars := by
  unfold readNumber at h
  split at h
  rename_i negative digits hsign
  have hdigits : Spells cs digits [] := by
    split at hsign
    · cases hsign
      exact Spells.cons (by decide) (Spells.refl _)
    · cases hsign
      exact Spells.refl _
  split at h
  · rename_i whole after hwhole
    exact hdigits.trans ((spells_wholeDigits hwhole).trans (spells_readMagnitude h))
  · cases h

theorem spells_word (word : List Char) (hword : ∀ c ∈ word, IsPlain c) (rest : List Char) :
    Spells (word ++ rest) rest [] := by
  induction word with
  | nil => exact Spells.refl rest
  | cons c word ih =>
    exact Spells.cons (hword c List.mem_cons_self)
      (ih fun d hd => hword d (List.mem_cons_of_mem c hd))

theorem spells_readScalar {v : Json} (h : readScalar cs = .ok (v, rest)) :
    Spells cs rest v.textChars := by
  unfold readScalar at h
  split at h
  · cases h
    exact spells_word ['n', 'u', 'l', 'l'] (forall_mem_of_all (by decide)) rest
  · cases h
    exact spells_word ['t', 'r', 'u', 'e'] (forall_mem_of_all (by decide)) rest
  · cases h
    exact spells_word ['f', 'a', 'l', 's', 'e'] (forall_mem_of_all (by decide)) rest
  · cases h
    exact spells_word ['N', 'a', 'N'] (forall_mem_of_all (by decide)) rest
  · cases h
    exact spells_word ['I', 'n', 'f', 'i', 'n', 'i', 't', 'y'] (forall_mem_of_all (by decide)) rest
  · cases h
    exact spells_word ['-', 'I', 'n', 'f', 'i', 'n', 'i', 't', 'y']
      (forall_mem_of_all (by decide)) rest
  · exact spells_readNumber h

/-! Values. -/

theorem memberTextChars_ofPairs {members : Members} {c : Char}
    (h : c ∈ memberTextChars (Members.ofPairs members)) : c ∈ memberTextChars members := by
  obtain ⟨m, hm, hc⟩ := mem_memberTextChars.mp h
  exact mem_memberTextChars.mpr ⟨m, Members.mem_of_mem_ofPairs hm, hc⟩

/-- Values that are read spell their texts. -/
def SpellsValues (fuel : Nat) : Prop :=
  ∀ cs v rest, readValue fuel cs = .ok (v, rest) → Spells cs rest v.textChars

def SpellsItems (fuel : Nat) : Prop :=
  ∀ before cs v rest, readItems fuel before cs = .ok (v, rest) →
    ∃ items, v = arr (before.reverse ++ items) ∧ Spells cs rest (itemTextChars items)

def SpellsMembers (fuel : Nat) : Prop :=
  ∀ before cs v rest, readMembers fuel before cs = .ok (v, rest) →
    ∃ members, v = obj (Members.ofPairs (before.reverse ++ members)) ∧
      Spells cs rest (memberTextChars members)

theorem spellsValues_succ (hitems : SpellsItems fuel) (hmembers : SpellsMembers fuel) :
    SpellsValues (fuel + 1) := by
  intro cs v rest h
  unfold readValue at h
  split at h
  · rename_i inner
    cases ht : readText inner with
    | error e => simp [ht, bind, Except.bind] at h
    | ok p =>
      simp only [ht, bind, Except.bind, pure, Except.pure, Except.ok.injEq, Prod.mk.injEq] at h
      obtain ⟨rfl, rfl⟩ := h
      exact spells_readText ht
  · rename_i inner
    have hopen := spells_bracket (c := '[') (by decide) inner
    split at h
    · rename_i after hempty
      cases h
      rw [hempty] at hopen
      exact hopen.trans (Spells.cons (by decide) (Spells.refl rest))
    · obtain ⟨items, rfl, hspells⟩ := hitems _ _ _ _ h
      exact hopen.trans hspells
  · rename_i inner
    have hopen := spells_bracket (c := '{') (by decide) inner
    split at h
    · rename_i after hempty
      cases h
      rw [hempty] at hopen
      exact hopen.trans (Spells.cons (by decide) (Spells.refl rest))
    · obtain ⟨members, rfl, hspells⟩ := hmembers _ _ _ _ h
      exact (hopen.trans hspells).mono fun c hc => memberTextChars_ofPairs hc
  · exact spells_readScalar h

theorem spellsItems_succ (hvalues : SpellsValues fuel) (hitems : SpellsItems fuel) :
    SpellsItems (fuel + 1) := by
  intro before cs v rest h
  rw [readItems] at h
  cases hv : readValue fuel cs with
  | error e => simp [hv, bind, Except.bind] at h
  | ok p =>
    obtain ⟨x, after⟩ := p
    simp only [hv, bind, Except.bind] at h
    have hx := (hvalues _ _ _ hv).trans (spells_skipBlanks after)
    split at h
    · rename_i more hclose
      cases h
      rw [hclose] at hx
      refine ⟨[x], by simp, ?_⟩
      simpa [itemTextChars] using hx.trans (Spells.cons (by decide) (Spells.refl rest))
    · rename_i more hcomma
      rw [hcomma] at hx
      obtain ⟨items, rfl, hspells⟩ := hitems _ _ _ _ h
      refine ⟨x :: items, by simp, ?_⟩
      have hnext := (spells_bracket (c := ',') (by decide) more).trans hspells
      simpa [itemTextChars] using hx.trans hnext
    · cases h

theorem spellsMembers_succ (hvalues : SpellsValues fuel) (hmembers : SpellsMembers fuel) :
    SpellsMembers (fuel + 1) := by
  intro before cs v rest h
  unfold readMembers at h
  split at h
  · rename_i inner
    cases ht : readText inner with
    | error e => simp [ht, bind, Except.bind] at h
    | ok p =>
      obtain ⟨k, afterKey⟩ := p
      simp only [ht, bind, Except.bind] at h
      have hk := (spells_readText ht).trans (spells_skipBlanks afterKey)
      split at h
      · rename_i more hcolon
        rw [hcolon] at hk
        cases hv : readValue fuel (skipBlanks more) with
        | error e => simp [hv] at h
        | ok p =>
          obtain ⟨x, after⟩ := p
          simp only [hv] at h
          have hx := (spells_bracket (c := ':') (by decide) more).trans
            ((hvalues _ _ _ hv).trans (spells_skipBlanks after))
          split at h
          · rename_i last hclose
            cases h
            rw [hclose] at hx
            refine ⟨[(k, x)], by simp, ?_⟩
            have hend := hx.trans (Spells.cons (by decide) (Spells.refl rest))
            simpa [memberTextChars] using hk.trans hend
          · rename_i more hcomma
            rw [hcomma] at hx
            obtain ⟨members, rfl, hspells⟩ := hmembers _ _ _ _ h
            refine ⟨(k, x) :: members, by simp, ?_⟩
            have hnext := (spells_bracket (c := ',') (by decide) more).trans hspells
            simpa [memberTextChars] using hk.trans (hx.trans hnext)
          · cases h
      · cases h
  · cases h

/-- What is read spells its texts: each value, item and member takes some of the fuel. -/
theorem spells_read (fuel : Nat) : SpellsValues fuel ∧ SpellsItems fuel ∧ SpellsMembers fuel := by
  induction fuel with
  | zero =>
    refine ⟨?_, ?_, ?_⟩
    · intro cs v rest h
      cases h
    · intro before cs v rest h
      cases h
    · intro before cs v rest h
      cases h
  | succ fuel ih =>
    obtain ⟨hvalues, hitems, hmembers⟩ := ih
    exact ⟨spellsValues_succ hitems hmembers, spellsItems_succ hvalues hitems,
      spellsMembers_succ hvalues hmembers⟩

/-- A text that is read as a document has its marks in pairs, and without backslashes it holds the
document's texts as they are. -/
theorem scan_of_readChars {cs : List Char} {v : Json} (h : readChars cs = .ok v) :
    scan .outside cs = some .outside ∧ ('\\' ∉ cs → ∀ c ∈ v.textChars, c ∈ cs) := by
  unfold readChars at h
  split at h
  · cases h
  · cases hv : readValue (cs.length + 1) (skipBlanks cs) with
    | error e => simp [hv, bind, Except.bind] at h
    | ok p =>
      obtain ⟨x, after⟩ := p
      simp only [hv, bind, Except.bind] at h
      split at h
      · rename_i hend
        cases h
        have hvalue := (spells_read (cs.length + 1)).1 _ _ _ hv
        have hall := ((spells_skipBlanks cs).trans hvalue).trans (spells_skipBlanks after)
        rw [List.isEmpty_iff.mp hend, List.nil_append, List.append_nil] at hall
        exact ⟨hall.scan_eq, hall.mem⟩
      · cases h

/-- Backslashes stand inside of texts alone: what can be taken for either has none. -/
theorem no_backslash_of_scans {cs : List Char} (hout : (scan .outside cs).isSome)
    (hin : (scan .inside cs).isSome) : '\\' ∉ cs := by
  induction cs with
  | nil => simp
  | cons c cs ih =>
    by_cases hquote : c = '"'
    · subst hquote
      exact List.not_mem_cons_of_ne_of_not_mem (by decide) (ih hin hout)
    by_cases hback : c = '\\'
    · subst hback
      cases hout
    · have hstay : Place.next c .inside = some .inside := by
        simp [Place.next, hquote, hback]
      have hnext : Place.next c .outside = some .outside := by
        rw [scan] at hout
        simp only [Place.next, if_neg hquote] at hout ⊢
        split at hout
        · cases hout
        · rename_i hplain
          exact if_neg hplain
      rw [scan, hnext] at hout
      rw [scan, hstay] at hin
      exact List.not_mem_cons_of_ne_of_not_mem (Ne.symm hback) (ih hout hin)

/-- A character beyond ASCII stands inside of a text. -/
theorem inside_of_wide {p : Place} {c : Char} {cs ds : List Char} (hc : 127 < c.toNat)
    (h : (scan p (cs ++ c :: ds)).isSome) :
    scan p cs = some .inside ∧ (scan .inside ds).isSome := by
  rw [scan_append] at h
  have hquote : c ≠ '"' := by
    rintro rfl
    exact absurd hc (by decide)
  have hback : c ≠ '\\' := by
    rintro rfl
    exact absurd hc (by decide)
  cases hplace : scan p cs with
  | none => simp [hplace] at h
  | some q =>
    rw [hplace, Option.bind_some, scan] at h
    cases q with
    | outside => simp [Place.next, hquote, hc] at h
    | inside => exact ⟨rfl, by simpa [Place.next, hquote, hback] using h⟩
    | escaped => simp [Place.next, hc] at h

end Walkthrough.Json
