import Mathlib.Algebra.Group.Nat.Defs
import Walkthrough.Proofs.Json.RoundTrip
import Walkthrough.Proofs.Reading

/-!
What was read from a text can be written and read again: its objects hold no key twice and its whole
numbers are short enough. Floating-point numbers have to be read back as they are written.
-/
namespace Walkthrough

/-! Keys. -/

namespace Members

theorem keys_put (ms : Members) (key : String) (value : Json) :
    keys (ms.put key value) = if key ∈ keys ms then keys ms else keys ms ++ [key] := by
  induction ms with
  | nil => rfl
  | cons m rest ih =>
    obtain ⟨k, v⟩ := m
    by_cases hk : k = key
    · simp [put, keys, hk]
    · have hput : put ((k, v) :: rest) key value = (k, v) :: put rest key value := if_neg hk
      have hcons : ∀ ms : Members, keys ((k, v) :: ms) = k :: keys ms := fun _ => rfl
      rw [hput, hcons, hcons, ih]
      by_cases hmem : key ∈ keys rest
      · rw [if_pos hmem, if_pos (List.mem_cons_of_mem k hmem)]
      · rw [if_neg hmem, if_neg (by simp [hmem, Ne.symm hk]), List.cons_append]

theorem nodup_put {ms : Members} (h : (keys ms).Nodup) (key : String) (value : Json) :
    (keys (ms.put key value)).Nodup := by
  rw [keys_put]
  split
  · exact h
  · rename_i hmem
    rw [List.nodup_append]
    refine ⟨h, by simp, ?_⟩
    intro k hk k' hk' heq
    rw [List.mem_singleton.mp hk'] at heq
    exact hmem (heq ▸ hk)

theorem nodup_merge {ms : Members} (h : (keys ms).Nodup) (new : Members) :
    (keys (merge ms new)).Nodup := by
  induction new generalizing ms with
  | nil => exact h
  | cons m new ih => exact ih (nodup_put h m.1 m.2)

theorem nodup_ofPairs (pairs : Members) : (keys (ofPairs pairs)).Nodup :=
  nodup_merge (by simp [keys]) pairs

end Members

namespace Json

mutual

/-- The floating-point numbers in a document. -/
def floats : Json → List Binary64
  | float x => [x]
  | arr items => itemFloats items
  | obj members => memberFloats members
  | _ => []

def itemFloats : List Json → List Binary64
  | [] => []
  | v :: rest => floats v ++ itemFloats rest

def memberFloats : List (String × Json) → List Binary64
  | [] => []
  | (_, v) :: rest => floats v ++ memberFloats rest

end

mutual

/-- A document in which no object holds a key twice. -/
def Distinct : Json → Prop
  | arr items => DistinctItems items
  | obj members => (Members.keys members).Nodup ∧ DistinctMembers members
  | _ => True

def DistinctItems : List Json → Prop
  | [] => True
  | v :: rest => Distinct v ∧ DistinctItems rest

def DistinctMembers : List (String × Json) → Prop
  | [] => True
  | (_, v) :: rest => Distinct v ∧ DistinctMembers rest

end

theorem distinctItems_iff {items : List Json} : DistinctItems items ↔ ∀ v ∈ items, v.Distinct := by
  induction items with
  | nil => simp [DistinctItems]
  | cons v rest ih => simp [DistinctItems, ih]

theorem distinctMembers_iff {members : Members} :
    DistinctMembers members ↔ ∀ m ∈ members, m.2.Distinct := by
  induction members with
  | nil => simp [DistinctMembers]
  | cons m rest ih => simp [DistinctMembers, ih]

theorem mem_itemFloats {x : Binary64} {items : List Json} :
    x ∈ itemFloats items ↔ ∃ v ∈ items, x ∈ v.floats := by
  induction items with
  | nil => simp [itemFloats]
  | cons v rest ih => simp [itemFloats, ih]

theorem mem_memberFloats {x : Binary64} {members : Members} :
    x ∈ memberFloats members ↔ ∃ m ∈ members, x ∈ m.2.floats := by
  induction members with
  | nil => simp [memberFloats]
  | cons m rest ih => simp [memberFloats, ih]

theorem Distinct.faithful {v : Json} (h : v.Distinct) (hx : ∀ x ∈ v.floats, x.ReadsBack) :
    v.Faithful := by
  induction v using Json.induction with
  | float x => exact hx x List.mem_cons_self
  | arr items ih =>
    refine faithfulItems_iff.mpr fun v hv => ih v hv (distinctItems_iff.mp h v hv) fun x hxv => ?_
    exact hx x (mem_itemFloats.mpr ⟨v, hv, hxv⟩)
  | obj members ih =>
    refine ⟨h.1, faithfulMembers_iff.mpr fun m hm => ?_⟩
    refine ih m hm (distinctMembers_iff.mp h.2 m hm) fun x hxm => ?_
    exact hx x (mem_memberFloats.mpr ⟨m, hm, hxm⟩)
  | _ => trivial

/-! What holds of all words, numbers and texts that are read, and of lists and objects of values of
which it holds, holds of all documents that are read. -/

section Read

variable {P : Json → Prop} (hscalar : ∀ cs v rest, readScalar cs = .ok (v, rest) → P v)
  (hstr : ∀ s, P (.str s)) (harr : ∀ items, (∀ v ∈ items, P v) → P (.arr items))
  (hobj : ∀ pairs : Members, (∀ m ∈ pairs, P m.2) → P (.obj (Members.ofPairs pairs)))

include hscalar hstr harr hobj

theorem of_readAll (fuel : Nat) :
    (∀ cs v rest, readValue fuel cs = .ok (v, rest) → P v) ∧
    (∀ before cs v rest, (∀ x ∈ before, P x) → readItems fuel before cs = .ok (v, rest) → P v) ∧
    ∀ (before : Members) cs v rest, (∀ m ∈ before, P m.2) →
      readMembers fuel before cs = .ok (v, rest) → P v := by
  induction fuel with
  | zero =>
    refine ⟨?_, ?_, ?_⟩
    · intro cs v rest h
      cases h
    · intro before cs v rest _ h
      cases h
    · intro before cs v rest _ h
      cases h
  | succ fuel ih =>
    obtain ⟨hvalues, hitems, hmembers⟩ := ih
    refine ⟨?_, ?_, ?_⟩
    · intro cs v rest h
      unfold readValue at h
      split at h
      · obtain ⟨p, -, h⟩ := except_bind_eq_ok.mp h
        cases h
        exact hstr _
      · split at h
        · cases h
          exact harr [] (by simp)
        · exact hitems [] _ _ _ (by simp) h
      · split at h
        · cases h
          exact hobj [] (by simp)
        · exact hmembers [] _ _ _ (by simp) h
      · exact hscalar _ _ _ h
    · intro before cs v rest hbefore h
      rw [readItems] at h
      obtain ⟨⟨x, after⟩, hx, h⟩ := except_bind_eq_ok.mp h
      have hall : ∀ y ∈ x :: before, P y := List.forall_mem_cons.mpr ⟨hvalues _ _ _ hx, hbefore⟩
      dsimp only at h
      split at h
      · cases h
        exact harr _ fun y hy => hall y (List.mem_reverse.mp hy)
      · exact hitems _ _ _ _ hall h
      · cases h
    · intro before cs v rest hbefore h
      unfold readMembers at h
      split at h
      · obtain ⟨⟨k, afterKey⟩, -, h⟩ := except_bind_eq_ok.mp h
        dsimp only at h
        split at h
        · obtain ⟨⟨x, after⟩, hx, h⟩ := except_bind_eq_ok.mp h
          have hall : ∀ m ∈ (k, x) :: before, P m.2 :=
            List.forall_mem_cons.mpr ⟨hvalues _ _ _ hx, hbefore⟩
          dsimp only at h
          split at h
          · cases h
            exact hobj _ fun m hm => hall m (List.mem_reverse.mp hm)
          · exact hmembers _ _ _ _ hall h
          · cases h
        · cases h
      · cases h

theorem of_read {text : String} {v : Json} (h : read text = .ok v) : P v := by
  unfold read readChars at h
  split at h
  · cases h
  · obtain ⟨⟨x, after⟩, hx, h⟩ := except_bind_eq_ok.mp h
    dsimp only at h
    split at h
    · cases h
      exact (of_readAll hscalar hstr harr hobj _).1 _ _ _ hx
    · cases h

end Read

/-! Numbers. -/

theorem digitsValue_lt {ds : List Char} (h : ∀ c ∈ ds, isDigit c = true) :
    digitsValue ds < 10 ^ ds.length := by
  have hfold : ∀ n k, n < 10 ^ k →
      ds.foldl (fun n d => n * 10 + (d.toNat - 48)) n < 10 ^ (k + ds.length) := by
    induction ds with
    | nil => exact fun n k hn => hn
    | cons d ds ih =>
      intro n k hn
      have hd : d.toNat - 48 ≤ 9 := by
        have := h d List.mem_cons_self
        simp only [isDigit, Bool.and_eq_true, decide_eq_true_eq] at this
        have hle : d.toNat ≤ '9'.toNat := this.2
        have hnine : '9'.toNat = 57 := rfl
        omega
      have hnext : n * 10 + (d.toNat - 48) < 10 ^ (k + 1) := by
        rw [Nat.pow_succ]
        omega
      rw [List.foldl_cons, List.length_cons, Nat.add_comm ds.length, ← Nat.add_assoc]
      exact ih (fun c hc => h c (List.mem_cons_of_mem d hc)) _ _ hnext
  simpa [digitsValue] using hfold 0 0 (by decide)

/-- A whole number has at most as many digits as it was read from. -/
theorem tooLongInt?_digitsValue {ds : List Char} (h : ∀ c ∈ ds, isDigit c = true)
    (hlength : ds.length ≤ Number.maxDigits) (negative : Bool) :
    tooLongInt? (if negative then -(digitsValue ds : Int) else digitsValue ds) = none := by
  have habs : (if negative then -(digitsValue ds : Int) else digitsValue ds).natAbs =
      digitsValue ds := by
    cases negative <;> simp
  have hdigits : (Nat.toDigits 10 (digitsValue ds)).length ≤ Number.maxDigits := by
    rw [Nat.length_toDigits_le_iff (by decide) (by decide)]
    exact Nat.lt_of_lt_of_le (digitsValue_lt h) (Nat.pow_le_pow_right (by decide) hlength)
  unfold tooLongInt?
  rw [habs]
  exact if_neg (Nat.not_lt.mpr hdigits)

theorem wholeDigits?_digits {cs ds rest : List Char} (h : wholeDigits? cs = some (ds, rest)) :
    ∀ c ∈ ds, isDigit c = true := by
  unfold wholeDigits? at h
  split at h
  · cases h
    exact List.forall_mem_singleton.mpr (by decide)
  · split at h
    · cases h
    · cases h
      exact List.all_eq_true.mp List.all_takeWhile

/-- A document that can be read again, if its floating-point numbers are read as they are written. -/
structure Rereadable (v : Json) : Prop where
  distinct : v.Distinct
  short : v.tooLong? = none

theorem rereadable_readMagnitude {negative : Bool} {whole cs rest : List Char} {v : Json}
    (hwhole : ∀ c ∈ whole, isDigit c = true) (h : readMagnitude negative whole cs = .ok (v, rest)) :
    v.Rereadable := by
  unfold readMagnitude at h
  dsimp only at h
  split at h
  · split at h
    · cases h
    · rename_i hlength
      cases h
      exact ⟨trivial, tooLongInt?_digitsValue hwhole (Nat.le_of_not_lt hlength) negative⟩
  · cases h
    exact ⟨trivial, rfl⟩

theorem rereadable_readScalar {cs rest : List Char} {v : Json} (h : readScalar cs = .ok (v, rest)) :
    v.Rereadable := by
  unfold readScalar at h
  split at h
  -- the words come first, then the numbers
  iterate 6
    · cases h
      exact ⟨trivial, rfl⟩
  · unfold readNumber at h
    split at h
    rename_i negative digits _
    split at h
    · rename_i hwhole
      exact rereadable_readMagnitude (wholeDigits?_digits hwhole) h
    · cases h

theorem tooLongItems?_eq_none {items : List Json} :
    tooLongItems? items = none ↔ ∀ v ∈ items, v.tooLong? = none := by
  induction items with
  | nil => simp [tooLongItems?]
  | cons v rest ih => simp [tooLongItems?, Option.or_eq_none_iff, ih]

theorem tooLongMembers?_eq_none {members : Members} :
    tooLongMembers? members = none ↔ ∀ m ∈ members, m.2.tooLong? = none := by
  induction members with
  | nil => simp [tooLongMembers?]
  | cons m rest ih => simp [tooLongMembers?, Option.or_eq_none_iff, ih]

/-- What is read from a text can be read again. -/
theorem rereadable_of_read {text : String} {v : Json} (h : read text = .ok v) : v.Rereadable := by
  refine of_read (P := Rereadable) (fun cs v rest => rereadable_readScalar) ?_ ?_ ?_ h
  · exact fun s => ⟨trivial, rfl⟩
  · intro items hitems
    exact ⟨distinctItems_iff.mpr fun v hv => (hitems v hv).distinct,
      tooLongItems?_eq_none.mpr fun v hv => (hitems v hv).short⟩
  · intro pairs hpairs
    have hmembers : ∀ m ∈ Members.ofPairs pairs, m.2.Rereadable :=
      fun m hm => hpairs m (Members.mem_of_mem_ofPairs hm)
    exact ⟨⟨Members.nodup_ofPairs pairs, distinctMembers_iff.mpr fun m hm => (hmembers m hm).distinct⟩,
      tooLongMembers?_eq_none.mpr fun m hm => (hmembers m hm).short⟩

theorem Rereadable.member {ms : Members} {m : String × Json} (h : (obj ms).Rereadable)
    (hm : m ∈ ms) : m.2.Rereadable :=
  ⟨distinctMembers_iff.mp h.distinct.2 m hm, tooLongMembers?_eq_none.mp h.short m hm⟩

/-- Written once more, a document that was read is read as itself. -/
theorem Rereadable.read_render {v : Json} (h : v.Rereadable) (hx : ∀ x ∈ v.floats, x.ReadsBack)
    (ascii : Bool) : read (v.render ascii) = .ok v := by
  rw [Json.read_render ascii (h.distinct.faithful hx), h.short]

end Json
end Walkthrough
