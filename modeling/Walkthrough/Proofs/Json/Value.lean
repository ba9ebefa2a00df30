import Walkthrough.Proofs.Context
import Walkthrough.Proofs.Json.Scalar

/-! Induction over documents, and what is asked of one to be written and read. -/
namespace Walkthrough

/-- What holds of the values inside a document holds of the whole. -/
@[elab_as_elim]
theorem Json.induction {motive : Json → Prop} (null : motive .null) (bool : ∀ b, motive (.bool b))
    (int : ∀ n, motive (.int n)) (float : ∀ x, motive (.float x)) (str : ∀ s, motive (.str s))
    (arr : ∀ items, (∀ v ∈ items, motive v) → motive (.arr items))
    (obj : ∀ members : Members, (∀ m ∈ members, motive m.2) → motive (.obj members))
    (v : Json) : motive v := by
  refine @Json.rec motive (fun items => ∀ v ∈ items, motive v)
    (fun members => ∀ m ∈ members, motive m.2) (fun m => motive m.2)
    null bool int float str arr obj ?_ ?_ ?_ ?_ ?_ v
  · simp
  · intro head tail hhead htail v hv
    rcases List.mem_cons.mp hv with rfl | hv
    · exact hhead
    · exact htail v hv
  · simp
  · intro head tail hhead htail m hm
    rcases List.mem_cons.mp hm with rfl | hm
    · exact hhead
    · exact htail m hm
  · intro key value hvalue
    exact hvalue

/-- A floating-point number that is read as it is written. -/
def Binary64.ReadsBack (x : Binary64) : Prop :=
  ∃ c cs, Json.floatChars x = c :: cs ∧ c ∉ Json.otherStarts ∧
    ∀ rest, Json.Closes rest → Json.readScalar (c :: cs ++ rest) = .ok (.float x, rest)

namespace Json

mutual

/-- A document that is all in its text: no object holds a key twice, and the floating-point numbers
are read as they are written. -/
def Faithful : Json → Prop
  | float x => x.ReadsBack
  | arr items => FaithfulItems items
  | obj members => (Members.keys members).Nodup ∧ FaithfulMembers members
  | _ => True

def FaithfulItems : List Json → Prop
  | [] => True
  | v :: rest => Faithful v ∧ FaithfulItems rest

def FaithfulMembers : List (String × Json) → Prop
  | [] => True
  | (_, v) :: rest => Faithful v ∧ FaithfulMembers rest

end

mutual

/-- The number of digits of the first whole number that is too long to be read. -/
def tooLong? : Json → Option Nat
  | int n => tooLongInt? n
  | arr items => tooLongItems? items
  | obj members => tooLongMembers? members
  | _ => none

def tooLongItems? : List Json → Option Nat
  | [] => none
  | v :: rest => (tooLong? v).or (tooLongItems? rest)

def tooLongMembers? : List (String × Json) → Option Nat
  | [] => none
  | (_, v) :: rest => (tooLong? v).or (tooLongMembers? rest)

end

mutual

/-- The characters of all texts in a document. -/
def textChars : Json → List Char
  | str s => s.toList
  | arr items => itemTextChars items
  | obj members => memberTextChars members
  | _ => []

def itemTextChars : List Json → List Char
  | [] => []
  | v :: rest => textChars v ++ itemTextChars rest

def memberTextChars : List (String × Json) → List Char
  | [] => []
  | (k, v) :: rest => k.toList ++ textChars v ++ memberTextChars rest

end

theorem faithfulItems_iff {items : List Json} : FaithfulItems items ↔ ∀ v ∈ items, v.Faithful := by
  induction items with
  | nil => simp [FaithfulItems]
  | cons v rest ih => simp [FaithfulItems, ih]

theorem faithfulMembers_iff {members : Members} :
    FaithfulMembers members ↔ ∀ m ∈ members, m.2.Faithful := by
  induction members with
  | nil => simp [FaithfulMembers]
  | cons m rest ih => simp [FaithfulMembers, ih]

theorem mem_memberTextChars {c : Char} {members : Members} :
    c ∈ memberTextChars members ↔ ∃ m ∈ members, c ∈ m.1.toList ∨ c ∈ m.2.textChars := by
  induction members with
  | nil => simp [memberTextChars]
  | cons m rest ih => simp [memberTextChars, ih, or_assoc]

end Json

namespace Members

theorem put_of_not_mem {members : Members} {key : String} (h : key ∉ keys members) (value : Json) :
    members.put key value = members ++ [(key, value)] := by
  induction members with
  | nil => rfl
  | cons m rest ih =>
    obtain ⟨k, v⟩ := m
    simp only [keys, List.map_cons, List.mem_cons, not_or] at h
    rw [put, if_neg (Ne.symm h.1), ih h.2, List.cons_append]

theorem merge_of_nodup {members new : Members} (h : (keys (members ++ new)).Nodup) :
    merge members new = members ++ new := by
  induction new generalizing members with
  | nil => simp [merge]
  | cons m new ih =>
    have hm : m.1 ∉ keys members := by
      simp only [keys, List.map_append, List.map_cons] at h
      intro hmem
      exact (List.nodup_append.mp h).2.2 m.1 hmem m.1 List.mem_cons_self rfl
    have hnext : merge (members ++ [m]) new = members ++ [m] ++ new := ih (by simpa using h)
    rw [merge, List.foldl_cons, put_of_not_mem hm]
    exact hnext.trans (by simp)

theorem mem_put {members : Members} {key : String} {value : Json} {m : String × Json}
    (h : m ∈ members.put key value) : m ∈ members ∨ m = (key, value) := by
  induction members with
  | nil => exact Or.inr (List.mem_singleton.mp h)
  | cons x rest ih =>
    obtain ⟨k, v⟩ := x
    rw [put] at h
    split at h
    · rename_i hk
      rcases List.mem_cons.mp h with rfl | h
      · exact Or.inr (by rw [hk])
      · exact Or.inl (List.mem_cons_of_mem _ h)
    · rcases List.mem_cons.mp h with rfl | h
      · exact Or.inl List.mem_cons_self
      · exact (ih h).imp_left (List.mem_cons_of_mem _)

theorem mem_merge {members new : Members} {m : String × Json} (h : m ∈ merge members new) :
    m ∈ members ∨ m ∈ new := by
  induction new generalizing members with
  | nil => exact Or.inl h
  | cons x new ih =>
    rcases ih (show m ∈ merge (members.put x.1 x.2) new from h) with h | h
    · rcases mem_put h with h | rfl
      · exact Or.inl h
      · exact Or.inr List.mem_cons_self
    · exact Or.inr (List.mem_cons_of_mem x h)

theorem mem_of_mem_ofPairs {members : Members} {m : String × Json} (h : m ∈ ofPairs members) :
    m ∈ members := (mem_merge h).resolve_left (by simp)

/-- Members with distinct keys stay as they are. -/
theorem ofPairs_of_nodup {members : Members} (h : (keys members).Nodup) :
    ofPairs members = members := merge_of_nodup h

end Members
end Walkthrough
