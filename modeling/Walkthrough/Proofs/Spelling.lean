import Walkthrough.Proofs.Reading

/-!
The keys of a document and the fields that they spell. No key spells two fields of one model, so
that a model is read with no member left over just if each key spells a field that no other key
spells.
-/
namespace Walkthrough

namespace Members

variable {ms : Members} {key : String} {v : Json}

theorem mem_of_get? (h : get? ms key = some v) : (key, v) ∈ ms := by
  induction ms with
  | nil => cases h
  | cons m rest ih =>
    unfold get? at h
    split at h
    · rename_i hkey
      cases h
      rw [← hkey]
      exact List.mem_cons_self
    · exact List.mem_cons_of_mem m (ih h)

theorem get?_eq_none : get? ms key = none ↔ key ∉ ms.keys := by
  induction ms with
  | nil => exact iff_of_true rfl nofun
  | cons m rest ih =>
    unfold get?
    by_cases hkey : m.1 = key
    · simp [keys, hkey]
    · have hne : key ≠ m.1 := fun h => hkey h.symm
      simpa [keys, hkey, hne] using ih

theorem exists_of_mem_keys (h : key ∈ ms.keys) : ∃ v, get? ms key = some v := by
  cases hv : get? ms key with
  | some v => exact ⟨v, rfl⟩
  | none => exact absurd h (get?_eq_none.mp hv)

end Members

namespace Schema

open Checked

variable {α : Type} {fields : List Field} {ms : Members} {f : Field} {key : String} {v : Json}

namespace Field

/-- The member that is found has one of the spellings. -/
theorem of_find? (h : f.find? ms = some (key, v)) :
    key ∈ f.spellings ∧ Members.get? ms key = some v := by
  obtain ⟨k, hk, hfound⟩ := List.exists_of_findSome?_eq_some h
  obtain ⟨w, hw, hsame⟩ := Option.map_eq_some_iff.mp hfound
  cases hsame
  exact ⟨hk, hw⟩

theorem find?_eq_none : f.find? ms = none ↔ ∀ key ∈ ms.keys, key ∉ f.spellings := by
  unfold find?
  rw [List.findSome?_eq_none_iff]
  constructor
  · intro h key hkey hspells
    exact Members.get?_eq_none.mp (Option.map_eq_none_iff.mp (h key hspells)) hkey
  · intro h k hk
    exact Option.map_eq_none_iff.mpr (Members.get?_eq_none.mpr fun hkey => h k hkey hk)

/-- The only key that spells the field is found. -/
theorem find?_of_only (hkey : key ∈ f.spellings) (hv : Members.get? ms key = some v)
    (honly : ∀ other ∈ ms.keys, other ∈ f.spellings → other = key) :
    f.find? ms = some (key, v) := by
  cases h : f.find? ms with
  | none =>
    have hmem : key ∈ ms.keys := List.mem_map_of_mem (Members.mem_of_get? hv)
    exact absurd hkey (find?_eq_none.mp h key hmem)
  | some m =>
    obtain ⟨hspells, hget⟩ := of_find? h
    obtain rfl := honly m.1 (List.mem_map_of_mem (Members.mem_of_get? hget)) hspells
    cases hv.symm.trans hget
    rfl

end Field

/-- No key spells two of the fields. -/
def Unambiguous (fields : List Field) : Prop :=
  ∀ f ∈ fields, ∀ g ∈ fields, ∀ key ∈ f.spellings, key ∈ g.spellings → f = g

instance (fields : List Field) : Decidable (Unambiguous fields) :=
  inferInstanceAs (Decidable (∀ f ∈ fields, ∀ g ∈ fields, ∀ key ∈ f.spellings,
    key ∈ g.spellings → f = g))

/-- Each key spells one of the fields, and no other key spells that field as well. -/
structure Spelled (fields : List Field) (ms : Members) : Prop where
  known : ∀ key ∈ ms.keys, ∃! f, f ∈ fields ∧ key ∈ f.spellings
  once : ∀ f ∈ fields, ∀ key ∈ ms.keys, ∀ other ∈ ms.keys, key ∈ f.spellings →
    other ∈ f.spellings → other = key

theorem spells_eq_true : spells fields ms key = true ↔
    ∃ f ∈ fields, ∃ v, f.find? ms = some (key, v) := by
  simp only [spells, List.any_eq_true, Option.any_eq_true, beq_iff_eq]
  constructor
  · rintro ⟨f, hf, m, hm, rfl⟩
    exact ⟨f, hf, m.2, hm⟩
  · rintro ⟨f, hf, v, hv⟩
    exact ⟨f, hf, (key, v), hv, rfl⟩

theorem noOthers_eq_good : noOthers fields ms = good () ↔
    ∀ key ∈ ms.keys, ∃ f ∈ fields, ∃ v, f.find? ms = some (key, v) := by
  have hextra : noOthers fields ms = good () ↔
      ms.keys.filter (fun k => !spells fields ms k) = [] := by
    unfold noOthers
    cases ms.keys.filter fun k => !spells fields ms k with
    | nil => exact iff_of_true rfl rfl
    | cons k ks => exact iff_of_false nofun nofun
  rw [hextra, List.filter_eq_nil_iff]
  apply forall₂_congr
  intro key _
  rw [← spells_eq_true]
  simp

/-- No member is left over just if the members spell fields, each of them once. -/
theorem noOthers_iff (h : Unambiguous fields) :
    noOthers fields ms = good () ↔ Spelled fields ms := by
  rw [noOthers_eq_good]
  constructor
  · intro hall
    refine ⟨?_, ?_⟩
    · intro key hkey
      obtain ⟨f, hf, v, hv⟩ := hall key hkey
      have hspells := (Field.of_find? hv).1
      exact ⟨f, ⟨hf, hspells⟩, fun g hg => h g hg.1 f hf key hg.2 hspells⟩
    · intro f hf key hkey other hother hspells hspells'
      -- Both keys are found for a field of their own, which is this one.
      obtain ⟨g, hg, v, hv⟩ := hall key hkey
      obtain ⟨g', hg', v', hv'⟩ := hall other hother
      obtain rfl := h g hg f hf key (Field.of_find? hv).1 hspells
      obtain rfl := h g' hg' g hf other (Field.of_find? hv').1 hspells'
      cases hv.symm.trans hv'
      rfl
  · intro hspelled key hkey
    obtain ⟨f, ⟨hf, hspells⟩, -⟩ := hspelled.known key hkey
    obtain ⟨v, hv⟩ := Members.exists_of_mem_keys hkey
    refine ⟨f, hf, v, Field.find?_of_only hspells hv ?_⟩
    intro other hother hspells'
    exact hspelled.once f hf key hkey other hother hspells hspells'

end Schema

open Schema

theorem Check.unambiguous_fields : Unambiguous Check.fields := by decide +kernel

theorem FileEntry.unambiguous_fields : Unambiguous FileEntry.fields := by decide +kernel

theorem Step.unambiguous_fields (k : ActionKind) : Unambiguous (Step.fields k) := by
  cases k <;> decide +kernel

end Walkthrough
