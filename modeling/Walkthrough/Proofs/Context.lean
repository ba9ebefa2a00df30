import Mathlib.Tactic.SplitIfs
import Walkthrough.Context

/-! What a context says within a repetition, whatever it said outside. -/
namespace Walkthrough

theorem Members.get?_put (ms : Members) (key other : String) (value : Json) :
    Members.get? (ms.put key value) other =
      if key = other then some value else Members.get? ms other := by
  induction ms with
  | nil => simp [put, get?]
  | cons m ms ih =>
    obtain ⟨k, v⟩ := m
    by_cases hk : k = key
    · subst hk
      by_cases ho : k = other <;> simp [put, get?, ho]
    · by_cases ho : k = other
      · subst ho
        simp [put, get?, hk, Ne.symm hk]
      · simp [put, get?, hk, ho, ih]

namespace Context

variable (ctx : Context) (index total : Nat) (group : Option String)

theorem get?_repetition_index :
    (ctx.repetition index total group).get? indexKey = some (.int index) := by
  cases group <;>
    simp [repetition, forIteration, extend, get?, Members.merge, Members.get?_put, indexKey,
      totalKey, groupKey]

theorem get?_repetition_total :
    (ctx.repetition index total group).get? totalKey = some (.int total) := by
  cases group <;>
    simp [repetition, forIteration, extend, get?, Members.merge, Members.get?_put, indexKey,
      totalKey, groupKey]

@[simp] theorem iterationIndex_repetition :
    (ctx.repetition index total group).iterationIndex = .int index := by
  simp [iterationIndex, get?_repetition_index]

@[simp] theorem inIteration_repetition :
    (ctx.repetition index total group).inIteration = true := by
  have h := get?_repetition_index ctx index total group
  simp [inIteration, Members.has, show Members.get? _ _ = _ from h]

/-- A title says which repetition it is, counted from one, and how many there are. -/
@[simp] theorem suffix_repetition :
    (ctx.repetition index total group).suffix = .ok s!" [{index + 1}/{total}]" := by
  have hi := iterationIndex_repetition ctx index total group
  have ht : (ctx.repetition index total group).totalIterations = .int total := by
    simp [totalIterations, get?_repetition_total]
  simp only [suffix, inIteration_repetition, if_true, hi, ht, next]
  rfl

end Context
end Walkthrough
