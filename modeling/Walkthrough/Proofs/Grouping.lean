import Mathlib.Data.List.Chain
import Walkthrough.Engine.Group

/-! Steps in runs: no step is lost, runs end where the group changes, and this leaves one way. -/
namespace Walkthrough

/-- No group goes on from the first steps to the others. -/
def Step.Apart (xs ys : List Step) : Prop :=
  ∀ x ∈ xs.getLast?, ∀ y ∈ ys.head?, x.group.isSome → x.group ≠ y.group

namespace StepRun

theorem flatMap_push (s : Step) (runs : List StepRun) :
    (push s runs).flatMap steps = s :: runs.flatMap steps := by
  unfold push
  split
  · rfl
  · split <;> rfl
  · rfl

theorem ofSteps_cons (x : Step) (xs : List Step) : ofSteps (x :: xs) = push x (ofSteps xs) := rfl

/-- The runs hold the steps in their order. -/
theorem flatMap_ofSteps (xs : List Step) : (ofSteps xs).flatMap steps = xs := by
  induction xs with
  | nil => rfl
  | cons x xs ih =>
    rw [ofSteps_cons, flatMap_push, ih]

/-- The first run is of the first step's group. -/
theorem head?_push (s : Step) (runs : List StepRun) :
    (push s runs).head?.map group = some s.group := by
  unfold push
  split
  · rename_i h
    simp [h]
  · rename_i h
    split <;> simp [h]
  · rename_i h
    simp [h]

theorem head?_ofSteps (xs : List Step) :
    (ofSteps xs).head?.map group = xs.head?.map Step.group := by
  cases xs with
  | nil => rfl
  | cons x xs => exact head?_push x (ofSteps xs)

/-- A run of one group, or a single step. -/
def Uniform (r : StepRun) : Prop :=
  (∀ s ∈ r.steps, s.group = r.group) ∧ (r.group = none → r.steps.length = 1)

theorem uniform_push {s : Step} {runs : List StepRun} (h : ∀ r ∈ runs, r.Uniform) :
    ∀ r ∈ push s runs, r.Uniform := by
  have hsingle : StepRun.Uniform ⟨[s], s.group⟩ := ⟨by simp, fun _ => rfl⟩
  unfold push
  split
  · rename_i hs
    intro r hr
    rcases List.mem_cons.mp hr with rfl | hr
    · exact hs ▸ hsingle
    · exact h r hr
  · rename_i g first rest hs
    split
    · rename_i hg
      intro r hr
      rcases List.mem_cons.mp hr with rfl | hr
      · refine ⟨fun x hx => ?_, fun hnone => by cases hnone⟩
        rcases List.mem_cons.mp hx with rfl | hx
        · exact hs
        · exact ((h first List.mem_cons_self).1 x hx).trans hg
      · exact h r (List.mem_cons_of_mem first hr)
    · intro r hr
      rcases List.mem_cons.mp hr with rfl | hr
      · exact hs ▸ hsingle
      · exact h r hr
  · rename_i g hs
    intro r hr
    obtain rfl := List.mem_singleton.mp hr
    exact hs ▸ hsingle

/-- Every run is of one group, or a single step. -/
theorem uniform_ofSteps (xs : List Step) : ∀ r ∈ ofSteps xs, r.Uniform := by
  induction xs with
  | nil => simp [ofSteps]
  | cons x xs ih =>
    rw [ofSteps_cons]
    exact uniform_push ih

/-- A step in front of runs changes at most the first one. -/
theorem push_append (s : Step) {runs : List StepRun} (others : List StepRun) (h : runs ≠ []) :
    push s (runs ++ others) = push s runs ++ others := by
  obtain ⟨r, rest, rfl⟩ := List.exists_cons_of_ne_nil h
  unfold push
  cases s.group with
  | none => rfl
  | some g =>
    simp only [List.cons_append]
    split <;> rfl

theorem push_apart (s : Step) {runs : List StepRun}
    (h : ∀ r ∈ runs.head?, s.group.isSome → s.group ≠ r.group) :
    push s runs = push s [] ++ runs := by
  unfold push
  cases hs : s.group with
  | none => rfl
  | some g =>
    cases runs with
    | nil => rfl
    | cons r rest =>
      have hne : r.group ≠ some g := by
        have := h r rfl (by simp [hs])
        rw [hs] at this
        exact Ne.symm this
      simp [hne]

/-- Steps that are apart are grouped on either side for themselves. -/
theorem ofSteps_append {xs ys : List Step} (h : Step.Apart xs ys) :
    ofSteps (xs ++ ys) = ofSteps xs ++ ofSteps ys := by
  induction xs with
  | nil => rfl
  | cons x xs ih =>
    rw [List.cons_append, ofSteps_cons, ofSteps_cons]
    cases xs with
    | nil =>
      apply push_apart
      intro r hr hs
      rw [List.nil_append] at hr
      have hg := head?_ofSteps ys
      cases ys with
      | nil => simp [ofSteps] at hr
      | cons y ys =>
        rw [hr] at hg
        simp only [Option.map_some, List.head?_cons, Option.some.injEq] at hg
        rw [hg]
        exact h x rfl y rfl hs
    | cons z zs =>
      have hz : ofSteps ((z :: zs) ++ ys) = ofSteps (z :: zs) ++ ofSteps ys :=
        ih fun a ha => h a (by simpa using ha)
      have hne : ofSteps (z :: zs) ≠ [] := by
        intro he
        have := head?_ofSteps (z :: zs)
        simp [he] at this
      rw [hz, push_append x _ hne]

/-- Runs that the steps can be cut into: each holds steps, of one group or else a single one, and no
group goes on in the next run. -/
structure Segments (xs : List Step) (runs : List StepRun) : Prop where
  flatMap : runs.flatMap steps = xs
  filled : ∀ r ∈ runs, r.steps ≠ []
  uniform : ∀ r ∈ runs, r.Uniform
  apart : runs.IsChain fun r next => ∀ g, ¬ (r.group = some g ∧ next.group = some g)

theorem filled_push {s : Step} {runs : List StepRun} (h : ∀ r ∈ runs, r.steps ≠ []) :
    ∀ r ∈ push s runs, r.steps ≠ [] := by
  have hsingle : ∀ group, ∀ r ∈ ⟨[s], group⟩ :: runs, r.steps ≠ [] := by
    intro group r hr
    obtain rfl | hr := List.mem_cons.mp hr
    · exact List.cons_ne_nil s []
    · exact h r hr
  unfold push
  split
  · exact hsingle none
  · rename_i g first rest _
    split
    · intro r hr
      obtain rfl | hr := List.mem_cons.mp hr
      · exact List.cons_ne_nil s first.steps
      · exact h r (List.mem_cons_of_mem first hr)
    · exact hsingle (some g)
  · rename_i g _
    exact hsingle (some g)

theorem apart_push {s : Step} {runs : List StepRun}
    (h : runs.IsChain fun r next => ∀ g, ¬ (r.group = some g ∧ next.group = some g)) :
    (push s runs).IsChain fun r next => ∀ g, ¬ (r.group = some g ∧ next.group = some g) := by
  unfold push
  split
  · refine List.isChain_cons.mpr ⟨fun next _ g hboth => ?_, h⟩
    cases hboth.1
  · rename_i g first rest _
    split
    · rename_i hg
      -- the longer run is of the same group as the first one was
      obtain ⟨hnext, hrest⟩ := List.isChain_cons.mp h
      exact List.isChain_cons.mpr ⟨fun next hn => hg ▸ hnext next hn, hrest⟩
    · rename_i hg
      refine List.isChain_cons_cons.mpr ⟨fun g' hboth => hg ?_, h⟩
      exact hboth.2.trans hboth.1.symm
  · exact .singleton _

/-- The runs that steps are grouped in are such a cut. -/
theorem segments_ofSteps (xs : List Step) : Segments xs (ofSteps xs) := by
  refine ⟨flatMap_ofSteps xs, ?_, uniform_ofSteps xs, ?_⟩
  · induction xs with
    | nil => simp [ofSteps]
    | cons x xs ih => exact filled_push ih
  · induction xs with
    | nil => exact .nil
    | cons x xs ih => exact apart_push ih

theorem ofSteps_of_group {g : String} {xs : List Step} (hne : xs ≠ [])
    (h : ∀ s ∈ xs, s.group = some g) : ofSteps xs = [⟨xs, some g⟩] := by
  induction xs with
  | nil => exact absurd rfl hne
  | cons x xs ih =>
    have hx : x.group = some g := h x List.mem_cons_self
    cases xs with
    | nil => simp [ofSteps, push, hx]
    | cons y ys =>
      rw [ofSteps_cons, ih (List.cons_ne_nil y ys) fun s hs => h s (List.mem_cons_of_mem x hs)]
      simp [push, hx]

/-- The steps of one run are grouped in this run. -/
theorem ofSteps_steps {r : StepRun} (hne : r.steps ≠ []) (h : r.Uniform) :
    ofSteps r.steps = [r] := by
  obtain ⟨xs, group⟩ := r
  obtain ⟨hgroup, hsingle⟩ := h
  cases group with
  | some g => exact ofSteps_of_group hne hgroup
  | none =>
    obtain ⟨x, rfl⟩ := List.length_eq_one_iff.mp (hsingle rfl)
    have hx : x.group = none := hgroup x List.mem_cons_self
    simp [ofSteps, push, hx]

theorem Segments.getLast?_group {xs : List Step} {runs : List StepRun} (h : Segments xs runs) :
    xs.getLast?.map Step.group = runs.getLast?.map group := by
  obtain rfl | ⟨init, r, rfl⟩ := runs.eq_nil_or_concat'
  · rw [← h.flatMap]
    rfl
  · have hr : r ∈ init ++ [r] := List.mem_append_right init List.mem_cons_self
    obtain ⟨front, x, hx⟩ := (r.steps.eq_nil_or_concat').resolve_left (h.filled r hr)
    have hgroup : x.group = r.group := (h.uniform r hr).1 x (by simp [hx])
    rw [← h.flatMap, List.flatMap_append, List.flatMap_singleton, hx]
    simp [← List.append_assoc, hgroup]

theorem Segments.head?_group {xs : List Step} {runs : List StepRun} (h : Segments xs runs) :
    xs.head?.map Step.group = runs.head?.map group := by
  cases runs with
  | nil =>
    rw [← h.flatMap]
    rfl
  | cons r runs =>
    obtain ⟨x, rest, hx⟩ := List.exists_cons_of_ne_nil (h.filled r List.mem_cons_self)
    have hgroup : x.group = r.group := (h.uniform r List.mem_cons_self).1 x (by simp [hx])
    rw [← h.flatMap, List.flatMap_cons, hx]
    simp [hgroup]

theorem Segments.tail {xs : List Step} {r : StepRun} {runs : List StepRun}
    (h : Segments xs (r :: runs)) : Segments (runs.flatMap steps) runs where
  flatMap := rfl
  filled r' hr := h.filled r' (List.mem_cons_of_mem r hr)
  uniform r' hr := h.uniform r' (List.mem_cons_of_mem r hr)
  apart := (List.isChain_cons.mp h.apart).2

/-- No group goes on from the steps of the first run to those of the others. -/
theorem Segments.apart_tail {xs : List Step} {r : StepRun} {runs : List StepRun}
    (h : Segments xs (r :: runs)) : Step.Apart r.steps (runs.flatMap steps) := by
  intro x hx y hy hsome hsame
  have hxgroup : x.group = r.group :=
    (h.uniform r List.mem_cons_self).1 x (List.mem_of_getLast? hx)
  have hhead := h.tail.head?_group
  rw [hy, Option.map_some, eq_comm, Option.map_eq_some_iff] at hhead
  obtain ⟨next, hnext, hygroup⟩ := hhead
  obtain ⟨g, hg⟩ := Option.isSome_iff_exists.mp hsome
  refine (List.isChain_cons.mp h.apart).1 next hnext g ⟨hxgroup ▸ hg, ?_⟩
  rw [hygroup, ← hsame, hg]

theorem Segments.eq_ofSteps {xs : List Step} {runs : List StepRun} (h : Segments xs runs) :
    runs = ofSteps xs := by
  induction runs generalizing xs with
  | nil =>
    rw [← h.flatMap]
    rfl
  | cons r runs ih =>
    have hr : r ∈ r :: runs := List.mem_cons_self
    rw [← h.flatMap, List.flatMap_cons, ofSteps_append h.apart_tail,
      ofSteps_steps (h.filled r hr) (h.uniform r hr), ← ih h.tail]
    rfl

/-- Where runs of steps are put one behind the other, no group goes on. -/
theorem apart_of_append {xs ys : List Step}
    (h : ofSteps (xs ++ ys) = ofSteps xs ++ ofSteps ys) : Step.Apart xs ys := by
  intro x hx y hy hsome hsame
  obtain ⟨g, hg⟩ := Option.isSome_iff_exists.mp hsome
  have hlast := (segments_ofSteps xs).getLast?_group
  have hhead := (segments_ofSteps ys).head?_group
  rw [hx, Option.map_some, eq_comm, Option.map_eq_some_iff] at hlast
  rw [hy, Option.map_some, eq_comm, Option.map_eq_some_iff] at hhead
  obtain ⟨r, hr, hrgroup⟩ := hlast
  obtain ⟨next, hnext, hngroup⟩ := hhead
  have hchain := (segments_ofSteps (xs ++ ys)).apart
  rw [h] at hchain
  refine (List.isChain_append.mp hchain).2.2 r hr next hnext g ⟨?_, ?_⟩
  · rw [hrgroup, hg]
  · rw [hngroup, ← hsame, hg]

/-- Steps are grouped in the only runs that they can be cut into, and a run ends just where a step
and the next one are not of one group. -/
theorem grouped_uniquely :
    (∀ steps runs, Segments steps runs ↔ runs = ofSteps steps) ∧
      ∀ xs ys, ofSteps (xs ++ ys) = ofSteps xs ++ ofSteps ys ↔ Step.Apart xs ys := by
  refine ⟨fun steps runs => ⟨Segments.eq_ofSteps, ?_⟩,
    fun xs ys => ⟨apart_of_append, ofSteps_append⟩⟩
  rintro rfl
  exact segments_ofSteps steps

end StepRun
end Walkthrough
