import Walkthrough.Proofs.Query
import Walkthrough.Proofs.Turn

/-! The elements that checks look at where they name none themselves. -/
namespace Walkthrough

/-- A check of an element that leaves it to its step to say of which one. -/
structure Check.Inherits (c : Check) : Prop where
  known : c.kind.isKnown = true
  onElement : c.kind.targetsPage = false
  noSelector : c.selector.filter (· ≠ "") = none
  noIndex : c.index = none

variable {ctx c : Context} {s : Step} {number : Option Nat} {q : Query} {query : Option Query}

/-- In a turn with a number the step looks for its own index, or else for that number. -/
theorem Step.Turn.index {n : Nat} (h : s.Turn ctx (some n) query c) (hq : query = some q) :
    q.index = some (s.index.getD n : Int) := by
  cases h with
  | repetition _ hs _ =>
    have hi := Query.index_ofStep? hs
    cases hx : s.index <;> simp only [hx] at hq hi <;> cases hq
    · rfl
    · exact hi
  | pass group _ =>
    have hi := Query.index_ofStep? hq
    cases hx : s.index <;> rw [hx] at hi <;> exact hi

/-- The context says which match to look at: that of the turn, or what it said before the run. -/
theorem Step.Turn.number_of_context (h : s.Turn ctx number query c) :
    (number = none ∧ c = ctx) ∨
      ∃ n : Nat, number = some n ∧ c.inIteration = true ∧ c.iterationIndex = .int n := by
  cases h with
  | once => exact Or.inl ⟨rfl, rfl⟩
  | repetition => exact Or.inr ⟨_, rfl, by simp, by simp⟩
  | pass => exact Or.inr ⟨_, rfl, by simp, by simp⟩

/-- A check that inherits its element looks at the match that the context asks for. -/
theorem Check.Inherits.scope_eq {check : Check} (hi : check.Inherits) (q : Query) (c : Context) :
    check.scope (some q) c =
      if c.inIteration then (contextIndex c.iterationIndex).map fun n => some (q.withIndex n)
      else .ok (some q) := by
  simp only [scope, hi.noSelector, hi.noIndex]

theorem Query.withIndex_eq_self {index : Option Int} : q.withIndex index = q ↔ q.index = index :=
  ⟨fun h => h ▸ rfl, fun h => h ▸ rfl⟩

theorem Check.Inherits.scope_eq_self_iff {check : Check} (hi : check.Inherits) (q : Query)
    (c : Context) :
    check.scope (some q) c = .ok (some q) ↔
      (c.inIteration = true → contextIndex c.iterationIndex = .ok q.index) := by
  rw [hi.scope_eq]
  cases c.inIteration with
  | false => simp
  | true =>
    cases contextIndex c.iterationIndex with
    | error e => simp [Except.map]
    | ok n =>
      simp only [if_true, Except.map, Except.ok.injEq, Option.some.injEq, true_implies]
      rw [Query.withIndex_eq_self, eq_comm]

/-- A run does nothing but the turns of its steps. In a turn without a number the checks that
inherit their element look at the one that the action was done to unless the context of the run
names another; in a turn with a number, unless the step has an index of its own and that is
another number. -/
theorem Scenario.inherited_scope_iff {steps : List Step} :
    (∀ once once' : Runner, (∀ s ∈ steps, s.SameTurns once once' ctx) →
      driveBy once steps ctx = driveBy once' steps ctx) ∧
    ∀ s ∈ steps, ∀ number q c, s.Turn ctx number (some q) c →
      ∀ check ∈ s.checks, check.Inherits →
        (check.scope (some q) c = .ok (some q) ↔
          match number with
          | none => ctx.inIteration = true →
              Check.contextIndex ctx.iterationIndex = .ok q.index
          | some n => s.index = none ∨ s.index = some n) := by
  refine ⟨fun _ _ => driveBy_congr, ?_⟩
  intro s _ number q c ht check _ hi
  rw [hi.scope_eq_self_iff]
  obtain ⟨rfl, rfl⟩ | ⟨n, rfl, hin, hn⟩ := ht.number_of_context
  · exact Iff.rfl
  · have hq := ht.index rfl
    rw [hin, hn, hq]
    simp only [Check.contextIndex, Except.ok.injEq, Option.some.injEq, true_implies]
    cases s.index with
    | none => simp
    | some own =>
      simp only [Option.getD_some, reduceCtorEq, false_or, Option.some.injEq]
      omega

/-- In the second pass of a group a step without an index has its check look at its own element. -/
theorem Scenario.inherited_scope_second_pass :
    let check : Check := { kind := .visible }
    let s : Step :=
      { action := .click, selector := some ".card", group := some "cards", checks := [check] }
    let c := ({} : Context).repetition 1 3 (some "cards")
    s.Turn {} (some 1) (some ⟨".card", "css", some 1⟩) c ∧ check.Inherits ∧
      check.scope (some ⟨".card", "css", some 1⟩) c = .ok (some ⟨".card", "css", some 1⟩) := by
  intro check s c
  have hi : check.Inherits := ⟨rfl, rfl, rfl, rfl⟩
  have ht : s.Turn {} (some 1) (some ⟨".card", "css", some 1⟩) c :=
    Step.Turn.pass (some "cards") (by decide)
  have hs : s ∈ [s] := List.mem_cons_self
  have h := Scenario.inherited_scope_iff.2 s hs _ _ _ ht check List.mem_cons_self hi
  exact ⟨ht, hi, h.mpr (Or.inl rfl)⟩

/-- A step that is held at its second element has its check look at the first one. -/
theorem Scenario.inherited_scope_of_pinned :
    let check : Check := { kind := .visible }
    let s : Step :=
      { action := .click, selector := some ".item", index := some 1, iterate := true,
        checks := [check] }
    let c := ({} : Context).repetition 0 1 none
    s.Turn {} (some 0) (some ⟨".item", "css", some 1⟩) c ∧ check.Inherits ∧
      check.scope (some ⟨".item", "css", some 1⟩) c = .ok (some ⟨".item", "css", some 0⟩) := by
  intro check s c
  have ht : s.Turn {} (some 0) (some ⟨".item", "css", some 1⟩) c :=
    Step.Turn.repetition rfl rfl (by decide)
  exact ⟨ht, ⟨rfl, rfl, rfl, rfl⟩, rfl⟩

end Walkthrough
