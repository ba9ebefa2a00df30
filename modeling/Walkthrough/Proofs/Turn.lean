import Walkthrough.Proofs.Act
import Walkthrough.Proofs.Context
import Walkthrough.Proofs.Grouping

/-!
Turns: the single executions of steps in a run, and the elements that inherited checks look at.
-/
namespace Walkthrough

/-- The ways in which a step comes to be run: once, in a repetition of its own, or in a pass of its
group. `number` is that of the repetition or the pass, `ctx` the context of the whole run. -/
inductive Step.Turn (ctx : Context) (s : Step) : Option Nat → Option Query → Context → Prop
  | once (h : s.iterate = false ∨ Query.ofStep? s none = none) :
    Turn ctx s none (Query.ofStep? s none) ctx
  | repetition {q : Query} {total index : Nat} (hi : s.iterate = true)
    (hq : Query.ofStep? s none = some q) (hn : index < total) :
    Turn ctx s (some index) (some (if s.index.isSome then q else q.withIndex (some index)))
      (ctx.repetition index total none)
  | pass {total index : Nat} (group : Option String) (hn : index < total) :
    Turn ctx s (some index) (Query.ofStep? s (some index)) (ctx.repetition index total group)

section Congruence

variable {once once' : Runner} {ctx : Context}

/-- Two ways of running steps once are the same in all turns of a step. -/
def Step.SameTurns (once once' : Runner) (ctx : Context) (s : Step) : Prop :=
  ∀ number q c, s.Turn ctx number q c → once s q c = once' s q c

theorem Step.runBy_congr {s : Step} (h : s.SameTurns once once' ctx) :
    s.runBy once ctx = s.runBy once' ctx := by
  unfold runBy
  split
  · rename_i q hi hq
    have hr : ∀ total, ∀ index ∈ List.range total,
        s.repetition once q ctx total index = s.repetition once' q ctx total index := by
      intro total index hn
      have ht := h _ _ _ (Turn.repetition hi hq (List.mem_range.mp hn))
      simp only [repetition, ht]
    unfold runForEach
    congr 1
    funext total
    split
    · rfl
    · exact Act.each_congr (hr total)
  · rename_i hne
    apply h _ _ _ (Turn.once ?_)
    cases hi : s.iterate with
    | false => exact Or.inl rfl
    | true =>
      cases hq : Query.ofStep? s none with
      | none => exact Or.inr rfl
      | some q => exact (hne q hi hq).elim

/-- The query of a step in a pass is its own one, with the number of the pass in reserve. -/
theorem StepRun.scopedQuery_bind {α : Type} (r : StepRun) (s : Step) (index total : Nat)
    (f : Option Query → Run α) :
    Act.bind (r.scopedQuery s index total) f =
      Act.bind (r.scopedQuery s index total) fun _ => f (Query.ofStep? s (some index)) := by
  unfold scopedQuery
  cases hq : Query.ofStep? s (some index) with
  | none => rfl
  | some q =>
    simp only [Act.bind_eq, Act.pure_eq]
    split <;> simp only [Act.bind_assoc, Act.pure_bind]

theorem StepRun.passStep_congr {r : StepRun} {s : Step} (h : s.SameTurns once once' ctx)
    {total index : Nat} (hn : index < total) :
    r.passStep once ctx total index s = r.passStep once' ctx total index s := by
  have ht := h _ _ _ (Step.Turn.pass r.group hn)
  unfold passStep
  simp only [Act.bind_eq]
  rw [scopedQuery_bind, scopedQuery_bind r s index total fun q => once' s q _, ht]

theorem StepRun.runBy_congr {r : StepRun} (h : ∀ s ∈ r.steps, s.SameTurns once once' ctx) :
    r.runBy once ctx = r.runBy once' ctx := by
  have hs : Act.each r.steps (fun s => s.runBy once ctx) =
      Act.each r.steps fun s => s.runBy once' ctx :=
    Act.each_congr fun s hs => Step.runBy_congr (h s hs)
  have hp : ∀ total, ∀ index ∈ List.range total,
      r.pass once ctx total index = r.pass once' ctx total index := fun total index hn =>
    Act.each_congr fun s hs => passStep_congr (h s hs) (List.mem_range.mp hn)
  unfold runBy
  rw [hs]
  split
  · rfl
  · split
    · rfl
    · congr 1
      funext total
      rw [Act.each_congr (hp total)]

/-- A run does nothing but the turns of its steps. -/
theorem Scenario.driveBy_congr {steps : List Step}
    (h : ∀ s ∈ steps, s.SameTurns once once' ctx) :
    driveBy once steps ctx = driveBy once' steps ctx := by
  have hruns : ∀ r ∈ StepRun.ofSteps steps, ∀ s ∈ r.steps, s.SameTurns once once' ctx := by
    intro r hr s hs
    apply h
    rw [← StepRun.flatMap_ofSteps steps]
    exact List.mem_flatMap.mpr ⟨r, hr, hs⟩
  unfold driveBy
  generalize StepRun.ofSteps steps = runs at hruns ⊢
  induction runs with
  | nil => rfl
  | cons r rest ih =>
    have hr := hruns r List.mem_cons_self
    have hpart : runPart once ctx r = runPart once' ctx r := by
      unfold runPart
      rw [StepRun.runBy_congr hr, Act.each_congr fun s hs => Step.runBy_congr (hr s hs)]
    simp only [runParts, hpart, ih fun r' hr' => hruns r' (List.mem_cons_of_mem r hr')]

end Congruence
end Walkthrough
