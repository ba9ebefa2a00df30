import Walkthrough.Plugin.Registry

/-! What stands in the tables of handlers. -/
namespace Walkthrough.Plugins

variable {α : Type} {A : Handler Step → Prop} {C : Handler Check → Prop} {p p' : Plugins}

/-- What is found under a name stands in the table. -/
theorem mem_of_lookUp {table : List (String × α)} {kind : String} {name : Option String} {a : α}
    (h : lookUp table kind name = .ok a) : ∃ n, (n, a) ∈ table := by
  unfold lookUp at h
  split at h
  · cases h
  · split at h
    · rename_i n hfound
      cases h
      exact ⟨_, List.mem_of_find?_eq_some hfound⟩
    · cases h

theorem mem_putEntry {table : List (String × α)} {name : String} {a : α} {x : String × α}
    (h : x ∈ putEntry table name a) : x.2 = a ∨ x ∈ table := by
  induction table with
  | nil =>
    rw [List.mem_singleton.mp h]
    exact Or.inl rfl
  | cons y rest ih =>
    unfold putEntry at h
    split at h
    · rcases List.mem_cons.mp h with rfl | h
      · exact Or.inl rfl
      · exact Or.inr (List.mem_cons_of_mem y h)
    · rcases List.mem_cons.mp h with rfl | h
      · exact Or.inr List.mem_cons_self
      · exact (ih h).imp_right (List.mem_cons_of_mem y)

/-- All handlers in the two tables have a property. -/
structure All (A : Handler Step → Prop) (C : Handler Check → Prop) (p : Plugins) : Prop where
  actions : ∀ x ∈ p.actions, A x.2
  checks : ∀ x ∈ p.checks, C x.2

theorem All.action (hp : p.All A C) {name : Option String} {h : Handler Step}
    (hfound : p.action name = .ok h) : A h := by
  obtain ⟨n, hn⟩ := mem_of_lookUp hfound
  exact hp.actions _ hn

theorem All.check (hp : p.All A C) {name : Option String} {h : Handler Check}
    (hfound : p.check name = .ok h) : C h := by
  obtain ⟨n, hn⟩ := mem_of_lookUp hfound
  exact hp.checks _ hn

/-- The handler that is registered has the property of its kind. -/
def Registers (A : Handler Step → Prop) (C : Handler Check → Prop) : Registration → Prop
  | .action _ h => A h
  | .check _ h => C h

theorem All.register {r : Registration} (hp : p.All A C) (hr : Registers A C r)
    (h : p.register r = .ok p') : p'.All A C := by
  unfold Plugins.register at h
  split at h
  · cases h
  · cases r with
    | action name handler =>
      cases h
      refine ⟨fun x hx => ?_, hp.checks⟩
      rcases mem_putEntry hx with hx | hx
      · rw [hx]
        exact hr
      · exact hp.actions x hx
    | check name handler =>
      cases h
      refine ⟨hp.actions, fun x hx => ?_⟩
      rcases mem_putEntry hx with hx | hx
      · rw [hx]
        exact hr
      · exact hp.checks x hx

theorem All.registerAll {rs : List Registration} (hp : p.All A C)
    (hrs : ∀ r ∈ rs, Registers A C r) : (p.registerAll rs).1.All A C := by
  induction rs generalizing p with
  | nil => exact hp
  | cons r rest ih =>
    unfold Plugins.registerAll
    split
    · rename_i p' hreg
      exact ih (hp.register (hrs r List.mem_cons_self) hreg)
        fun r' hr' => hrs r' (List.mem_cons_of_mem r hr')
    · exact hp

theorem findModule_offers {modules : Modules} {name : String} {rs : List Registration}
    (h : findModule modules name = .ok (.offers rs)) : modules name = some (.offers rs) := by
  unfold findModule at h
  split at h
  · rename_i m hm
    cases h
    exact hm
  · split at h
    · cases h
    · cases h
    · split at h <;> cases h
    · cases h

section Modules

variable {modules : Modules}
  (hmodules : ∀ name rs, modules name = some (.offers rs) → ∀ r ∈ rs, Registers A C r)
include hmodules

theorem All.loadOne (hp : p.All A C) (name : String) : (p.loadOne modules name).1.All A C := by
  unfold Plugins.loadOne
  split
  · exact hp
  · exact hp
  · rename_i rs hfound
    exact hp.registerAll (hmodules name rs (findModule_offers hfound))

theorem All.load (hp : p.All A C) (names : List String) : (load modules p names).1.All A C := by
  induction names generalizing p with
  | nil => exact hp
  | cons name rest ih =>
    have hone := hp.loadOne hmodules name
    unfold Plugins.load
    split
    · rename_i p' hp'
      rw [hp'] at hone
      exact ih hone
    · rename_i p' e hp'
      rw [hp'] at hone
      exact hone

/-- Handlers have what everything that they are built from has. -/
theorem all_build {first : List Registration} (hfirst : ∀ r ∈ first, Registers A C r)
    {names : List String} (h : build first modules names = .ok p) : p.All A C := by
  have hregistered : (({} : Plugins).registerAll first).1.All A C :=
    All.registerAll ⟨by simp, by simp⟩ hfirst
  have hloaded := hregistered.load hmodules names
  unfold build at h
  dsimp only at h
  split at h
  · cases h
  · split at h
    · rename_i p' hp'
      rw [hp'] at hloaded
      cases h
      exact ⟨hloaded.actions, hloaded.checks⟩
    · cases h

end Modules

end Walkthrough.Plugins
