import Walkthrough.Proofs.Answers
import Walkthrough.Proofs.Json.Reread
import Walkthrough.Proofs.Spelling

/-!
Scenarios on their way from a request to the run that is started for it: they travel as the text of a
variable, and the run loads from that text what the server loaded.
-/
namespace Walkthrough

open Schema Schema.Checked

/-! Variables. -/

namespace Environment

theorem find?_set (vars : List (String × String)) (name value : String) :
    (set vars name value).find? (·.1 == name) = some (name, value) := by
  induction vars with
  | nil => simp [set]
  | cons v vars ih =>
    by_cases hname : v.1 = name
    · simp [set, hname]
    · simp [set, hname, ih]

theorem find?_erase (vars : List (String × String)) (name : String) :
    (erase vars name).find? (·.1 == name) = none := by
  simp [erase]

end Environment

/-! The source of a scenario. -/

namespace Scenario

/-- The scenario as one of another source. -/
def withSource (scn : Scenario) (source : String) : Scenario := { scn with source := some source }

section Source

variable {ms : Members} {source other : String} {scn : Scenario}

theorem find?_source (ms : Members) (v : Json) :
    sourceField.find? (ms.put "source" v) = some ("source", v) := by
  simp [Field.find?, Field.spellings, sourceField, Members.get?_put]

theorem find?_of_other_source {f : Field} (h : "source" ∉ f.spellings) (ms : Members)
    (v w : Json) : f.find? (ms.put "source" v) = f.find? (ms.put "source" w) := by
  rw [Field.find?_put h, Field.find?_put h]

theorem readSteps_put (ms : Members) (v w : Json) :
    readSteps (ms.put "source" v) = readSteps (ms.put "source" w) := by
  unfold readSteps
  rw [find?_of_other_source (by decide) ms v w]

/-- Which keys spell a field does not depend on what the source is called. -/
theorem spells_put (ms : Members) (v w : Json) (key : String) :
    spells fields (ms.put "source" v) key = spells fields (ms.put "source" w) key := by
  have hsource : ∀ u, ((sourceField.find? (ms.put "source" u)).any fun m => m.1 == key) =
      ("source" == key) := by
    intro u
    rw [find?_source]
    rfl
  simp only [spells, fields, List.any_cons, List.any_nil, hsource]
  rw [find?_of_other_source (f := descriptionField) (by decide) ms v w,
    find?_of_other_source (f := enabledField) (by decide) ms v w,
    find?_of_other_source (f := stepsField) (by decide) ms v w]

theorem noOthers_put (ms : Members) (v w : Json) :
    noOthers fields (ms.put "source" v) = noOthers fields (ms.put "source" w) := by
  unfold noOthers
  simp only [Members.keys_put, spells_put ms v w]

theorem readFields_put {steps : List Step}
    (h : readFields steps (ms.put "source" (.str source)) = good scn) :
    readFields steps (ms.put "source" (.str other)) = good (scn.withSource other) := by
  obtain ⟨_, _, h₁, -, rfl⟩ := seq_eq_good.mp h
  obtain ⟨_, testSteps, h₂, hsteps, rfl⟩ := seq_eq_good.mp h₁
  obtain ⟨_, enabled, h₃, henabled, rfl⟩ := seq_eq_good.mp h₂
  obtain ⟨description, hdescription, rfl⟩ := map_eq_good.mp h₃
  have hsource : sourceField.optional (nullOr text) none (ms.put "source" (.str other)) =
      good (some other) :=
    Field.optional_eq_good.mpr (.inl ⟨_, find?_source ms _, rfl⟩)
  unfold Field.required at hdescription
  unfold Field.optional at henabled hsteps
  rw [find?_of_other_source (by decide) ms _ (.str other)] at hdescription henabled hsteps
  refine seq_eq_good.mpr ⟨_, _, seq_eq_good.mpr ⟨_, _, seq_eq_good.mpr ⟨_, _, map_eq_good.mpr
    ⟨_, hdescription, rfl⟩, henabled, rfl⟩, hsteps, rfl⟩, hsource, rfl⟩

theorem read_put (h : read (.obj (ms.put "source" (.str source))) = .ok scn) :
    read (.obj (ms.put "source" (.str other))) = .ok (scn.withSource other) := by
  obtain ⟨steps, hsteps, h⟩ := except_bind_eq_ok.mp h
  obtain ⟨hfields, hothers⟩ := model_eq_good.mp (Step.ofChecked_eq_ok.mp h)
  refine except_bind_eq_ok.mpr ⟨steps, (readSteps_put ms _ _).trans hsteps, ?_⟩
  exact Step.ofChecked_eq_ok.mpr (model_eq_good.mpr
    ⟨readFields_put hfields, (noOthers_put ms _ _).trans hothers⟩)

theorem Loads.withSource {document : Json} (h : Loads source document scn) (other : String) :
    Loads other document (scn.withSource other) := by
  obtain ⟨ms, rfl, hread⟩ := h
  exact ⟨ms, rfl, read_put hread⟩

/-- A text that holds scenarios holds them under any name. -/
theorem Holds.withSource {text : String} {scenarios : List Scenario}
    (h : Holds source text scenarios) (other : String) :
    Holds other text (scenarios.map fun scn => scn.withSource other) := by
  obtain ⟨v, hread, hloads⟩ := h
  refine ⟨v, hread, List.forall₂_map_right_iff.mpr ?_⟩
  exact hloads.imp fun document scn hscn => hscn.withSource other

end Source

/-- The text of a variable goes before every file. -/
theorem ofSources_inline {σ : Type} {disk : Disk} {env : Environment} {dir : Path}
    {file : Option String} {text : String} {scenarios : List Scenario}
    (hget : env.get? inlineVariable = some text) (hholds : Holds inlineVariable text scenarios)
    (st : σ) : ofSources disk env dir file st = ⟨.ok scenarios, st, [], []⟩ := by
  have hne : text ≠ "" := by
    rintro rfl
    obtain ⟨v, hread, -⟩ := hholds
    cases hread
  unfold ofSources
  rw [hget, Option.filter_some, if_pos (by simpa using hne)]
  simp only [ofText_eq_ok.mpr hholds]
  rfl

end Scenario

namespace Trigger

/-- What a process finds around it, wherever it is started. -/
def Child.environment (c : Child) (cwd : Path) (homes : List (String × String)) : Environment :=
  ⟨c.vars, cwd, homes⟩

section Child

variable {s : Server} {r : Request} {body : Members} {c : Child}

theorem launch_child (s : Server) (id : String) (c : Child) :
    (s.launch id c).child = some c := by
  unfold Server.launch
  split <;> rfl

theorem childOf_of_child (hrun : r.AsksForRun) (hbody : Brings r.document? body) {id : String}
    (h : (s.respond id r).child = some c) : s.childOf body = .ok c := by
  rw [respond_eq hrun hbody] at h
  split at h
  · rename_i started hchild
    rw [launch_child] at h
    cases h
    exact hchild
  · cases h
  · cases h

/-- A process is started with the variables of this one, among them no scenarios but those that were
brought. -/
theorem vars_of_childOf (h : s.childOf body = .ok c) :
    ∃ env headless found, inlineScenarios body = .ok found ∧
      c.vars = childVars s.environment env headless found := by
  obtain ⟨found, hfound, h⟩ := except_bind_eq_ok.mp h
  obtain ⟨_, -, h⟩ := except_bind_eq_ok.mp h
  cases h
  exact ⟨_, _, found, hfound, rfl⟩

theorem get?_inline {environment : Environment} {env : String} {headless : Option Bool}
    {found : Option String} (h : c.vars = childVars environment env headless found) (cwd : Path)
    (homes : List (String × String)) :
    (c.environment cwd homes).get? Scenario.inlineVariable = found := by
  unfold Environment.get? Child.environment
  rw [h]
  unfold childVars
  cases found with
  | none => simp only [Environment.find?_erase, Option.map_none]
  | some text => simp only [Environment.find?_set, Option.map_some]

theorem inlineScenarios_of_null (h : (body.get? "scenarios").getD .null = .null) :
    inlineScenarios body = .ok none :=
  (Inline.nothing h).inlineScenarios

/-- What is taken for scenarios was loaded, as a request's, from the text that is handed on. -/
theorem of_inlineScenarios {v : Json} {found : Option String}
    (hget : body.get? "scenarios" = some v) (hnull : v ≠ .null)
    (h : inlineScenarios body = .ok found) :
    ∃ scenarios, found = some (v.render true) ∧
      Scenario.ofText "request" "request" (v.render true) = .ok scenarios := by
  cases hparts : v.holdsParts with
  | false =>
    rw [inlineScenarios_of_other hget hnull hparts] at h
    cases h
  | true =>
    rw [inlineScenarios_eq hget hparts] at h
    cases hload : Scenario.ofText "request" "request" (v.render true) with
    | ok scenarios =>
      rw [hload] at h
      cases h
      exact ⟨scenarios, rfl, rfl⟩
    | error u =>
      rw [hload] at h
      cases u <;> cases h

/-- What a request brings can be read again. -/
theorem rereadable_of_brings {v : Json} (hbody : Brings r.document? body)
    (hget : body.get? "scenarios" = some v) : v.Rereadable := by
  generalize hfound : r.document? = found at hbody
  cases hbody with
  | object =>
    unfold Request.document? at hfound
    split at hfound
    · have hread := toOption_eq_some.mp hfound
      exact (Json.rereadable_of_read hread).member (Members.mem_of_get? hget)
    · cases hfound
  | falsy => cases hget
  | unread => cases hget

end Child

end Trigger
end Walkthrough
