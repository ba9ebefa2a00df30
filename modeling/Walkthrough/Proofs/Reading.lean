import Walkthrough.Proofs.Result
import Walkthrough.Scenario.Reader

/-!
What is read from documents: when a reading comes to its end, each part of what was read is what the
reader of its field makes of the member that spells the field, or the field's default.
-/
namespace Walkthrough

theorem forall₂_mem_right {α β : Type} {R : α → β → Prop} {as : List α} {bs : List β}
    (h : List.Forall₂ R as bs) {b : β} (hb : b ∈ bs) : ∃ a ∈ as, R a b := by
  induction h with
  | nil => cases hb
  | cons hab _ ih =>
    rcases List.mem_cons.mp hb with rfl | hb
    · exact ⟨_, List.mem_cons_self, hab⟩
    · obtain ⟨a, ha, hr⟩ := ih hb
      exact ⟨a, List.mem_cons_of_mem _ ha, hr⟩

namespace Schema

variable {α β : Type} {a : α} {b : β} {x : Checked α}

namespace Checked

theorem map_eq_good {f : α → β} : f <$> x = good b ↔ ∃ a, x = good a ∧ f a = b := by
  constructor
  · intro h
    cases x with
    | good a => exact ⟨a, rfl, good.inj h⟩
    | bad ps => cases h
  · rintro ⟨a, rfl, rfl⟩
    rfl

/-- Both sides are good where their combination is. -/
theorem seq_eq_good {f : Checked (α → β)} :
    f <*> x = good b ↔ ∃ g a, f = good g ∧ x = good a ∧ g a = b := by
  constructor
  · intro h
    cases f with
    | good g =>
      cases x with
      | good a => exact ⟨g, a, rfl, rfl, good.inj h⟩
      | bad ps => cases h
    | bad ps => cases x <;> cases h
  · rintro ⟨g, a, rfl, rfl, rfl⟩
    rfl

theorem andThen_eq_good {f : α → Checked β} :
    x.andThen f = good b ↔ ∃ a, x = good a ∧ f a = good b := by
  constructor
  · intro h
    cases x with
    | good a => exact ⟨a, rfl, h⟩
    | bad ps => cases h
  · rintro ⟨a, rfl, h⟩
    exact h

theorem under_eq_good {p : Place} : x.under p = good a ↔ x = good a := by
  cases x with
  | good a => exact Iff.rfl
  | bad ps => exact ⟨fun h => (by cases h), fun h => (by cases h)⟩

theorem require_eq_good {condition : Bool} {message : String} {a' : α} :
    require condition message a = good a' ↔ condition = true ∧ a = a' := by
  unfold require
  cases condition with
  | true => exact ⟨fun h => ⟨rfl, good.inj h⟩, fun h => congrArg good h.2⟩
  | false => exact ⟨fun h => (by cases h), fun h => (by cases h.1)⟩

/-- A list is read item by item. -/
theorem itemsFrom_eq_good {read : α → Checked β} {n : Nat} {vs : List α} {bs : List β} :
    itemsFrom read n vs = good bs ↔ List.Forall₂ (fun v b => read v = good b) vs bs := by
  induction vs generalizing n bs with
  | nil =>
    rw [List.forall₂_nil_left_iff]
    exact ⟨fun h => (good.inj h).symm, fun h => congrArg good h.symm⟩
  | cons v vs ih =>
    simp only [itemsFrom, seq_eq_good, map_eq_good, under_eq_good, ih, List.forall₂_cons_left_iff]
    constructor
    · rintro ⟨_, bs, ⟨b, hb, rfl⟩, hbs, rfl⟩
      exact ⟨b, bs, hb, hbs, rfl⟩
    · rintro ⟨b, bs, hb, hbs, rfl⟩
      exact ⟨_, bs, ⟨b, hb, rfl⟩, hbs, rfl⟩

end Checked

open Checked

/-- Each item of a list that was read was read from an item of the document. -/
theorem exists_of_mem_list {read : Json → Checked α} {v : Json} {as : List α}
    (h : list read v = good as) (ha : a ∈ as) : ∃ item, read item = good a := by
  cases v with
  | arr vs =>
    have hitems : List.Forall₂ (fun v a => read v = good a) vs as := itemsFrom_eq_good.mp h
    obtain ⟨item, -, hitem⟩ := forall₂_mem_right hitems ha
    exact ⟨item, hitem⟩
  | _ => cases h

theorem Field.optional_eq_good {f : Field} {read : Json → Checked α} {default : α} {ms : Members} :
    f.optional read default ms = good a ↔
      (∃ m, f.find? ms = some m ∧ read m.2 = good a) ∨ f.find? ms = none ∧ default = a := by
  unfold Field.optional
  cases f.find? ms with
  | none =>
    simp only [reduceCtorEq, false_and, exists_false, true_and, false_or]
    exact ⟨good.inj, congrArg good⟩
  | some m => simp [under_eq_good]

theorem Field.required_eq_good {f : Field} {read : Json → Checked α} {ms : Members} :
    f.required read ms = good a ↔ ∃ m, f.find? ms = some m ∧ read m.2 = good a := by
  unfold Field.required
  cases f.find? ms with
  | none => simp [under_eq_good, fail]
  | some m => simp [under_eq_good]

/-- What a field's reader and its default have in common holds of the field. -/
theorem Field.of_optional {f : Field} {read : Json → Checked α} {default : α} {ms : Members}
    {P : α → Prop} (h : f.optional read default ms = good a)
    (hread : ∀ v a, read v = good a → P a) (hdefault : P default) : P a := by
  obtain ⟨m, -, hm⟩ | ⟨-, rfl⟩ := Field.optional_eq_good.mp h
  · exact hread m.2 a hm
  · exact hdefault

theorem model_eq_good {fields : List Field} {read : Members → Checked α} {ms : Members} :
    model fields read ms = good a ↔ read ms = good a ∧ noOthers fields ms = good () := by
  simp only [model, seq_eq_good, map_eq_good]
  constructor
  · rintro ⟨_, ⟨⟩, ⟨a, ha, rfl⟩, hothers, rfl⟩
    exact ⟨ha, hothers⟩
  · rintro ⟨ha, hothers⟩
    exact ⟨_, (), ⟨a, ha, rfl⟩, hothers, rfl⟩

theorem submodel_eq_good {read : Members → Checked α} {v : Json} :
    submodel read v = good a ↔ ∃ ms, v = .obj ms ∧ read ms = good a := by
  cases v with
  | obj ms =>
    constructor
    · exact fun h => ⟨ms, rfl, h⟩
    · rintro ⟨_, ⟨⟩, h⟩
      exact h
  | _ => exact ⟨fun h => (by cases h), fun ⟨_, hv, _⟩ => (by cases hv)⟩

end Schema

open Schema Schema.Checked

/-- Every field of a check is read by itself. -/
theorem Check.of_readFields {ms : Members} {c : Check} (h : Check.readFields ms = good c) :
    kindField.required (fun v => CheckKind.ofName <$> text v) ms = good c.kind ∧
      selectorField.optional (nullOr text) none ms = good c.selector ∧
      selectorKindField.optional SelectorKind.read .css ms = good c.selectorKind ∧
      indexField.optional readIndex none ms = good c.index ∧
      dataField.optional anything .null ms = good c.data ∧
      softField.optional truth false ms = good c.soft ∧
      messageField.optional (nullOr text) none ms = good c.message ∧
      attributeField.optional (nullOr text) none ms = good c.attributeName ∧
      cssPropertyField.optional (nullOr text) none ms = good c.cssProperty ∧
      customNameField.optional (nullOr text) none ms = good c.customName ∧
      optionsField.optional object [] ms = good c.options := by
  obtain ⟨_, _, h₁, hoptions, rfl⟩ := seq_eq_good.mp h
  obtain ⟨_, _, h₂, hcustom, rfl⟩ := seq_eq_good.mp h₁
  obtain ⟨_, _, h₃, hcss, rfl⟩ := seq_eq_good.mp h₂
  obtain ⟨_, _, h₄, hattribute, rfl⟩ := seq_eq_good.mp h₃
  obtain ⟨_, _, h₅, hmessage, rfl⟩ := seq_eq_good.mp h₄
  obtain ⟨_, _, h₆, hsoft, rfl⟩ := seq_eq_good.mp h₅
  obtain ⟨_, _, h₇, hdata, rfl⟩ := seq_eq_good.mp h₆
  obtain ⟨_, _, h₈, hindex, rfl⟩ := seq_eq_good.mp h₇
  obtain ⟨_, _, h₉, hselectorKind, rfl⟩ := seq_eq_good.mp h₈
  obtain ⟨_, _, h₁₀, hselector, rfl⟩ := seq_eq_good.mp h₉
  obtain ⟨_, hkind, rfl⟩ := map_eq_good.mp h₁₀
  exact ⟨hkind, hselector, hselectorKind, hindex, hdata, hsoft, hmessage, hattribute, hcss,
    hcustom, hoptions⟩

/-- Every field of an upload is read by itself. -/
theorem Upload.of_readFields {ms : Members} {u : Upload} (h : readFields ms = good u) :
    dataField.optional readPaths .none ms = good u.paths ∧
      filesField.optional (list FileEntry.read) [] ms = good u.files ∧
      resolveFromBaseField.optional truth true ms = good u.resolveFromBase ∧
      clearFirstField.optional truth false ms = good u.clearFirst := by
  obtain ⟨_, _, h₁, hclear, rfl⟩ := seq_eq_good.mp h
  obtain ⟨_, _, h₂, hresolve, rfl⟩ := seq_eq_good.mp h₁
  obtain ⟨_, _, h₃, hfiles, rfl⟩ := seq_eq_good.mp h₂
  obtain ⟨_, hpaths, rfl⟩ := map_eq_good.mp h₃
  exact ⟨hpaths, hfiles, hresolve, hclear⟩

namespace Step

/-- Every field of a step is read by itself. -/
theorem of_readFields {action : Members → Checked Action} {ms : Members} {s : Step}
    (h : readFields action ms = good s) :
    nameField.optional text "" ms = good s.name ∧
      selectorField.optional (nullOr text) none ms = good s.selector ∧
      selectorKindField.optional SelectorKind.read .css ms = good s.selectorKind ∧
      waitTimeField.optional readWaitTime none ms = good s.waitTime ∧
      indexField.optional readIndex none ms = good s.index ∧
      iterateField.optional truth false ms = good s.iterate ∧
      groupField.optional readGroup none ms = good s.group ∧
      optionsField.optional object [] ms = good s.options ∧
      checksField.optional (list Check.read) [] ms = good s.checks ∧
      action ms = good s.action := by
  obtain ⟨_, _, h₁, haction, rfl⟩ := seq_eq_good.mp h
  obtain ⟨_, _, h₂, hchecks, rfl⟩ := seq_eq_good.mp h₁
  obtain ⟨_, _, h₃, hoptions, rfl⟩ := seq_eq_good.mp h₂
  obtain ⟨_, _, h₄, hgroup, rfl⟩ := seq_eq_good.mp h₃
  obtain ⟨_, _, h₅, hiterate, rfl⟩ := seq_eq_good.mp h₄
  obtain ⟨_, _, h₆, hindex, rfl⟩ := seq_eq_good.mp h₅
  obtain ⟨_, _, h₇, hwaitTime, rfl⟩ := seq_eq_good.mp h₆
  obtain ⟨_, _, h₈, hselectorKind, rfl⟩ := seq_eq_good.mp h₇
  obtain ⟨_, _, h₉, hselector, rfl⟩ := seq_eq_good.mp h₈
  obtain ⟨_, hname, rfl⟩ := map_eq_good.mp h₉
  exact ⟨hname, hselector, hselectorKind, hwaitTime, hindex, hiterate, hgroup, hoptions, hchecks,
    haction⟩

/-- The rules between the fields of a step are looked at once all of these were read. -/
theorem of_readKind {k : ActionKind} {ms : Members} {s : Step} (h : readKind k ms = good s) :
    readFields (readAction k) ms = good s ∧ noOthers (fields k) ms = good () ∧
      checkIteration s = good s ∧ checkWait s = good s := by
  obtain ⟨s', h, hwait⟩ := andThen_eq_good.mp (under_eq_good.mp h)
  obtain ⟨s'', h, hiteration⟩ := andThen_eq_good.mp h
  obtain ⟨hfields, hothers⟩ := model_eq_good.mp h
  have hs' : s' = s := (require_eq_good.mp hwait).2
  have hs'' : s'' = s' := by
    unfold checkIteration at hiteration
    split at hiteration
    · cases hiteration
    · split at hiteration
      · cases hiteration
      · exact good.inj hiteration
  subst hs' hs''
  exact ⟨hfields, hothers, hiteration, hwait⟩

theorem ofChecked_eq_ok {α : Type} {x : Checked α} {a : α} :
    ofChecked x = .ok a ↔ x = good a := by
  cases x with
  | good a => exact ⟨fun h => congrArg good (Except.ok.inj h), fun h => congrArg _ (good.inj h)⟩
  | bad ps => exact ⟨fun h => (by cases h), fun h => (by cases h)⟩

/-- A step that was read is an object, of a kind that is offered. -/
theorem of_readAmong {offered : List ActionKind} {v : Json} {s : Step}
    (h : readAmong offered v = .ok s) :
    ∃ ms k, v = .obj ms ∧ k ∈ offered ∧ readKind k ms = good s := by
  cases v with
  | obj ms =>
    unfold readAmong at h
    dsimp only at h
    split at h
    · cases h
    · split at h
      · rename_i k _
        rw [ofChecked_eq_ok] at h
        split at h
        · rename_i hoffered
          exact ⟨ms, k, rfl, List.contains_iff_mem.mp hoffered, h⟩
        · cases h
      · cases h
    · cases h
    · cases h
    · cases h
  | _ => cases h

end Step

namespace Scenario

/-- The steps of a scenario were read one by one. -/
theorem steps_of_read {v : Json} {scn : Scenario} (h : read v = .ok scn) {s : Step}
    (hs : s ∈ scn.steps) : ∃ document, Step.read document = .ok s := by
  cases v with
  | obj ms =>
    obtain ⟨steps, hsteps, h⟩ := except_bind_eq_ok.mp h
    obtain ⟨hread, -⟩ := model_eq_good.mp (Step.ofChecked_eq_ok.mp h)
    obtain ⟨_, _, h₁, -, rfl⟩ := seq_eq_good.mp hread
    obtain ⟨_, _, h₂, hfield, rfl⟩ := seq_eq_good.mp h₁
    obtain ⟨_, _, h₃, -, rfl⟩ := seq_eq_good.mp h₂
    obtain ⟨_, -, rfl⟩ := map_eq_good.mp h₃
    have hread : ∀ s ∈ steps, ∃ document, Step.read document = .ok s := by
      intro s hs
      unfold readSteps at hsteps
      split at hsteps
      · obtain ⟨document, -, hdocument⟩ := forall₂_mem_right (forall₂_of_mapM hsteps) hs
        exact ⟨document, hdocument⟩
      · cases hsteps
        cases hs
    refine Field.of_optional (P := fun steps => ∀ s ∈ steps, ∃ document, Step.read document = .ok s)
      hfield (fun v read hv => ?_) (by simp) s hs
    obtain ⟨_, -, rfl⟩ := map_eq_good.mp hv
    exact hread
  | _ => cases h

/-- The document is an object from which, once it says where it comes from, a scenario is read. -/
def Loads (source : String) (document : Json) (scn : Scenario) : Prop :=
  ∃ ms : Members, document = .obj ms ∧ read (.obj (ms.put "source" (.str source))) = .ok scn

theorem ofDocument_eq_ok {source : String} {position : Nat} {document : Json} {scn : Scenario} :
    ofDocument source position document = .ok scn ↔ Loads source document scn := by
  constructor
  · intro h
    unfold ofDocument at h
    split at h
    · rename_i ms
      split at h
      · rename_i hread
        cases h
        exact ⟨ms, rfl, hread⟩
      · cases h
      · cases h
    · cases h
  · rintro ⟨ms, rfl, hread⟩
    simp only [ofDocument, hread]

/-- A list of documents gives a scenario for each of them, in order. -/
theorem ofDocuments_eq_ok {source : String} {n : Nat} {vs : List Json}
    {scenarios : List Scenario} :
    ofDocuments source n vs = .ok scenarios ↔ List.Forall₂ (Loads source) vs scenarios := by
  constructor
  · intro h
    induction vs generalizing n scenarios with
    | nil =>
      cases h
      exact .nil
    | cons v vs ih =>
      obtain ⟨scn, hscn, h⟩ := except_bind_eq_ok.mp h
      obtain ⟨others, hothers, h⟩ := except_bind_eq_ok.mp h
      cases h
      exact .cons (ofDocument_eq_ok.mp hscn) (ih hothers)
  · intro h
    induction h generalizing n with
    | nil => rfl
    | cons hv _ ih =>
      exact except_bind_eq_ok.mpr ⟨_, ofDocument_eq_ok.mpr hv, except_bind_eq_ok.mpr ⟨_, ih, rfl⟩⟩

end Scenario

/-- The documents of a value: the items of a list, or the value itself. -/
def Json.documents : Json → List Json
  | .arr items => items
  | v => [v]

namespace Scenario

theorem ofValue_eq (source : String) (v : Json) :
    ofValue source v = ofDocuments source 0 v.documents := by
  cases v <;> rfl

/-- Every scenario that was loaded was read from an object. -/
theorem read_of_ofValue {source : String} {v : Json} {scenarios : List Scenario}
    (h : ofValue source v = .ok scenarios) {scn : Scenario} (hscn : scn ∈ scenarios) :
    ∃ document, read document = .ok scn := by
  rw [ofValue_eq, ofDocuments_eq_ok] at h
  obtain ⟨document, -, ms, rfl, hread⟩ := forall₂_mem_right h hscn
  exact ⟨_, hread⟩

end Scenario
end Walkthrough
