import Walkthrough.Proofs.Reading
import Walkthrough.Step.Printer

/-!
Loaded steps: what the engine can rely on in every step that was read from a document, with its
checks and its files.
-/
namespace Walkthrough

open Schema Schema.Checked

/-- Null, or a whole number that is not below zero. -/
def Json.IsCount (v : Json) : Prop := v = .null ∨ ∃ n : Int, 0 ≤ n ∧ v = .int n

/-- A text that holds more than white space. -/
def Json.IsTelling (v : Json) : Prop := ∃ s, v = .str s ∧ Text.isBlankText s = false

/-- A selector's kind is one of five, and the number of a match is none or counts from zero. -/
structure Json.Aimed (d : Json) : Prop where
  kind : ∃ k ∈ ["css", "xpath", "id", "text", "testId"], d.get? "selector_type" = some (.str k)
  index : ∃ v, d.get? "index" = some v ∧ v.IsCount

/-- What every loaded check has, as a document: a kind under its present name. -/
structure Check.Fits (d : Json) : Prop extends d.Aimed where
  type : ∃ t, d.get? "type" = some (.str t) ∧ t ∉ CheckKind.formerNames.map (·.1)

/-- What every loaded file entry has, as a document: a path, or else content under a name. -/
inductive FileEntry.Fits (d : Json) : Prop
  | path (p : String) (hpath : d.get? "path" = some (.str p))
    (hcontent : d.get? "content" = some .null)
  | content (text name : String) (hpath : d.get? "path" = some .null)
    (hcontent : d.get? "content" = some (.str text)) (hname : d.get? "name" = some (.str name))
    (hne : name ≠ "")

/-- What every loaded step has, as a document. -/
structure Step.Fits (d : Json) : Prop extends d.Aimed where
  action : ∃ k : ActionKind, d.get? "action" = some (.str k.name)
  waitTime : ∃ v, d.get? "wait_time_ms" = some v ∧ v.IsCount
  iterate : d.get? "iterate" = some (.bool true) →
    (∃ selector, d.get? "selector" = some (.str selector) ∧ selector ≠ "") ∧
      d.get? "iterative_group_id" = some .null
  group : ∃ v, d.get? "iterative_group_id" = some v ∧ (v = .null ∨ v.IsTelling)
  wait : d.get? "action" = some (.str "wait") → d.get? "wait_time_ms" ≠ some .null
  key : d.get? "action" = some (.str "pressKey") → ∃ v, d.get? "data" = some v ∧ v.IsTelling
  files : d.get? "action" = some (.str "upload") →
    ∃ files, d.get? "files" = some (.arr files) ∧ ∀ f ∈ files, FileEntry.Fits f
  checks : ∃ checks, d.get? "validations" = some (.arr checks) ∧ ∀ c ∈ checks, Check.Fits c

theorem Json.isCount_natOption (o : Option Nat) : (Json.natOption o).IsCount := by
  cases o with
  | none => exact Or.inl rfl
  | some n => exact Or.inr ⟨n, Int.natCast_nonneg n, rfl⟩

theorem SelectorKind.name_mem (k : SelectorKind) :
    k.name ∈ ["css", "xpath", "id", "text", "testId"] := by
  cases k <;> decide

/-- A kind is kept under its present name, whatever name was read. -/
theorem CheckKind.name_ofName (s : String) :
    (ofName s).name ∉ formerNames.map (·.1) := by
  have hknown : ∀ k ∈ known, k.name ∉ formerNames.map (·.1) := by decide
  have hpresent : ∀ m ∈ formerNames, m.2.name ∉ formerNames.map (·.1) := by decide
  unfold ofName
  split
  · rename_i k hk
    exact hknown k (List.mem_of_find?_eq_some hk)
  · split
    · rename_i m hm
      exact hpresent m (List.mem_of_find?_eq_some hm)
    · rename_i hnone
      intro hs
      obtain ⟨m, hm, hname⟩ := List.mem_map.mp hs
      exact List.find?_eq_none.mp hnone m hm (beq_iff_eq.mpr hname)

theorem Check.fits_of_read {v : Json} {c : Check} (h : Check.read v = good c) :
    Fits c.toJson := by
  obtain ⟨ms, -, hmodel⟩ := submodel_eq_good.mp h
  obtain ⟨hkind, -⟩ := of_readFields (model_eq_good.mp hmodel).1
  obtain ⟨m, -, hm⟩ := Field.required_eq_good.mp hkind
  obtain ⟨name, -, hname⟩ := map_eq_good.mp hm
  refine ⟨⟨⟨_, c.selectorKind.name_mem, rfl⟩, ⟨_, rfl, Json.isCount_natOption c.index⟩⟩,
    c.kind.name, rfl, ?_⟩
  rw [← hname]
  exact CheckKind.name_ofName name

theorem FileEntry.fits_of_read {v : Json} {f : FileEntry} (h : FileEntry.read v = good f) :
    Fits f.toJson := by
  obtain ⟨ms, -, hmembers⟩ := submodel_eq_good.mp h
  obtain ⟨d, -, hdraft⟩ := andThen_eq_good.mp hmembers
  unfold ofDraft at hdraft
  split at hdraft
  · rename_i p _ _
    cases hdraft
    exact .path p rfl rfl
  · rename_i text _ _
    split at hdraft
    · cases hdraft
    · rename_i hne
      cases hdraft
      cases hname : d.name with
      | none => exact absurd (by rw [hname]; rfl) hne
      | some name =>
        rw [hname] at hne
        exact .content text name rfl rfl (by rfl) hne
  · cases hdraft

namespace Step

variable {ms : Members} {s : Step} {k : ActionKind}

theorem kind_of_readAction {a : Action} (h : readAction k ms = good a) : a.kind? = some k := by
  cases k with
  | click | hover | wait =>
    cases h
    rfl
  | custom =>
    obtain ⟨_, _, h₁, -, rfl⟩ := seq_eq_good.mp h
    obtain ⟨_, -, rfl⟩ := map_eq_good.mp h₁
    rfl
  | _ =>
    obtain ⟨_, -, rfl⟩ := map_eq_good.mp h
    rfl

theorem group_of_readGroup {v : Json} {group : Option String} (h : readGroup v = good group) :
    ∀ g ∈ group, Text.isBlankText g = false := by
  obtain ⟨g, -, rfl⟩ := map_eq_good.mp h
  intro g hg
  simpa using (Option.mem_filter_iff.mp hg).2

/-- A step that is repeated has a selector and is in no group. -/
theorem of_checkIteration (h : checkIteration s = good s) (hi : s.iterate = true) :
    (∃ selector, s.selector = some selector ∧ selector ≠ "") ∧ s.group = none := by
  unfold checkIteration at h
  rw [hi, Bool.true_and, Bool.true_and] at h
  split at h
  · cases h
  · rename_i hgroup
    split at h
    · cases h
    · rename_i htarget
      have hnone : s.group = none := by simpa using hgroup
      obtain ⟨selector, hselector⟩ := Option.ne_none_iff_exists'.mp (by simpa using htarget)
      obtain ⟨hs, hne⟩ := Option.filter_eq_some_iff.mp hselector
      exact ⟨⟨selector, hs, by simpa using hne⟩, hnone⟩

theorem key_of_readAction {key : String} (h : readAction k ms = good (.pressKey key)) :
    Text.isBlankText key = false := by
  have hk : k = .pressKey := by
    have hkind := kind_of_readAction h
    exact (Option.some.inj hkind).symm
  subst hk
  obtain ⟨_, hkey, heq⟩ := map_eq_good.mp h
  cases heq
  obtain ⟨m, -, hm⟩ := Field.required_eq_good.mp hkey
  obtain ⟨s, -, hs⟩ := andThen_eq_good.mp hm
  obtain ⟨hblank, rfl⟩ := require_eq_good.mp hs
  simpa using hblank

theorem files_of_readAction {u : Upload} (h : readAction k ms = good (.upload u)) :
    ∀ f ∈ u.files, FileEntry.Fits f.toJson := by
  have hk : k = .upload := (Option.some.inj (kind_of_readAction h)).symm
  subst hk
  obtain ⟨_, hu, heq⟩ := map_eq_good.mp h
  cases heq
  obtain ⟨-, hfiles, -⟩ := Upload.of_readFields hu
  refine Field.of_optional (P := fun files => ∀ f ∈ files, FileEntry.Fits f.toJson) hfiles
    (fun v files hv f hf => ?_) (by simp)
  obtain ⟨item, hitem⟩ := exists_of_mem_list hv hf
  exact FileEntry.fits_of_read hitem

theorem checks_of_readFields {action : Members → Checked Action}
    (h : readFields action ms = good s) : ∀ c ∈ s.checks, Check.Fits c.toJson := by
  obtain ⟨-, -, -, -, -, -, -, -, hchecks, -⟩ := of_readFields h
  refine Field.of_optional (P := fun checks => ∀ c ∈ checks, Check.Fits c.toJson) hchecks
    (fun v checks hv c hc => ?_) (by simp)
  obtain ⟨item, hitem⟩ := exists_of_mem_list hv hc
  exact Check.fits_of_read hitem

theorem kind_of_actionName (hkind : s.action.kind? = some k) (k' : ActionKind)
    (h : s.toJson.get? "action" = some (.str k'.name)) : k = k' := by
  have hname : k.name = k'.name := by
    have haction : s.actionName = k'.name := Json.str.inj (Option.some.inj h)
    rwa [actionName, hkind] at haction
  revert hname
  cases k <;> cases k' <;> decide

/-- Every step that was read fits, whatever document it was read from. -/
theorem fits_of_read {v : Json} (h : Step.read v = .ok s) : Fits s.toJson := by
  obtain ⟨ms, k, -, -, hread⟩ := of_readAmong h
  obtain ⟨hfields, -, hiteration, hwait⟩ := of_readKind hread
  obtain ⟨-, -, -, -, -, -, hgroup, -, -, haction⟩ := of_readFields hfields
  have hkind := kind_of_readAction haction
  have hname : s.actionName = k.name := by
    rw [actionName, hkind]
    rfl
  refine {
    kind := ⟨_, s.selectorKind.name_mem, rfl⟩
    index := ⟨_, rfl, Json.isCount_natOption s.index⟩
    action := ⟨k, hname ▸ rfl⟩
    waitTime := ⟨_, rfl, Json.isCount_natOption s.waitTime⟩
    iterate := fun hi => ?_
    group := ⟨_, rfl, ?_⟩
    wait := fun ha hnull => ?_
    key := fun ha => ?_
    files := fun ha => ?_
    checks := ⟨_, rfl, fun c hc => ?_⟩ }
  · have hiterate : s.iterate = true := Json.bool.inj (Option.some.inj hi)
    obtain ⟨⟨selector, hselector, hne⟩, hnone⟩ := of_checkIteration hiteration hiterate
    refine ⟨⟨selector, ?_, hne⟩, ?_⟩
    · show some (Json.ofOption s.selector) = _
      rw [hselector]
      rfl
    · show some (Json.ofOption s.group) = _
      rw [hnone]
      rfl
  · have hblank := Field.of_optional (P := fun group => ∀ g ∈ group, Text.isBlankText g = false)
      hgroup (fun v group => group_of_readGroup) (by simp)
    cases hg : s.group with
    | none => exact Or.inl rfl
    | some g => exact Or.inr ⟨g, rfl, hblank g hg⟩
  · obtain rfl := kind_of_actionName hkind .wait ha
    have hwaits : s.isWait = true := by
      rw [isWait, hkind]
      rfl
    have htime : s.waitTime.isNone = false := by
      simpa [checkWait, hwaits] using (require_eq_good.mp hwait).1
    cases ht : s.waitTime with
    | none =>
      rw [ht] at htime
      cases htime
    | some n =>
      have hvalue : Json.natOption s.waitTime = .null := Option.some.inj hnull
      rw [ht] at hvalue
      cases hvalue
  · obtain rfl := kind_of_actionName hkind .pressKey ha
    have hdata : s.toJson.get? "data" = Members.get? s.action.fields "data" := rfl
    cases hact : s.action with
    | pressKey key =>
      rw [hact] at haction hdata
      exact ⟨_, hdata, key, rfl, key_of_readAction haction⟩
    | _ =>
      rw [hact] at hkind
      cases hkind
  · obtain rfl := kind_of_actionName hkind .upload ha
    have hfiles : s.toJson.get? "files" = Members.get? s.action.fields "files" := rfl
    cases hact : s.action with
    | upload u =>
      rw [hact] at haction hfiles
      refine ⟨_, hfiles, fun f hf => ?_⟩
      obtain ⟨file, hfile, rfl⟩ := List.mem_map.mp hf
      exact files_of_readAction haction file hfile
    | _ =>
      rw [hact] at hkind
      cases hkind
  · obtain ⟨check, hcheck, rfl⟩ := List.mem_map.mp hc
    exact checks_of_readFields hfields check hcheck

/-- Every step that was read has an action. -/
theorem action_of_read {v : Json} (h : Step.read v = .ok s) : s.action ≠ .unspecified := by
  obtain ⟨ms, k, -, -, hread⟩ := of_readAmong h
  obtain ⟨-, -, -, -, -, -, -, -, -, haction⟩ := of_readFields (of_readKind hread).1
  intro hnone
  have hkind := kind_of_readAction haction
  rw [hnone] at hkind
  cases hkind

end Step
end Walkthrough
