import Walkthrough.Proofs.Act
import Walkthrough.Proofs.Files
import Walkthrough.Proofs.Loading

/-!
Which scenarios a run is about: those of a text in the variables, of one file or of the documents in a
directory, one after the other, without the disabled ones and those that a pattern leaves out.
-/
namespace Walkthrough

/-! Directories. -/

namespace Disk

variable {d d' : Disk} {cwd p : Path} {key : List String}

/-- A disk on which no two entries stand in one place. -/
def Proper (d : Disk) : Prop := (d.entries.map (·.1)).Nodup

theorem proper_put (h : d.Proper) (key : List String) (e : Entry) : (d.put key e).Proper := by
  unfold Proper put
  split
  · have hkeys : (fun x : List String × Entry => (if x.1 == key then (key, e) else x).1) =
        fun x => x.1 := by
      funext x
      by_cases hx : x.1 = key <;> simp [hx]
    rw [List.map_map, Function.comp_def, hkeys]
    exact h
  · rename_i hany
    rw [List.map_append, List.nodup_append]
    refine ⟨h, by simp, ?_⟩
    rintro other hother _ hkey rfl
    obtain ⟨x, hx, hxkey⟩ := List.mem_map.mp hother
    refine hany (List.any_eq_true.mpr ⟨x, hx, ?_⟩)
    rw [hxkey, List.mem_singleton.mp hkey]
    exact beq_self_eq_true key

theorem Proper.ensurePath (h : d.Proper) (hmade : d.ensurePath cwd p = .ok d') : d'.Proper :=
  of_ensurePath (P := Proper) (fun _ key _ hd => proper_put hd key _) hmade h

/-- The entry of a name in a directory. -/
def holdsName (key : List String) (x : List String × Entry) : Option String :=
  if x.1.length = key.length + 1 && key.isPrefixOf x.1 then x.1.getLast? else none

theorem holdsName_eq_some {x : List String × Entry} {name : String} :
    holdsName key x = some name ↔ x.1 = key ++ [name] := by
  unfold holdsName
  constructor
  · intro h
    split at h
    · rename_i hinside
      obtain ⟨hlength, hprefix⟩ := Bool.and_eq_true_iff.mp hinside
      obtain ⟨rest, hrest⟩ := List.isPrefixOf_iff_prefix.mp hprefix
      have hone : rest.length = 1 := by
        have hlen := of_decide_eq_true hlength
        rw [← hrest, List.length_append] at hlen
        omega
      obtain ⟨last, rfl⟩ := List.length_eq_one_iff.mp hone
      rw [← hrest, List.getLast?_concat] at h
      rw [← hrest, Option.some.inj h]
    · cases h
  · intro h
    rw [h, if_pos (by simp), List.getLast?_concat]

theorem names_eq (hl : d.locate cwd p = .ok key) :
    d.names cwd p = (d.entries.filterMap (holdsName key)).mergeSort := by
  unfold names
  rw [hl]
  rfl

theorem mem_names (hl : d.locate cwd p = .ok key) {name : String} :
    name ∈ d.names cwd p ↔ (d.entry? (key ++ [name])).isSome := by
  rw [names_eq hl, (List.mergeSort_perm _ _).mem_iff, List.mem_filterMap]
  unfold entry?
  simp [holdsName_eq_some, List.find?_isSome]

/-- The names in a directory come in order, and each of them once. -/
theorem names_ordered (h : d.Proper) (cwd p : Path) : (d.names cwd p).Pairwise (· < ·) := by
  cases hl : d.locate cwd p with
  | error e =>
    unfold names
    rw [hl]
    exact .nil
  | ok key =>
    rw [names_eq hl]
    have hsorted : ((d.entries.filterMap (holdsName key)).mergeSort).Pairwise (· ≤ ·) := by
      refine (List.pairwise_mergeSort ?_ ?_ _).imp of_decide_eq_true
      · exact fun a b c hab hbc =>
          decide_eq_true (String.le_trans (of_decide_eq_true hab) (of_decide_eq_true hbc))
      · exact fun a b => by simpa using String.le_total a b
    have hnodup : (d.entries.filterMap (holdsName key)).Nodup := by
      refine List.pairwise_filterMap.mpr ((List.pairwise_map.mp h).imp ?_)
      rintro x y hne name hx _ hy rfl
      exact hne ((holdsName_eq_some.mp hx).trans (holdsName_eq_some.mp hy).symm)
    refine (hsorted.and ((List.mergeSort_perm _ _).nodup_iff.mpr hnodup)).imp fun hab => ?_
    exact String.not_le.mp fun hba => hab.2 (String.le_antisymm hab.1 hba)

end Disk

namespace Scenario

/-! Sources. -/

/-- The documents in a directory: the names that end as theirs do, in order. -/
structure Listed (disk : Disk) (cwd dir : Path) (names : List String) : Prop where
  ordered : names.Pairwise (· < ·)
  mem : ∀ name, name ∈ names ↔ (∃ front, name = front ++ ".json") ∧
    ∃ key, disk.locate cwd dir = .ok key ∧ (disk.entry? (key ++ [name])).isSome

/-- A file that can be read, of which each document is one of the scenarios. -/
def FileHolds (disk : Disk) (cwd path : Path) (scenarios : List Scenario) : Prop :=
  ∃ content text, disk.read cwd path = .ok content ∧ content.document = .ok text ∧
    Holds path.name text scenarios

/-- The file that a run is asked to take its scenarios from: the one that is given, or else the one in
the variables. -/
inductive Names (env : Environment) (file : Option String) : String → Prop
  | given {path : String} (h : file = some path) (hne : path ≠ "") : Names env file path
  | variable {path : String} (hfile : ∀ p, file = some p → p = "")
    (h : env.get? fileVariable = some path) (hne : path ≠ "") : Names env file path

/-- The scenarios that a run may choose from: those in a variable, else those of a file, else those of
the documents in a directory; a directory that is not there holds none. -/
inductive Offers (disk : Disk) (env : Environment) (dir : Path) (file : Option String) :
    List Scenario → Prop
  | inline {text : String} {scenarios : List Scenario} (htext : env.get? inlineVariable = some text)
    (hne : text ≠ "") (hholds : Holds inlineVariable text scenarios) :
    Offers disk env dir file scenarios
  | file {path : String} {scenarios : List Scenario}
    (hinline : ∀ text, env.get? inlineVariable = some text → text = "")
    (hpath : Names env file path) (hfile : FileHolds disk env.cwd (Path.ofString path) scenarios) :
    Offers disk env dir file scenarios
  | directory {names : List String} {parts : List (List Scenario)}
    (hinline : ∀ text, env.get? inlineVariable = some text → text = "")
    (hfile : ∀ path, ¬ Names env file path) (hdir : disk.isDirectory env.cwd dir = .ok true)
    (hnames : Listed disk env.cwd dir names)
    (hparts : List.Forall₂ (fun name scenarios =>
      FileHolds disk env.cwd { dir with parts := dir.parts ++ [name] } scenarios) names parts) :
    Offers disk env dir file parts.flatten
  | nowhere (hinline : ∀ text, env.get? inlineVariable = some text → text = "")
    (hfile : ∀ path, ¬ Names env file path) (hdir : disk.isDirectory env.cwd dir = .ok false) :
    Offers disk env dir file []

theorem isDocument_iff {name : String} :
    isDocument name = true ↔ ∃ front, name = front ++ ".json" := by
  unfold isDocument documentEnding
  rw [List.isPrefixOf_iff_prefix, List.reverse_prefix]
  constructor
  · rintro ⟨front, hfront⟩
    exact ⟨String.ofList front, by rw [← String.toList_inj, ← hfront]; simp⟩
  · rintro ⟨front, rfl⟩
    exact ⟨front.toList, by simp⟩

section Selection

variable {disk : Disk} {env : Environment} {cwd dir path : Path} {file grep : Option String}
  {scenarios : List Scenario} {σ : Type}

theorem listed_names (h : disk.Proper) (hdir : disk.isDirectory cwd dir = .ok true) :
    Listed disk cwd dir ((disk.names cwd dir).filter isDocument) where
  ordered := (Disk.names_ordered h cwd dir).filter _
  mem name := by
    obtain ⟨key, hl, -⟩ := Disk.isDirectory_iff.mp hdir
    rw [List.mem_filter, Disk.mem_names hl, isDocument_iff, and_comm]
    simp [hl]

theorem ofFile_ok (h : ofFile disk cwd path = .ok scenarios) : FileHolds disk cwd path scenarios := by
  cases hread : disk.read cwd path with
  | ok content =>
    obtain ⟨text, htext, hholds⟩ := (ofFile_eq_ok hread).mp h
    exact ⟨content, text, hread, htext, hholds⟩
  | error e =>
    unfold ofFile at h
    rw [hread] at h
    dsimp only at h
    split at h <;> cases h

theorem filter_ne_empty {o : Option String} :
    (∃ s, o = some s ∧ s ≠ "" ∧ o.filter (fun s => decide (s ≠ "")) = some s) ∨
      (∀ s, o = some s → s = "") ∧ o.filter (fun s => decide (s ≠ "")) = none := by
  cases o with
  | none => exact .inr ⟨by simp, rfl⟩
  | some s =>
    by_cases hs : s = ""
    · exact .inr ⟨fun t ht => Option.some.inj ht ▸ hs, by simp [hs]⟩
    · exact .inl ⟨s, rfl, hs, by simp [hs]⟩

theorem ofDirectory_ok (hproper : disk.Proper) {st : σ}
    (h : (ofDirectory disk cwd dir st).result = .ok scenarios) :
    (disk.isDirectory cwd dir = .ok true ∧ ∃ names parts, Listed disk cwd dir names ∧
      List.Forall₂ (fun name part => FileHolds disk cwd { dir with parts := dir.parts ++ [name] } part)
        names parts ∧ scenarios = parts.flatten) ∨
    disk.isDirectory cwd dir = .ok false ∧ scenarios = [] := by
  obtain ⟨isThere, hthere, h⟩ := Act.ok_of_bind h
  rw [Act.ofExcept_eq] at hthere h
  have hdir : disk.isDirectory cwd dir = .ok isThere := mapError_eq_ok.mp hthere
  cases isThere with
  | false =>
    cases h
    exact .inr ⟨hdir, rfl⟩
  | true =>
    obtain ⟨parts, hparts, h⟩ := Act.ok_of_bind h
    cases h
    rw [Act.ofExcept_eq] at hparts
    exact .inl ⟨hdir, _, parts, listed_names hproper hdir,
      (forall₂_of_mapM hparts).imp fun name part hpart => ofFile_ok hpart, rfl⟩

/-- What a run may choose from once it can be read. -/
theorem ofSources_ok (hproper : disk.Proper) {st : σ}
    (h : (ofSources disk env dir file st).result = .ok scenarios) :
    Offers disk env dir file scenarios := by
  unfold ofSources at h
  obtain ⟨text, htext, hne, hfilter⟩ | ⟨hinline, hfilter⟩ :=
    @filter_ne_empty (env.get? inlineVariable)
  · rw [hfilter] at h
    dsimp only at h
    rw [Act.ofExcept_eq] at h
    exact .inline htext hne (ofText_eq_ok.mp (mapError_eq_ok.mp h))
  · rw [hfilter] at h
    dsimp only at h
    obtain ⟨path, hpath, hne, hgiven⟩ | ⟨hfile, hgiven⟩ := @filter_ne_empty file
    · rw [hgiven, Option.some_or] at h
      dsimp only at h
      rw [Act.ofExcept_eq] at h
      exact .file hinline (.given hpath hne) (ofFile_ok h)
    · obtain ⟨path, hpath, hne, hvariable⟩ | ⟨hempty, hvariable⟩ :=
        @filter_ne_empty (env.get? fileVariable)
      · rw [hgiven, hvariable, Option.none_or] at h
        dsimp only at h
        rw [Act.ofExcept_eq] at h
        exact .file hinline (.variable hfile hpath hne) (ofFile_ok h)
      · rw [hgiven, hvariable, Option.none_or] at h
        have hnone : ∀ path, ¬ Names env file path := by
          rintro path (⟨hpath, hne⟩ | ⟨-, hpath, hne⟩)
          · exact hne (hfile path hpath)
          · exact hne (hempty path hpath)
        obtain ⟨hdir, names, parts, hlisted, hparts, rfl⟩ | ⟨hdir, rfl⟩ := ofDirectory_ok hproper h
        · exact .directory hinline hnone hdir hlisted hparts
        · exact .nowhere hinline hnone hdir

/-- The pattern that scenarios are chosen by; an empty text is none. -/
inductive Asks (grep : Option String) : Option Pattern → Prop
  | nothing (h : ∀ text, grep = some text → text = "") : Asks grep none
  | pattern {text : String} {p : Pattern} (h : grep = some text) (hne : text ≠ "")
    (hread : Check.readPattern text = .ok p) : Asks grep (some p)

theorem filter_ok {chosen : List Scenario} (h : filter scenarios grep = .ok chosen) :
    ∃ pattern, Asks grep pattern ∧ chosen = scenarios.filter (isWanted pattern) := by
  unfold filter at h
  obtain ⟨text, htext, hne, hfilter⟩ | ⟨hgrep, hfilter⟩ := @filter_ne_empty grep
  · rw [hfilter] at h
    dsimp only at h
    cases hread : Check.readPattern text with
    | ok p =>
      rw [hread] at h
      cases h
      exact ⟨some p, .pattern htext hne hread, rfl⟩
    | error e =>
      rw [hread] at h
      cases h
  · rw [hfilter] at h
    cases h
    exact ⟨none, .nothing hgrep, rfl⟩

/-- The scenarios of a run are those of its source that are enabled and match its pattern. -/
theorem select_ok (hproper : disk.Proper) {st : σ} {chosen : List Scenario}
    (h : (select disk env dir grep file st).result = .ok chosen) :
    ∃ all pattern, Offers disk env dir file all ∧ Asks grep pattern ∧
      chosen = all.filter (isWanted pattern) := by
  obtain ⟨all, hall, h⟩ := Act.ok_of_bind h
  rw [Act.ofExcept_eq] at h
  obtain ⟨pattern, hasks, hchosen⟩ := filter_ok h
  exact ⟨all, pattern, ofSources_ok hproper hall, hasks, hchosen⟩

end Selection

end Scenario

/-- To look for scenarios changes nothing. -/
theorem Scenario.quiet_select {σ : Type} (disk : Disk) (env : Environment) (dir : Path)
    (grep file : Option String) : (select disk env dir grep file : Act σ (List Scenario)).Quiet := by
  refine Act.Quiet.bind ?_ fun all => Act.quiet_ofExcept _
  unfold ofSources
  dsimp only
  split
  · exact Act.quiet_ofExcept _
  · split
    · exact Act.quiet_ofExcept _
    · refine Act.Quiet.bind (Act.quiet_ofExcept _) fun isThere => ?_
      cases isThere with
      | false =>
        intro s
        exact ⟨rfl, rfl⟩
      | true =>
        refine Act.Quiet.bind (Act.quiet_ofExcept _) fun parts s => ?_
        exact ⟨rfl, rfl⟩

end Walkthrough
