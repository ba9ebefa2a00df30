import Walkthrough.Proofs.Desk

/-! Directories stay where they are while files are written, and so do the ways to them. -/
namespace Walkthrough

namespace Disk

variable {d d' : Disk} {cwd p : Path} {key : List String} {e : Entry}

/-- Every directory of one disk is one of the other. -/
def Retains (d d' : Disk) : Prop :=
  ∀ key, d.entry? key = some .directory → d'.entry? key = some .directory

/-- Putting an entry in the place of another changes no names. -/
theorem names_replaced (key other : List String) (e : Entry) :
    ((fun x : List String × Entry => x.1 == other) ∘
      fun x => if (x.1 == key) = true then (key, e) else x) = fun x => x.1 == other := by
  funext x
  by_cases hx : x.1 = key <;> simp [hx]

theorem entry_put_self (d : Disk) (hkey : key ≠ []) (e : Entry) :
    Disk.entry? (d.put key e) key = some e := by
  have hempty : key.isEmpty = false := by simpa using hkey
  unfold entry? put
  rw [hempty]
  cases hfind : d.entries.find? (·.1 == key) with
  | some x =>
    have hx : x.1 = key := by simpa using List.find?_some hfind
    have hany : d.entries.any (·.1 == key) = true :=
      List.any_eq_true.mpr ⟨x, List.mem_of_find?_eq_some hfind, beq_iff_eq.mpr hx⟩
    rw [if_pos hany]
    simp only [List.find?_map, names_replaced, hfind, Option.map_some, hx, beq_self_eq_true,
      if_true]
    rfl
  | none =>
    have hany : ¬ d.entries.any (·.1 == key) = true := by
      rw [List.any_eq_true]
      rintro ⟨x, hx, hkey⟩
      exact List.find?_eq_none.mp hfind x hx hkey
    rw [if_neg hany]
    simp [List.find?_append, hfind]

theorem entry_put_of_ne {other : List String} (d : Disk) (hother : other ≠ key) (e : Entry) :
    Disk.entry? (d.put key e) other = d.entry? other := by
  unfold entry? put
  by_cases hany : d.entries.any (·.1 == key) = true
  · rw [if_pos hany]
    simp only [List.find?_map, names_replaced, Option.map_map]
    cases hfind : d.entries.find? (·.1 == other) with
    | none => rfl
    | some x =>
      have hx : x.1 = other := by simpa using List.find?_some hfind
      simp [hx, hother]
  · rw [if_neg hany]
    have hne : (key == other) = false := by simpa using Ne.symm hother
    simp [List.find?_append, hne]

/-- What is put in a place where no directory stands leaves all directories as they are. -/
theorem retains_put (hkey : d.entry? key ≠ some .directory) (e : Entry) :
    d.Retains (d.put key e) := by
  intro other hother
  have hne : other ≠ key := fun h => hkey (h ▸ hother)
  rw [entry_put_of_ne d hne]
  exact hother

theorem Retains.follow (h : d.Retains d') {from' names : List String}
    (hf : d.follow from' names = .ok key) : d'.follow from' names = .ok key := by
  induction names generalizing from' with
  | nil => exact hf
  | cons n rest ih =>
    unfold Disk.follow at hf ⊢
    cases he : d.entry? from' with
    | none => simp [he] at hf
    | some e =>
      cases e with
      | file c => simp [he] at hf
      | directory =>
        rw [he] at hf
        rw [h from' he]
        dsimp only at hf ⊢
        split at hf
        · cases hf
        · rename_i hlength
          rw [if_neg hlength]
          exact ih hf

theorem Retains.locate (h : d.Retains d') (hl : d.locate cwd p = .ok key) :
    d'.locate cwd p = .ok key := by
  unfold Disk.locate at hl ⊢
  split at hl
  · cases hl
  · rename_i hnull
    rw [if_neg hnull]
    cases hf : d.follow [] (cwd.join p).parts with
    | error r => simp [hf] at hl
    | ok key' =>
      rw [hf] at hl
      cases hl
      rw [h.follow hf]

theorem isDirectory_iff :
    d.isDirectory cwd p = .ok true ↔
      ∃ key, d.locate cwd p = .ok key ∧ d.entry? key = some .directory := by
  unfold isDirectory status
  cases hl : d.locate cwd p with
  | ok key => simp [Except.map]
  | error e =>
    obtain ⟨refusal, path⟩ := e
    cases refusal <;> simp [Except.map]

theorem Retains.isDirectory (h : d.Retains d') (hp : d.isDirectory cwd p = .ok true) :
    d'.isDirectory cwd p = .ok true := by
  obtain ⟨key, hl, he⟩ := isDirectory_iff.mp hp
  exact isDirectory_iff.mpr ⟨key, h.locate hl, h key he⟩

/-- A place where a file can be written: no directory stands there, and there is one around it if
nothing does. -/
structure Takes (d : Disk) (key : List String) : Prop where
  free : d.entry? key ≠ some .directory
  around : d.entry? key = none → d.entry? key.dropLast = some .directory

/-- The content of the file at a place, if there is one. -/
def content? (d : Disk) (key : List String) : Option Content :=
  match d.entry? key with
  | some (.file c) => some c
  | _ => none

section Change

variable {f : Option Content → Content}

theorem change_of_takes (hl : d.locate cwd p = .ok key) (h : d.Takes key)
    (f : Option Content → Content) :
    d.change cwd p f = .ok (d.put key (.file (f (d.content? key)))) := by
  unfold change content?
  simp only [hl, bind, Except.bind]
  cases he : d.entry? key with
  | none =>
    dsimp only
    rw [if_pos (h.around he)]
    rfl
  | some e =>
    cases e with
    | directory => exact absurd he h.free
    | file c => rfl

theorem change_ok (h : d.change cwd p f = .ok d') :
    ∃ key, d.locate cwd p = .ok key ∧ d.Takes key ∧
      d' = d.put key (.file (f (d.content? key))) := by
  cases hl : d.locate cwd p with
  | error e =>
    unfold change at h
    rw [hl] at h
    cases h
  | ok key =>
    have htakes : d.Takes key := by
      unfold change at h
      simp only [hl, bind, Except.bind] at h
      refine ⟨fun he => ?_, fun he => ?_⟩
      · rw [he] at h
        cases h
      · rw [he] at h
        dsimp only at h
        split at h
        · assumption
        · cases h
    rw [change_of_takes hl htakes] at h
    exact ⟨key, rfl, htakes, (Except.ok.inj h).symm⟩

/-- Files are changed where no directory stands. -/
theorem retains_change (h : d.change cwd p f = .ok d') : d.Retains d' := by
  obtain ⟨key, -, htakes, rfl⟩ := change_ok h
  exact retains_put htakes.free _

end Change

theorem isDirectory_of_makeDirectory (h : d.makeDirectory cwd p = .ok d') :
    d'.isDirectory cwd p = .ok true := by
  unfold makeDirectory at h
  cases hl : d.locate cwd p with
  | error e => simp [hl, bind, Except.bind] at h
  | ok key =>
    simp only [hl, bind, Except.bind] at h
    split at h
    · cases h
    · rename_i hfree
      split at h
      · cases h
        have hnone : d.entry? key = none := by simpa using hfree
        have hkey : key ≠ [] := by
          rintro rfl
          unfold entry? at hnone
          cases hnone
        have hretains : d.Retains (d.put key .directory) := retains_put (by simp [hnone]) _
        exact isDirectory_iff.mpr ⟨key, hretains.locate hl, entry_put_self d hkey _⟩
      · cases h

theorem isDirectory_of_ensureDirectory (h : d.ensureDirectory cwd p = .ok d') :
    d'.isDirectory cwd p = .ok true := by
  unfold ensureDirectory at h
  split at h
  · rename_i hmake
    cases h
    exact isDirectory_of_makeDirectory hmake
  · split at h
    · cases h
      rename_i hthere
      exact hthere
    · cases h

theorem isDirectory_of_ensurePath (h : d.ensurePath cwd p = .ok d') :
    d'.isDirectory cwd p = .ok true := by
  have hpath : p = ⟨p.root, p.parts.reverse.reverse⟩ := by rw [List.reverse_reverse]
  unfold ensurePath at h
  generalize p.root = root, p.parts.reverse = names at h hpath
  subst hpath
  cases names with
  | nil => exact isDirectory_of_ensureDirectory h
  | cons n before =>
    unfold ensureReversed at h
    dsimp only at h
    split at h
    · rename_i hmake
      cases h
      exact isDirectory_of_makeDirectory hmake
    · split at h
      · split at h
        · exact isDirectory_of_ensureDirectory h
        · cases h
      · split at h
        · cases h
          rename_i hthere
          exact hthere
        · cases h

theorem makeDirectory_of_isDirectory (h : d.isDirectory cwd p = .ok true) :
    d.makeDirectory cwd p = .error ⟨.alreadyThere, p⟩ := by
  obtain ⟨key, hl, he⟩ := isDirectory_iff.mp h
  unfold makeDirectory
  simp only [hl, he, bind, Except.bind]
  rfl

/-- A directory that is there need not be made. -/
theorem ensurePath_of_isDirectory (h : d.isDirectory cwd p = .ok true) :
    d.ensurePath cwd p = .ok d := by
  have hpath : p = ⟨p.root, p.parts.reverse.reverse⟩ := by rw [List.reverse_reverse]
  unfold ensurePath
  generalize p.root = root, p.parts.reverse = names at hpath ⊢
  subst hpath
  have hmake := makeDirectory_of_isDirectory h
  cases names with
  | nil =>
    unfold ensureReversed ensureDirectory
    rw [List.reverse_nil] at h hmake
    rw [hmake]
    dsimp only
    rw [h]
    rfl
  | cons n before =>
    unfold ensureReversed
    dsimp only
    rw [hmake]
    dsimp only
    rw [if_neg (by decide), h]
    rfl

theorem hasNull_of_change {f : Option Content → Content} (h : d.change cwd p f = .ok d') :
    p.hasNull = false := by
  obtain ⟨key, hl, -⟩ := change_ok h
  exact hasNull_of_locate hl

end Disk

namespace Desk

variable {d d' : Desk} {dir : Path} {report journal : Option Nat} {wanted : Bool}

/-- A desk at which a scenario can begin: its report can be opened if reports are wanted, and the
event log is open. -/
structure Ready (dir : Path) (wanted : Bool) (journal : Option Nat) (d : Desk) : Prop where
  directory : wanted = true → ∃ disk, d.disk.ensurePath d.cwd dir = .ok disk
  log : ∀ n ∈ journal, ∀ j, d.journals[n]? = some j → j.path.hasNull = false ∧ j.isOpen = true

/-- A desk at which a scenario can go on: its report has a directory and a name that files can have,
and the event log is open. -/
structure Serves (dir : Path) (report journal : Option Nat) (d : Desk) : Prop where
  directory : report.isSome = true → d.disk.isDirectory d.cwd dir = .ok true
  name : ∀ n ∈ report, ∀ p, d.reports[n]? = some (some p) → p.hasNull = false
  log : ∀ n ∈ journal, ∀ j, d.journals[n]? = some j → j.path.hasNull = false ∧ j.isOpen = true

/-- Where one scenario can go on, the next one can begin. -/
theorem Serves.ready (h : d.Serves dir report journal) : d.Ready dir report.isSome journal :=
  ⟨fun hsome => ⟨_, Disk.ensurePath_of_isDirectory (h.directory hsome)⟩, h.log⟩

theorem serves_of_unwanted (h : d.Ready dir wanted journal) : d.Serves dir none journal :=
  ⟨fun hsome => absurd hsome (by decide), by simp, h.log⟩

theorem openReport_serves (h : d.Ready dir true journal) (title : String) (now : Int) :
    ∃ d', d.openReport dir title now = .ok (d', d.reports.length, reportPath dir title now) ∧
      d'.Serves dir (some d.reports.length) journal := by
  obtain ⟨disk, hdisk⟩ := h.directory rfl
  refine ⟨{ d with disk, reports := d.reports ++ [some (reportPath dir title now)] }, ?_,
    fun _ => Disk.isDirectory_of_ensurePath hdisk, ?_, h.log⟩
  · unfold openReport
    rw [hdisk]
    rfl
  · rintro n ⟨⟩ p hp
    rw [List.getElem?_concat_length] at hp
    rw [← Option.some.inj (Option.some.inj hp)]
    exact hasNull_reportPath (Disk.hasNull_of_ensurePath hdisk) title now

theorem serves_kept : KeptByFiles (Serves dir report journal) := by
  intro d p f disk h hchange
  refine ⟨fun hsome => ?_, h.name, h.log⟩
  exact (Disk.retains_change hchange).isDirectory (h.directory hsome)

theorem keepReport_serves {n : Nat} (hn : n ∈ report) :
    Listener.QuietAt (Serves dir report journal) (keepReport n) :=
  keepReport_quietAt serves_kept fun _ p h hp => h.name n hn p hp

theorem keepJournal_serves {n : Nat} (hn : n ∈ journal) :
    Listener.QuietAt (Serves dir report journal) (keepJournal n) := by
  refine keepJournal_quietAt serves_kept fun d j h hj => ?_
  obtain ⟨hpath, hopen⟩ := h.log n hn j hj
  refine ⟨hpath, hopen, h.directory, h.name, fun m hm j' hj' => ?_⟩
  cases hn
  cases hm
  obtain ⟨-, rfl⟩ := List.getElem?_eq_some_iff.mp hj'
  simp only [List.getElem_set_self]
  exact ⟨hpath, hopen⟩

/-- An event log that was just opened is open. -/
theorem openJournal_ready {runId : String} {path : Path} {slot : Nat}
    (h : d.openJournal runId path = .ok (d', slot))
    (hdir : ∃ disk, d'.disk.ensurePath d'.cwd dir = .ok disk) :
    d'.Ready dir wanted (some slot) := by
  refine ⟨fun _ => hdir, ?_⟩
  unfold openJournal at h
  cases hdisk : d.disk.ensurePath d.cwd path.parent with
  | error e =>
    rw [hdisk] at h
    cases h
  | ok disk =>
    rw [hdisk] at h
    change Except.bind ((disk.append d.cwd path "").mapError Failure.disk) _ = _ at h
    cases happend : disk.append d.cwd path "" with
    | error e =>
      rw [happend] at h
      cases h
    | ok disk' =>
      rw [happend] at h
      cases h
      rintro n ⟨⟩ j hj
      rw [List.getElem?_concat_length] at hj
      cases hj
      exact ⟨Disk.hasNull_of_change happend, rfl⟩

end Desk
end Walkthrough
