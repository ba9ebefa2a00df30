import Walkthrough.Proofs.Recording

/-! Reports and event logs fail only where the system refuses, as long as they are open. -/
namespace Walkthrough

namespace Disk

variable {d : Disk} {cwd p : Path}

theorem follow_error {names key : List String} {r : Refusal} (h : d.follow key names = .error r) :
    r ≠ .nullInName := by
  induction names generalizing key with
  | nil => simp [follow] at h
  | cons n rest ih =>
    unfold follow at h
    split at h
    · cases h
      decide
    · cases h
      decide
    · split at h
      · cases h
        decide
      · exact ih h

theorem locate_error {e : Error} (hp : p.hasNull = false) (h : d.locate cwd p = .error e) :
    e.refusal ≠ .nullInName := by
  unfold locate at h
  rw [hp, if_neg (by decide)] at h
  cases hf : d.follow [] (cwd.join p).parts with
  | ok key => simp [hf] at h
  | error r =>
    simp only [hf, Except.error.injEq] at h
    subst h
    exact follow_error hf

/-- A path without a null character is refused by the system alone. -/
theorem change_error {f : Option Content → Content} {e : Error} (hp : p.hasNull = false)
    (h : d.change cwd p f = .error e) : e.refusal ≠ .nullInName := by
  unfold change at h
  cases hl : d.locate cwd p with
  | error e' =>
    rw [hl] at h
    cases h
    exact locate_error hp hl
  | ok key =>
    simp only [hl, bind, Except.bind] at h
    split at h
    · cases h
      exact Refusal.noConfusion
    · cases h
    · split at h
      · cases h
      · cases h
        exact Refusal.noConfusion

/-- A place that can be looked up has a name that files can have. -/
theorem hasNull_of_locate {key : List String} (h : d.locate cwd p = .ok key) :
    p.hasNull = false := by
  unfold locate at h
  split at h
  · cases h
  · rename_i hnull
    exact Bool.eq_false_iff.mpr hnull

theorem hasNull_of_makeDirectory {d' : Disk} (h : d.makeDirectory cwd p = .ok d') :
    p.hasNull = false := by
  cases hl : d.locate cwd p with
  | ok key => exact hasNull_of_locate hl
  | error e =>
    unfold makeDirectory at h
    rw [hl] at h
    cases h

theorem hasNull_of_isDirectory (h : d.isDirectory cwd p = .ok true) : p.hasNull = false := by
  cases hl : d.locate cwd p with
  | ok key => exact hasNull_of_locate hl
  | error e =>
    obtain ⟨refusal, path⟩ := e
    unfold isDirectory status at h
    rw [hl] at h
    cases refusal <;> cases h

theorem hasNull_of_ensureDirectory {d' : Disk} (h : d.ensureDirectory cwd p = .ok d') :
    p.hasNull = false := by
  unfold ensureDirectory at h
  split at h
  · rename_i hmake
    exact hasNull_of_makeDirectory hmake
  · split at h
    · rename_i hthere
      exact hasNull_of_isDirectory hthere
    · cases h

/-- A directory that can be made has a name that files can have. -/
theorem hasNull_of_ensurePath {d' : Disk} (h : d.ensurePath cwd p = .ok d') :
    p.hasNull = false := by
  have hpath : p = ⟨p.root, p.parts.reverse.reverse⟩ := by rw [List.reverse_reverse]
  unfold ensurePath at h
  generalize p.root = root, p.parts.reverse = names at h hpath
  subst hpath
  cases names with
  | nil => exact hasNull_of_ensureDirectory h
  | cons n before =>
    unfold ensureReversed at h
    dsimp only at h
    split at h
    · rename_i hmake
      exact hasNull_of_makeDirectory hmake
    · split at h
      · split at h
        · exact hasNull_of_ensureDirectory h
        · cases h
      · split at h
        · rename_i hthere
          exact hasNull_of_isDirectory hthere
        · cases h

end Disk

theorem Text.mem_of_mem_splitBy {q : Char → Bool} {cs piece : List Char}
    (h : piece ∈ splitBy q cs) : ∀ c ∈ piece, c ∈ cs := by
  induction cs generalizing piece with
  | nil =>
    cases List.mem_singleton.mp h
    simp
  | cons c cs ih =>
    unfold splitBy at h
    split at h
    · rcases List.mem_cons.mp h with rfl | h
      · simp
      · exact fun x hx => List.mem_cons_of_mem c (ih h x hx)
    · split at h
      · rename_i first more hsplit
        rw [hsplit] at ih
        rcases List.mem_cons.mp h with rfl | h
        · intro x hx
          rcases List.mem_cons.mp hx with rfl | hx
          · exact List.mem_cons_self
          · exact List.mem_cons_of_mem c (ih List.mem_cons_self x hx)
        · exact fun x hx => List.mem_cons_of_mem c (ih (List.mem_cons_of_mem first h) x hx)
      · cases List.mem_singleton.mp h
        intro x hx
        rw [List.mem_singleton.mp hx]
        exact List.mem_cons_self

theorem Path.hasNull_eq_false {p : Path} :
    p.hasNull = false ↔ ∀ n ∈ p.parts, '\x00' ∉ n.toList := by
  simp [hasNull]

theorem Path.hasNull_child {p : Path} {name : String} (hp : p.hasNull = false)
    (hname : '\x00' ∉ name.toList) : (p.child name).hasNull = false := by
  have hof : ∀ n ∈ (ofString name).parts, '\x00' ∉ n.toList := by
    intro n hn
    obtain ⟨hn, -⟩ := List.mem_filter.mp hn
    obtain ⟨piece, hpiece, rfl⟩ := List.mem_map.mp hn
    intro hnull
    rw [String.toList_ofList] at hnull
    exact hname (Text.mem_of_mem_splitBy hpiece _ hnull)
  rw [hasNull_eq_false] at hp ⊢
  unfold child join
  split
  · exact hof
  · intro n hn
    rcases List.mem_append.mp hn with hn | hn
    · exact hp n hn
    · exact hof n hn

namespace Desk

variable {d : Desk}

/-- The reports that are kept and the event logs have names that files can have, and the event logs
are open. -/
structure InOrder (d : Desk) : Prop where
  reports : ∀ p, some p ∈ d.reports → p.hasNull = false
  journals : ∀ j ∈ d.journals, j.path.hasNull = false ∧ j.isOpen = true

/-- An order that the desk stays in whenever a file is changed. -/
def KeptByFiles (order : Desk → Prop) : Prop :=
  ∀ d p f disk, order d → d.disk.change d.cwd p f = .ok disk → order { d with disk }

section QuietAt

variable {order : Desk → Prop}

theorem tryDisk_quiet (hkept : KeptByFiles order) {f : Option Content → Content} {p : Path}
    (hd : order d) (hp : p.hasNull = false) :
    let told := d.tryDisk (d.disk.change d.cwd p f)
    order told.1 ∧ ∀ e, told.2 = .error e → e.isSystem = true := by
  cases h : d.disk.change d.cwd p f with
  | ok disk => exact ⟨hkept d p f disk hd h, by simp [tryDisk]⟩
  | error e =>
    refine ⟨hd, fun e' he => ?_⟩
    simp only [tryDisk, Except.error.injEq] at he
    subst he
    simpa [Failure.isSystem] using Disk.change_error hp h

/-- A report whose file has a name that files can have is quiet. -/
theorem keepReport_quietAt (hkept : KeptByFiles order) {slot : Nat}
    (hname : ∀ d p, order d → d.reports[slot]? = some (some p) → p.hasNull = false) :
    Listener.QuietAt order (keepReport slot) := by
  intro n d hd
  unfold keepReport
  split
  · exact ⟨hd, by simp⟩
  · exact ⟨hd, by simp⟩
  · rename_i p h
    exact tryDisk_quiet hkept hd (hname d p hd h)

/-- An event log that is open and whose file has a name that files can have is quiet, whatever its
last number is. -/
theorem keepJournal_quietAt (hkept : KeptByFiles order) {slot : Nat}
    (hjournal : ∀ d j, order d → d.journals[slot]? = some j →
      j.path.hasNull = false ∧ j.isOpen = true ∧
        order { d with journals := d.journals.set slot { j with seq := j.seq + 1 } }) :
    Listener.QuietAt order (keepJournal slot) := by
  intro n d hd
  unfold keepJournal
  cases entryOf? n with
  | none => exact ⟨hd, by simp⟩
  | some entry =>
    dsimp only [logEvent]
    cases hj : d.journals[slot]? with
    | none => exact ⟨hd, by simp⟩
    | some j =>
      obtain ⟨hpath, hopen, hd'⟩ := hjournal d j hd hj
      dsimp only
      rw [if_pos hopen]
      exact tryDisk_quiet hkept hd' hpath

end QuietAt

theorem inOrder_kept : KeptByFiles InOrder := fun _ _ _ _ hd _ => ⟨hd.reports, hd.journals⟩

theorem keepReport_quiet (slot : Nat) : Listener.QuietAt InOrder (keepReport slot) :=
  keepReport_quietAt inOrder_kept fun _ p hd h => hd.reports p (List.mem_of_getElem? h)

theorem keepJournal_quiet (slot : Nat) : Listener.QuietAt InOrder (keepJournal slot) := by
  refine keepJournal_quietAt inOrder_kept fun d j hd hj => ?_
  obtain ⟨hpath, hopen⟩ := hd.journals j (List.mem_of_getElem? hj)
  refine ⟨hpath, hopen, hd.reports, fun j' hj' => ?_⟩
  rcases List.mem_or_eq_of_mem_set hj' with h | rfl
  · exact hd.journals j' h
  · exact ⟨hpath, hopen⟩

theorem not_mem_safeName {c : Char} (hc : isNameChar c = false) (title : String) :
    c ∉ (safeName title).toList := by
  intro h
  unfold safeName at h
  rw [String.toList_ofList] at h
  obtain ⟨x, -, hx⟩ := List.mem_map.mp h
  split at hx
  · rename_i hname
    rw [hx, hc] at hname
    cases hname
  · rw [← hx] at hc
    exact absurd hc (by decide)

theorem not_mem_toString {c : Char} (hdigit : c.isDigit = false) (hminus : c ≠ '-') (n : Int) :
    c ∉ (toString n).toList := by
  have hnat : ∀ m : Nat, c ∉ (Nat.repr m).toList := by
    intro m h
    rw [show Nat.repr m = String.ofList (Nat.toDigits 10 m) from rfl, String.toList_ofList] at h
    rw [Nat.isDigit_of_mem_toDigits (by decide) (by decide) h] at hdigit
    cases hdigit
  cases n with
  | ofNat m => exact hnat m
  | negSucc m =>
    intro h
    have hrepr : toString (Int.negSucc m) = "-" ++ Nat.repr m.succ := rfl
    rw [hrepr, String.toList_append] at h
    rcases List.mem_append.mp h with h | h
    · exact hminus (List.mem_singleton.mp h)
    · exact hnat m.succ h

/-- The name of the file in which a report is kept. -/
def reportName (title : String) (now : Int) : String :=
  safeName title ++ "-" ++ toString now ++ ".json"

/-- The names of reports hold nothing but dots and the characters of safe names. -/
theorem not_mem_reportName {c : Char} (hc : isNameChar c = false) (hdot : c ≠ '.') (title : String)
    (now : Int) : c ∉ (reportName title now).toList := by
  have hplain : c.isDigit = false ∧ c ≠ '-' := by
    refine ⟨Bool.eq_false_iff.mpr fun h => ?_, fun h => ?_⟩
    · simp [isNameChar, Char.isAlphanum, h] at hc
    · simp [isNameChar, h] at hc
  have hjson : ".json".toList.all (fun x => x == '.' || isNameChar x) = true := by decide
  unfold reportName
  simp only [String.toList_append, List.mem_append, not_or]
  refine ⟨⟨⟨not_mem_safeName hc title, ?_⟩, not_mem_toString hplain.1 hplain.2 now⟩, fun h => ?_⟩
  · exact fun h => hplain.2 (List.mem_singleton.mp h)
  · rcases Bool.or_eq_true_iff.mp (List.all_eq_true.mp hjson c h) with h | h
    · exact hdot (eq_of_beq h)
    · rw [hc] at h
      cases h

/-- A report has a name that files can have if its directory has. -/
theorem hasNull_reportPath {dir : Path} (hdir : dir.hasNull = false) (title : String) (now : Int) :
    (reportPath dir title now).hasNull = false :=
  Path.hasNull_child hdir (not_mem_reportName (by decide) (by decide) title now)

end Desk

end Walkthrough
