import Walkthrough.Proofs.Directories

/-!
Files hold what was last written to them. What is written to a file of another name changes nothing
about them, and neither does making directories. Reports and event logs have such names.
-/
namespace Walkthrough

theorem map_set_of_eq {α β : Type} {f : α → β} {xs : List α} {n : Nat} {x y : α}
    (hx : xs[n]? = some x) (h : f y = f x) : (xs.set n y).map f = xs.map f := by
  refine List.ext_getElem? fun k => ?_
  rw [List.getElem?_map, List.getElem?_map]
  by_cases hk : n = k
  · subst hk
    obtain ⟨hn, -⟩ := List.getElem?_eq_some_iff.mp hx
    rw [List.getElem?_set_self hn, hx, Option.map_some, Option.map_some, h]
  · rw [List.getElem?_set_ne hk]

namespace Text

variable {q : Char → Bool} {suffix : List Char}

theorem splitBy_of_none (h : ∀ c ∈ suffix, q c = false) : splitBy q suffix = [suffix] := by
  induction suffix with
  | nil => rfl
  | cons c cs ih =>
    unfold splitBy
    rw [h c List.mem_cons_self, if_neg Bool.false_ne_true,
      ih fun x hx => h x (List.mem_cons_of_mem c hx)]

/-- A text without marks at the end goes to the last piece. -/
theorem splitBy_append (h : ∀ c ∈ suffix, q c = false) (cs : List Char) :
    ∃ pieces last, splitBy q (cs ++ suffix) = pieces ++ [last ++ suffix] := by
  induction cs with
  | nil => exact ⟨[], [], splitBy_of_none h⟩
  | cons c cs ih =>
    obtain ⟨pieces, last, hsplit⟩ := ih
    rw [List.cons_append]
    unfold splitBy
    rw [hsplit]
    split
    · exact ⟨[] :: pieces, last, rfl⟩
    · cases pieces with
      | nil => exact ⟨[], c :: last, rfl⟩
      | cons piece pieces => exact ⟨(c :: piece) :: pieces, last, rfl⟩

end Text

namespace Path

theorem ne_slash {cs : List Char} (h : '/' ∉ cs) : ∀ c ∈ cs, (c == '/') = false := by
  intro c hc
  rw [beq_eq_false_iff_ne]
  rintro rfl
  exact h hc

/-- The path leads to a file of a name, and not to where dots lead to. -/
def EndsIn (p : Path) (name : String) : Prop := p.parts.getLast? = some name ∧ name ≠ ".."

/-- Two paths that lead to files of different names. -/
def Apart (p q : Path) : Prop := ∃ name other, p.EndsIn name ∧ q.EndsIn other ∧ name ≠ other

theorem Apart.symm {p q : Path} : p.Apart q → q.Apart p :=
  fun ⟨name, other, hp, hq, hne⟩ => ⟨other, name, hq, hp, hne.symm⟩

/-- Where a path ends as seen from any directory is where it ends. -/
theorem EndsIn.join {p : Path} {name : String} (h : p.EndsIn name) (cwd : Path) :
    ∃ front, (cwd.join p).parts = front ++ [name] := by
  obtain ⟨front, hfront⟩ := List.getLast?_eq_some_iff.mp h.1
  unfold Path.join
  split
  · exact ⟨front, hfront⟩
  · exact ⟨cwd.parts ++ front, by rw [hfront, List.append_assoc]⟩

/-- A name without slashes is the only one that it stands for. -/
theorem child_of_plain {name : String} (hslash : '/' ∉ name.toList) (hname : name ≠ "")
    (hdot : name ≠ ".") (dir : Path) : dir.child name = { dir with parts := dir.parts ++ [name] } := by
  have hplain := ne_slash hslash
  have hroot : name.toList.takeWhile (· == '/') = [] := by
    cases h : name.toList with
    | nil => rfl
    | cons c cs => rw [List.takeWhile_cons_of_neg (by simp [hplain c (by rw [h]; simp)])]
  have hof : ofString name = ⟨.relative, [name]⟩ := by
    unfold ofString
    simp only [hroot, Text.splitBy_of_none hplain]
    simp [PathRoot.ofSlashes, hname, hdot]
  unfold child Path.join
  rw [hof]
  rfl

/-- Whatever stands in front of an ending without slashes, the path has that ending. -/
theorem child_endsIn {ending : String} (hslash : '/' ∉ ending.toList) (hlong : 2 < ending.length)
    (dir : Path) (stem : String) : ∃ front, (dir.child (stem ++ ending)).EndsIn (front ++ ending) := by
  have hplain := ne_slash hslash
  obtain ⟨pieces, last, hsplit⟩ := Text.splitBy_append hplain stem.toList
  have hlength : ∀ front : String, 2 < (front ++ ending).length := by
    intro front
    rw [String.length_append]
    omega
  have hshort : ∀ front name : String, name.length ≤ 2 → front ++ ending ≠ name := by
    intro front name hname heq
    have := hlength front
    rw [heq] at this
    omega
  have hof : (ofString (stem ++ ending)).parts.getLast? = some (String.ofList last ++ ending) := by
    have hlast : String.ofList (last ++ ending.toList) = String.ofList last ++ ending := by
      rw [String.ofList_append, String.ofList_toList]
    unfold ofString
    simp only [String.toList_append, hsplit, List.map_append, List.filter_append, List.map_cons,
      List.map_nil, hlast]
    rw [List.filter_cons_of_pos, List.filter_nil, List.getLast?_concat]
    have hempty := hshort (String.ofList last) "" (by decide)
    have hdot := hshort (String.ofList last) "." (by decide)
    simp [hempty, hdot]
  refine ⟨String.ofList last, ?_, hshort _ _ (by decide)⟩
  unfold child Path.join
  split
  · exact hof
  · rw [List.getLast?_append, hof]
    rfl

end Path

namespace Disk

variable {d d' : Disk} {cwd p q : Path} {key other : List String} {c : Content}
  {f : Option Content → Content}

theorem follow_append (key front rest : List String) :
    d.follow key (front ++ rest) = (d.follow key front).bind fun k => d.follow k rest := by
  induction front generalizing key with
  | nil => rfl
  | cons n front ih =>
    simp only [List.cons_append, follow]
    cases d.entry? key with
    | none => rfl
    | some e =>
      cases e with
      | file c => rfl
      | directory =>
        dsimp only
        split
        · rfl
        · exact ih _

theorem locate_follow (h : d.locate cwd p = .ok key) : d.follow [] (cwd.join p).parts = .ok key := by
  unfold locate at h
  split at h
  · cases h
  · cases hf : d.follow [] (cwd.join p).parts with
    | ok k =>
      rw [hf] at h
      cases h
      rfl
    | error r =>
      rw [hf] at h
      cases h

/-- A file is found under its own name. -/
theorem locate_getLast? {name : String} (hp : p.EndsIn name) (h : d.locate cwd p = .ok key) :
    key.getLast? = some name := by
  obtain ⟨front, hfront⟩ := hp.join cwd
  have hfollow := locate_follow h
  rw [hfront, follow_append] at hfollow
  cases hf : d.follow [] front with
  | error r =>
    rw [hf] at hfollow
    cases hfollow
  | ok k =>
    rw [hf] at hfollow
    change d.follow k [name] = _ at hfollow
    unfold follow at hfollow
    split at hfollow
    · cases hfollow
    · cases hfollow
    · split at hfollow
      · cases hfollow
      · rw [if_neg hp.2] at hfollow
        cases hfollow
        exact List.getLast?_concat

/-- A name in a directory is found unless it is too long. -/
theorem locate_name {name : String} (hl : d.locate cwd p = .ok key)
    (he : d.entry? key = some .directory) (hnull : '\x00' ∉ name.toList) (hdots : name ≠ "..") :
    d.locate cwd { p with parts := p.parts ++ [name] } =
      if maxNameLength < (Text.Utf8.encode name).length then
        .error ⟨.nameTooLong, { p with parts := p.parts ++ [name] }⟩
      else .ok (key ++ [name]) := by
  generalize hq' : ({ p with parts := p.parts ++ [name] } : Path) = q
  have hfollow : d.follow [] (cwd.join q).parts = d.follow key [name] := by
    have hparts : (cwd.join q).parts = (cwd.join p).parts ++ [name] := by
      subst hq'
      unfold Path.join
      split
      · rename_i habs
        rw [if_pos (show p.isAbsolute = true from habs)]
      · rename_i habs
        rw [if_neg (show ¬ p.isAbsolute = true from habs)]
        exact (List.append_assoc _ _ _).symm
    rw [hparts, follow_append, locate_follow hl]
    rfl
  have hq : q.hasNull = false := by
    subst hq'
    rw [Path.hasNull_eq_false]
    intro n hn
    rcases List.mem_append.mp hn with hn | hn
    · exact Path.hasNull_eq_false.mp (hasNull_of_locate hl) n hn
    · rwa [List.mem_singleton.mp hn]
  unfold locate
  rw [hq, if_neg Bool.false_ne_true, hfollow]
  unfold follow
  rw [he]
  dsimp only
  by_cases hlong : maxNameLength < (Text.Utf8.encode name).length
  · rw [if_pos hlong, if_pos hlong]
  · rw [if_neg hlong, if_neg hlong, if_neg hdots]
    rfl

theorem locate_ne_of_apart (h : p.Apart q) (hp : d.locate cwd p = .ok key)
    (hq : d.locate cwd q = .ok other) : key ≠ other := by
  obtain ⟨name, name', hname, hname', hne⟩ := h
  rintro rfl
  have hlast := (locate_getLast? hname hp).symm.trans (locate_getLast? hname' hq)
  exact hne (Option.some.inj hlast)

theorem Takes.ne_nil (h : d.Takes key) : key ≠ [] := by
  rintro rfl
  exact h.free rfl

/-- What is put where a file can be written lets files be written wherever they could be. -/
theorem Takes.put (h : d.Takes key) (hother : d.Takes other) (c : Content) :
    (d.put other (.file c)).Takes key := by
  have hretains := retains_put hother.free (.file c)
  by_cases hne : key = other
  · subst hne
    have hself := entry_put_self d h.ne_nil (.file c)
    refine ⟨fun he => ?_, fun he => ?_⟩
    · rw [hself] at he
      cases he
    · rw [hself] at he
      cases he
  · have hsame := entry_put_of_ne d hne (.file c)
    exact ⟨hsame ▸ h.free, fun he => hretains _ (h.around (hsame ▸ he))⟩

/-- A path at which a file can be written. -/
def Writable (d : Disk) (cwd p : Path) : Prop := ∃ key, d.locate cwd p = .ok key ∧ d.Takes key

theorem Writable.change (h : d.Writable cwd p) (f : Option Content → Content) :
    ∃ d', d.change cwd p f = .ok d' := by
  obtain ⟨key, hl, htakes⟩ := h
  exact ⟨_, change_of_takes hl htakes f⟩

/-- Writing files does not keep other files from being written. -/
theorem Writable.of_change (h : d.Writable cwd p) (hchange : d.change cwd q f = .ok d') :
    d'.Writable cwd p := by
  obtain ⟨key, hl, htakes⟩ := h
  obtain ⟨other, -, hother, rfl⟩ := change_ok hchange
  exact ⟨key, (retains_put hother.free _).locate hl, htakes.put hother _⟩

/-- A file can be written under each name in a directory under which there is no directory later on. -/
theorem writable_of_not_directory {name : String} (hdir : d.isDirectory cwd p = .ok true)
    (hnull : '\x00' ∉ name.toList) (hdots : name ≠ "..") (h : d.Retains d')
    (hfree : d'.isDirectory cwd { p with parts := p.parts ++ [name] } = .ok false) :
    d.Writable cwd { p with parts := p.parts ++ [name] } := by
  obtain ⟨key, hl, he⟩ := isDirectory_iff.mp hdir
  have hname := locate_name hl he hnull hdots
  have hname' := locate_name (h.locate hl) (h key he) hnull hdots
  by_cases hlong : maxNameLength < (Text.Utf8.encode name).length
  · rw [if_pos hlong] at hname'
    unfold isDirectory status at hfree
    rw [hname'] at hfree
    cases hfree
  · rw [if_neg hlong] at hname
    refine ⟨_, hname, fun hthere => ?_, fun _ => by rwa [List.dropLast_concat]⟩
    have hlater := h.isDirectory (isDirectory_iff.mpr ⟨_, hname, hthere⟩)
    rw [hfree] at hlater
    cases hlater

theorem read_iff : d.read cwd p = .ok c ↔
    ∃ key, d.locate cwd p = .ok key ∧ d.entry? key = some (.file c) := by
  unfold read
  cases hl : d.locate cwd p with
  | error e => simp [bind, Except.bind]
  | ok key =>
    simp only [bind, Except.bind]
    cases he : d.entry? key with
    | none => simp [throw, throwThe, MonadExceptOf.throw, he]
    | some e => cases e <;> simp [throw, throwThe, MonadExceptOf.throw, pure, Except.pure, he]

theorem not_directory_of_read (h : d.read cwd p = .ok c) : d.isDirectory cwd p = .ok false := by
  obtain ⟨key, hl, he⟩ := read_iff.mp h
  unfold isDirectory status
  rw [hl]
  simp only [he]
  rfl

theorem writable_of_read (h : d.read cwd p = .ok c) : d.Writable cwd p := by
  obtain ⟨key, hl, he⟩ := read_iff.mp h
  exact ⟨key, hl, by simp [he], by simp [he]⟩

/-- A file that was changed holds what it was changed to. -/
theorem read_change (h : d.change cwd p f = .ok d') :
    ∃ old, d'.read cwd p = .ok (f old) ∧ ∀ c, d.read cwd p = .ok c → old = some c := by
  obtain ⟨key, hl, htakes, rfl⟩ := change_ok h
  refine ⟨d.content? key, read_iff.mpr ⟨key, (retains_put htakes.free _).locate hl,
    entry_put_self d htakes.ne_nil _⟩, fun c hc => ?_⟩
  obtain ⟨key', hl', he⟩ := read_iff.mp hc
  cases hl.symm.trans hl'
  unfold content?
  rw [he]

/-- A change of a file leaves those of other names as they are. -/
theorem read_change_of_apart (hapart : p.Apart q) (hread : d.read cwd p = .ok c)
    (h : d.change cwd q f = .ok d') : d'.read cwd p = .ok c := by
  obtain ⟨key, hl, he⟩ := read_iff.mp hread
  obtain ⟨other, hl', htakes, rfl⟩ := change_ok h
  refine read_iff.mpr ⟨key, (retains_put htakes.free _).locate hl, ?_⟩
  rw [entry_put_of_ne d (locate_ne_of_apart hapart hl hl')]
  exact he

/-- What stands on one disk stands on the other. -/
def Grows (d d' : Disk) : Prop := ∀ key e, d.entry? key = some e → d'.entry? key = some e

theorem Grows.retains (h : d.Grows d') : d.Retains d' := fun key hkey => h key _ hkey

theorem Grows.read (h : d.Grows d') (hread : d.read cwd p = .ok c) : d'.read cwd p = .ok c := by
  obtain ⟨key, hl, he⟩ := read_iff.mp hread
  exact read_iff.mpr ⟨key, h.retains.locate hl, h key _ he⟩

theorem makeDirectory_ok (h : d.makeDirectory cwd p = .ok d') :
    ∃ key, d.entry? key = none ∧ d' = d.put key .directory := by
  unfold makeDirectory at h
  cases hl : d.locate cwd p with
  | error e => simp [hl, bind, Except.bind] at h
  | ok key =>
    simp only [hl, bind, Except.bind] at h
    split at h
    · cases h
    · rename_i hfree
      split at h
      · cases h
        exact ⟨key, Option.not_isSome_iff_eq_none.mp hfree, rfl⟩
      · cases h

/-! What holds on however many directories are put where nothing stands holds on when a directory is
made. -/

section Made

variable {P : Disk → Prop}
  (hput : ∀ d key, d.entry? key = none → P d → P (d.put key .directory))

include hput

theorem of_ensureDirectory (h : d.ensureDirectory cwd p = .ok d') (hd : P d) : P d' := by
  unfold ensureDirectory at h
  split at h
  · rename_i hmake
    cases h
    obtain ⟨key, hfree, rfl⟩ := makeDirectory_ok hmake
    exact hput d key hfree hd
  · split at h
    · cases h
      exact hd
    · cases h

theorem of_ensureReversed {root : PathRoot} {names : List String}
    (h : d.ensureReversed cwd root names = .ok d') (hd : P d) : P d' := by
  induction names generalizing d d' with
  | nil => exact of_ensureDirectory hput h hd
  | cons n before ih =>
    unfold ensureReversed at h
    dsimp only at h
    split at h
    · rename_i hmake
      cases h
      obtain ⟨key, hfree, rfl⟩ := makeDirectory_ok hmake
      exact hput d key hfree hd
    · split at h
      · split at h
        · rename_i hbefore
          exact of_ensureDirectory hput h (ih hbefore hd)
        · cases h
      · split at h
        · cases h
          exact hd
        · cases h

theorem of_ensurePath (h : d.ensurePath cwd p = .ok d') (hd : P d) : P d' :=
  of_ensureReversed hput h hd

end Made

/-- What is put in an empty place leaves everything else as it is. -/
theorem grows_put (hkey : d.entry? key = none) (e : Entry) : d.Grows (d.put key e) := by
  intro other e' he
  have hne : other ≠ key := by
    rintro rfl
    rw [hkey] at he
    cases he
  rw [entry_put_of_ne d hne]
  exact he

/-- Making directories leaves everything that is there as it is. -/
theorem grows_ensurePath (h : d.ensurePath cwd p = .ok d') : d.Grows d' :=
  of_ensurePath (P := d.Grows)
    (fun _ _ hfree hgrows other e he => grows_put hfree _ other e (hgrows other e he)) h
    fun _ _ he => he

end Disk

namespace Desk

variable {front : String} {dir p : Path} {title : String} {now : Int}

theorem reportName_ne (hname : front.length ≤ 2) : reportName title now ≠ front := by
  rintro rfl
  simp only [reportName, String.length_append] at hname
  exact absurd hname (by rw [show ".json".length = 5 from rfl]; omega)

/-- A report is kept in a file of its own name in the directory itself. -/
theorem reportPath_eq (dir : Path) (title : String) (now : Int) :
    reportPath dir title now = { dir with parts := dir.parts ++ [reportName title now] } :=
  Path.child_of_plain (not_mem_reportName (by decide) (by decide) title now)
    (reportName_ne (by decide)) (reportName_ne (by decide)) dir

theorem reportPath_endsIn (dir : Path) (title : String) (now : Int) :
    (reportPath dir title now).EndsIn (reportName title now) := by
  refine ⟨?_, reportName_ne (by decide)⟩
  rw [reportPath_eq]
  exact List.getLast?_concat

theorem reportPath_inj {title' : String} {now' : Int} :
    reportPath dir title now = reportPath dir title' now' ↔
      reportName title now = reportName title' now' := by
  rw [reportPath_eq, reportPath_eq]
  simp

/-- Reports are kept in one file just if they have the same name in safe letters and begin at the same
time. -/
theorem reportPath_eq_iff {title' : String} {now now' : Int} (h : 0 ≤ now) (h' : 0 ≤ now') :
    reportPath dir title now = reportPath dir title' now' ↔
      safeName title = safeName title' ∧ now = now' := by
  rw [reportPath_inj]
  refine ⟨fun heq => ?_, fun ⟨hname, htime⟩ => by rw [reportName, reportName, hname, htime]⟩
  obtain ⟨m, rfl⟩ := Int.eq_ofNat_of_zero_le h
  obtain ⟨m', rfl⟩ := Int.eq_ofNat_of_zero_le h'
  -- The number stands behind the last hyphen of the name.
  have hname : ∀ (title : String) (m : Nat), (reportName title m).toList =
      (safeName title).toList ++ '-' :: Nat.toDigits 10 m ++ ".json".toList := by
    intro title m
    have hrepr : toString (m : Int) = String.ofList (Nat.toDigits 10 m) := rfl
    simp [reportName, String.toList_append, hrepr]
  have hdigits : ∀ m : Nat, ∀ c ∈ (Nat.toDigits 10 m).reverse, (c != '-') = true := by
    intro m c hc
    have hdigit := Nat.isDigit_of_mem_toDigits (by decide) (by decide) (List.mem_reverse.mp hc)
    exact bne_iff_ne.mpr fun hminus => absurd (hminus ▸ hdigit) (by decide)
  have hcut : ∀ (title : String) (m : Nat),
      ((safeName title).toList ++ '-' :: Nat.toDigits 10 m).reverse.takeWhile (· != '-') =
        (Nat.toDigits 10 m).reverse := by
    intro title m
    rw [List.reverse_append, List.reverse_cons, List.append_assoc,
      List.takeWhile_append_of_pos (hdigits m)]
    simp
  have hlists := congrArg String.toList heq
  rw [hname, hname] at hlists
  have hfront := List.append_cancel_right hlists
  have htimes := congrArg (fun cs => (List.reverse cs).takeWhile (· != '-')) hfront
  rw [hcut, hcut] at htimes
  have hdigits' := List.reverse_inj.mp htimes
  have hvalue := congrArg (Nat.ofDigitChars 10 · 0) hdigits'
  rw [Nat.ofDigitChars_ten_toDigits, Nat.ofDigitChars_ten_toDigits] at hvalue
  rw [hdigits'] at hfront
  exact ⟨String.toList_inj.mp (List.append_cancel_right hfront), congrArg Int.ofNat hvalue⟩

/-- A report can be written where no directory stands later on. -/
theorem reportPath_writable {d d' : Disk} {cwd : Path} (hdir : d.isDirectory cwd dir = .ok true)
    (h : d.Retains d') (hfree : d'.isDirectory cwd (reportPath dir title now) = .ok false) :
    d.Writable cwd (reportPath dir title now) := by
  rw [reportPath_eq] at hfree ⊢
  exact Disk.writable_of_not_directory hdir (not_mem_reportName (by decide) (by decide) title now)
    (reportName_ne (by decide)) h hfree

/-- Reports in different files do not touch each other. -/
theorem apart_of_ne {title' : String} {now' : Int}
    (h : reportPath dir title now ≠ reportPath dir title' now') :
    (reportPath dir title now).Apart (reportPath dir title' now') :=
  ⟨_, _, reportPath_endsIn dir title now, reportPath_endsIn dir title' now',
    fun hname => h (reportPath_inj.mpr hname)⟩

/-- An event log and a report do not touch each other. -/
theorem apart_of_jsonl (h : p.EndsIn (front ++ ".jsonl")) (dir : Path) (title : String) (now : Int) :
    p.Apart (reportPath dir title now) := by
  refine ⟨_, _, h, reportPath_endsIn dir title now, fun hname => ?_⟩
  have hlog : ".jsonl".toList.getLast? = some 'l' := by decide
  have hreport : ".json".toList.getLast? = some 'n' := by decide
  have hlast := congrArg (fun s : String => s.toList.getLast?) hname
  simp only [reportName, String.toList_append, List.getLast?_append, hlog, hreport] at hlast
  cases hlast

/-- The files of the event logs, and which of them are open. -/
def logs (d : Desk) : List (Path × Bool) := d.journals.map fun j => (j.path, j.isOpen)

/-- What a listener does at a desk who writes to a file. -/
structure Touches (p : Path) (d d' : Desk) : Prop where
  cwd : d'.cwd = d.cwd
  reports : d'.reports = d.reports
  logs : d'.logs = d.logs
  disk : d'.disk = d.disk ∨ ∃ f, d.disk.change d.cwd p f = .ok d'.disk

section Touches

variable {path : Path} {d d' : Desk}

theorem touches_tryDisk (d : Desk) (p : Path) (f : Option Content → Content) :
    d.Touches p (d.tryDisk (d.disk.change d.cwd p f)).1 := by
  cases h : d.disk.change d.cwd p f with
  | ok disk => exact ⟨rfl, rfl, rfl, Or.inr ⟨f, h⟩⟩
  | error e => exact ⟨rfl, rfl, rfl, Or.inl rfl⟩

/-- A report changes its own file and nothing else. -/
theorem keepReport_touches (slot : Nat) (n : Notice) (d : Desk) : (keepReport slot n d).1 = d ∨
    ∃ p, d.reports[slot]? = some (some p) ∧ d.Touches p (keepReport slot n d).1 := by
  unfold keepReport
  split
  · exact Or.inl rfl
  · exact Or.inl rfl
  · rename_i p hp
    exact Or.inr ⟨p, hp, touches_tryDisk d p _⟩

/-- An event log changes its own file and nothing else. -/
theorem keepJournal_touches (slot : Nat) (n : Notice) (d : Desk) : (keepJournal slot n d).1 = d ∨
    ∃ x, d.logs[slot]? = some x ∧ d.Touches x.1 (keepJournal slot n d).1 := by
  unfold keepJournal
  cases entryOf? n with
  | none => exact Or.inl rfl
  | some e =>
    dsimp only [logEvent]
    cases hj : d.journals[slot]? with
    | none => exact Or.inl rfl
    | some j =>
      have hx : d.logs[slot]? = some (j.path, j.isOpen) := by
        rw [logs, List.getElem?_map, hj]
        rfl
      have hlogs : logs { d with journals := d.journals.set slot { j with seq := j.seq + 1 } } =
          d.logs := map_set_of_eq hj rfl
      refine Or.inr ⟨_, hx, ?_⟩
      dsimp only
      split
      · obtain ⟨hcwd, hreports, hsame, hdisk⟩ := touches_tryDisk
          { d with journals := d.journals.set slot { j with seq := j.seq + 1 } } j.path
          (Disk.appended (e.line j.runId (j.seq + 1) n.now))
        exact ⟨hcwd, hreports, hsame.trans hlogs, hdisk⟩
      · exact ⟨rfl, rfl, hlogs, Or.inl rfl⟩

theorem Touches.retains (h : d.Touches p d') : d'.cwd = d.cwd ∧ d.disk.Retains d'.disk := by
  refine ⟨h.cwd, ?_⟩
  obtain hsame | ⟨f, hchange⟩ := h.disk
  · rw [hsame]
    exact fun _ hkey => hkey
  · exact Disk.retains_change hchange

theorem Touches.writable (h : d.Touches p d') (hpath : d.disk.Writable d.cwd path) :
    d'.disk.Writable d'.cwd path := by
  rw [h.cwd]
  obtain hsame | ⟨f, hchange⟩ := h.disk
  · rwa [hsame]
  · exact hpath.of_change hchange

end Touches

end Desk
end Walkthrough
