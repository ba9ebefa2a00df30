import Mathlib.Data.List.Basic
import Mathlib.Data.List.Infix
import Mathlib.Data.List.TakeWhile
import Walkthrough.Proofs.Desk
import Walkthrough.Proofs.Files
import Walkthrough.Proofs.Lines
import Walkthrough.Proofs.Result
import Walkthrough.Upload.Files

/-!
Where the files of an upload come from: from its entries if it has any, otherwise from its paths that
are not blank. A relative path is walked from the base directory, name by name, on which way there are no
links; any other is kept as it is written.
-/
namespace Walkthrough

namespace Text

/-- A text without the white space around it. -/
structure Trims (raw t : String) : Prop where
  around : ∃ before after, raw.toList = before ++ t.toList ++ after ∧
    ∀ c ∈ before ++ after, isBlank c = true
  first : ∀ c ∈ t.toList.head?, isBlank c = false
  last : ∀ c ∈ t.toList.getLast?, isBlank c = false

section Trimming

variable {p : Char → Bool} {before cs : List Char} {raw t : String}

theorem dropWhile_before (hbefore : ∀ c ∈ before, p c = true) (hfirst : ∀ c ∈ cs.head?, p c = false) :
    (before ++ cs).dropWhile p = cs := by
  rw [List.dropWhile_append_of_pos hbefore]
  cases cs with
  | nil => rfl
  | cons c cs => rw [List.dropWhile_cons_of_neg (by simp [hfirst c rfl])]

theorem dropWhile_head? (p : Char → Bool) (cs : List Char) :
    ∀ c ∈ (cs.dropWhile p).head?, p c = false := by
  intro c hc
  have := List.head?_dropWhile_not p cs
  rw [Option.mem_def.mp hc] at this
  exact this

theorem trims_trim (raw : String) : Trims raw (trim raw) where
  around := by
    obtain ⟨before, after, hparts, hbefore, hafter⟩ := trimBy_parts isBlank raw.toList
    refine ⟨before, after, by rwa [trim, String.toList_ofList], fun c hc => ?_⟩
    exact (List.mem_append.mp hc).elim (hbefore c) (hafter c)
  first := by
    intro c hc
    rw [trim, String.toList_ofList, trimBy, List.head?_reverse] at hc
    -- What is left begins as the text does once the blanks in front are gone.
    refine dropWhile_head? isBlank raw.toList c ?_
    rw [← List.getLast?_reverse, ← List.takeWhile_append_dropWhile
      (p := isBlank) (l := (raw.toList.dropWhile isBlank).reverse), List.getLast?_append,
      Option.mem_def.mp hc]
    rfl
  last := by
    intro c hc
    rw [trim, String.toList_ofList, trimBy, List.getLast?_reverse] at hc
    exact dropWhile_head? isBlank _ c hc

theorem Trims.eq_trim (h : Trims raw t) : t = trim raw := by
  obtain ⟨before, after, hparts, hblank⟩ := h.around
  have hbefore : ∀ c ∈ before, isBlank c = true := fun c hc =>
    hblank c (List.mem_append_left after hc)
  have hafter : ∀ c ∈ after.reverse, isBlank c = true := fun c hc =>
    hblank c (List.mem_append_right before (List.mem_reverse.mp hc))
  have htrim : trimBy isBlank raw.toList = t.toList := by
    rw [hparts, trimBy, List.append_assoc]
    by_cases ht : t.toList = []
    · rw [ht, List.nil_append, List.dropWhile_eq_nil_iff.mpr hblank]
      rfl
    · have hfirst : ∀ c ∈ (t.toList ++ after).head?, isBlank c = false := by
        rw [List.head?_append_of_ne_nil _ ht]
        exact h.first
      have hlast : ∀ c ∈ t.toList.reverse.head?, isBlank c = false := by
        rw [List.head?_reverse]
        exact h.last
      rw [dropWhile_before hbefore hfirst, List.reverse_append, dropWhile_before hafter hlast,
        List.reverse_reverse]
  rw [trim, htrim, String.ofList_toList]

theorem trim_eq_empty : trim raw = "" ↔ isBlankText raw = true := by
  rw [isBlankText, List.all_eq_true]
  constructor
  · intro h
    obtain ⟨before, after, hparts, hblank⟩ := (trims_trim raw).around
    intro c hc
    rw [h] at hparts
    refine hblank c ?_
    simpa [hparts] using hc
  · intro h
    have hnil : Trims raw "" := ⟨⟨raw.toList, [], by simp, by simpa using h⟩, by simp, by simp⟩
    exact hnil.eq_trim.symm

end Trimming

end Text

namespace Path

/-- A name that a path can hold. -/
structure IsName (n : String) : Prop where
  some : n ≠ ""
  plain : '/' ∉ n.toList
  noDot : n ≠ "."

/-- A path as it is read from a text. -/
def Proper (p : Path) : Prop := ∀ n ∈ p.parts, IsName n

/-- Where names lead from a directory. Two dots lead to the directory around it, which for the root is
the root. -/
inductive Leads : List String → List String → List String → Prop
  | here {dir} : Leads dir [] dir
  | up {dir names dest} (rest : Leads dir.dropLast names dest) : Leads dir (".." :: names) dest
  | down {dir name names dest} (hname : name ≠ "..") (rest : Leads (dir ++ [name]) names dest) :
      Leads dir (name :: names) dest

section Walk

variable {dir dest names front rest : List String} {n raw : String} {p q : Path}

theorem slash_not_mem_splitBy {cs piece : List Char} (h : piece ∈ Text.splitBy (· == '/') cs) :
    '/' ∉ piece := by
  induction cs generalizing piece with
  | nil =>
    cases List.mem_singleton.mp h
    simp
  | cons c cs ih =>
    unfold Text.splitBy at h
    split at h
    · rcases List.mem_cons.mp h with rfl | h
      · simp
      · exact ih h
    · rename_i hc
      have hc : '/' ≠ c := fun heq => hc (beq_iff_eq.mpr heq.symm)
      split at h
      · rename_i first more hsplit
        rw [hsplit] at ih
        rcases List.mem_cons.mp h with rfl | h
        · exact List.not_mem_cons_of_ne_of_not_mem hc (ih List.mem_cons_self)
        · exact ih (List.mem_cons_of_mem _ h)
      · cases List.mem_singleton.mp h
        simpa using hc

theorem ofString_proper (raw : String) : (ofString raw).Proper := by
  intro n hn
  unfold ofString at hn
  obtain ⟨hmem, hkept⟩ := List.mem_filter.mp hn
  obtain ⟨piece, hpiece, rfl⟩ := List.mem_map.mp hmem
  obtain ⟨hsome, hdot⟩ : String.ofList piece ≠ "" ∧ String.ofList piece ≠ "." := by simpa using hkept
  exact ⟨hsome, by rw [String.toList_ofList]; exact slash_not_mem_splitBy hpiece, hdot⟩

/-- The stack of `withoutDots` holds the way to the directory, its last name on top. -/
theorem leads_iff_foldl (stack : List String) : Leads stack.reverse names dest ↔
    (names.foldl (fun done n => if n = ".." then done.drop 1 else n :: done) stack).reverse =
      dest := by
  induction names generalizing stack with
  | nil =>
    constructor
    · rintro ⟨⟩
      rfl
    · rintro rfl
      exact .here
  | cons n names ih =>
    rw [List.foldl_cons]
    by_cases hn : n = ".."
    · subst hn
      rw [if_pos rfl, ← ih, List.drop_one, ← List.dropLast_reverse]
      constructor
      · intro h
        cases h with
        | up rest => exact rest
        | down hname => exact absurd rfl hname
      · exact .up
    · rw [if_neg hn, ← ih, List.reverse_cons]
      constructor
      · intro h
        cases h with
        | up => exact absurd rfl hn
        | down _ rest => exact rest
      · exact .down hn

theorem leads_iff : Leads [] names dest ↔ withoutDots names = dest :=
  leads_iff_foldl []

/-- The second part of a way starts where the first one leads. -/
theorem leads_append : Leads dir (front ++ rest) dest ↔
    ∃ mid, Leads dir front mid ∧ Leads mid rest dest := by
  induction front generalizing dir with
  | nil =>
    constructor
    · exact fun h => ⟨dir, .here, h⟩
    · rintro ⟨_, ⟨⟩, h⟩
      exact h
  | cons n front ih =>
    rw [List.cons_append]
    constructor
    · intro h
      cases h with
      | up h =>
        obtain ⟨mid, hfront, hrest⟩ := ih.mp h
        exact ⟨mid, .up hfront, hrest⟩
      | down hname h =>
        obtain ⟨mid, hfront, hrest⟩ := ih.mp h
        exact ⟨mid, .down hname hfront, hrest⟩
    · rintro ⟨mid, hfront, hrest⟩
      cases hfront with
      | up h => exact .up (ih.mpr ⟨mid, h, hrest⟩)
      | down hname h => exact .down hname (ih.mpr ⟨mid, h, hrest⟩)

/-- The names of the place that a way leads to are names of the way, and none of them is dots. -/
theorem Leads.of_mem (h : Leads dir names dest) (hdest : n ∈ dest) :
    n ∈ dir ∨ n ∈ names ∧ n ≠ ".." := by
  induction h with
  | here => exact .inl hdest
  | up _ ih =>
    obtain h | ⟨h, hn⟩ := ih hdest
    · exact .inl (List.mem_of_mem_dropLast h)
    · exact .inr ⟨List.mem_cons_of_mem _ h, hn⟩
  | down hname _ ih =>
    obtain h | ⟨h, hn⟩ := ih hdest
    · obtain h | h := List.mem_append.mp h
      · exact .inl h
      · cases List.mem_singleton.mp h
        exact .inr ⟨List.mem_cons_self, hname⟩
    · exact .inr ⟨List.mem_cons_of_mem _ h, hn⟩

end Walk

end Path

/-- The entries of an upload's paths. -/
def UploadPaths.entries : UploadPaths → List String
  | .none => []
  | .one path => [path]
  | .many paths => paths

namespace Upload

/-- The text that is handed over for a path. -/
inductive Located (env : Environment) (base : Path) (fromBase : Bool) (raw : String) : String → Prop
  | kept {p : Path} (expands : env.expandUser? (Path.ofString raw) = some p)
      (whole : p.isAbsolute = true ∨ fromBase = false) : Located env base fromBase raw p.toString
  | resolved {p : Path} {dir dest : List String}
      (expands : env.expandUser? (Path.ofString raw) = some p) (relative : p.isAbsolute = false)
      (fromBase_eq : fromBase = true) (nonull : ∀ n ∈ base.parts ++ p.parts, '\x00' ∉ n.toList)
      (toBase : Path.Leads [] base.parts dir) (toFile : Path.Leads dir p.parts dest)
      (names : ∀ n ∈ dest, Path.IsName n ∧ n ≠ "..") :
      Located env base fromBase raw ("/" ++ "/".intercalate dest)

/-- The file that is handed over for an entry. -/
inductive Entered (env : Environment) (base : Path) (fromBase : Bool) (f : FileEntry) :
    UploadFile → Prop
  | content {text : String} {bytes : List Nat} (source : f.source = .content text)
      (decodes : f.encoding.decode text = .ok bytes) :
      Entered env base fromBase f (.content f.name f.mimeType bytes)
  | path {raw text : String} (source : f.source = .path raw)
      (located : Located env base fromBase raw text) : Entered env base fromBase f (.path text)

/-- The files of an upload in order: those of its entries, or those of its paths that are not blank. -/
inductive Collects (env : Environment) (base : Path) (u : Upload) : List UploadFile → Prop
  | entries {files : List UploadFile} (some : u.files ≠ [])
      (each : List.Forall₂ (Entered env base u.resolveFromBase) u.files files) :
      Collects env base u files
  | paths {files : List UploadFile} (none : u.files = [])
      (each : List.Forall₂ (fun raw file => ∃ path text, Text.Trims raw path ∧
        Located env base u.resolveFromBase path text ∧ file = .path text)
        (u.paths.entries.filter fun path => !Text.isBlankText path) files) :
      Collects env base u files

section Collected

variable {env : Environment} {base : Path} {fromBase : Bool} {raw text title : String}
  {f : FileEntry} {file : UploadFile} {files : List UploadFile} {u : Upload}

theorem expandUser?_proper {p q : Path} (h : env.expandUser? p = some q) (hp : p.Proper) :
    q.Proper := by
  unfold Environment.expandUser? at h
  split at h
  · rename_i first rest hroot hparts
    have hrest : ∀ n ∈ rest, Path.IsName n := fun n hn =>
      hp n (hparts ▸ List.mem_cons_of_mem first hn)
    split at h
    · obtain ⟨home, hhome, rfl⟩ := Option.map_eq_some_iff.mp h
      obtain ⟨dir, -, hdir⟩ := Option.bind_eq_some_iff.mp hhome
      unfold Environment.homePath? at hdir
      split at hdir
      · cases hdir
      · cases hdir
        intro n hn
        obtain hn | hn := List.mem_append.mp (show n ∈ (Path.ofString dir).parts ++ rest from hn)
        · exact Path.ofString_proper dir n hn
        · exact hrest n hn
    · cases h
      exact hp
  · cases h
    exact hp

theorem join_of_relative {p : Path} (hrelative : p.isAbsolute = false) :
    base.join p = { base with parts := base.parts ++ p.parts } :=
  if_neg (by rw [hrelative]; exact Bool.false_ne_true)

/-- The path of a relative one in the base directory, without dots. -/
theorem resolve_join {p : Path} (habs : base.isAbsolute = true) (hrelative : p.isAbsolute = false)
    (cwd : Path) : Path.resolve cwd (base.join p) =
      ⟨.slash, Path.withoutDots (base.parts ++ p.parts)⟩ := by
  have hwhole : cwd.join { base with parts := base.parts ++ p.parts } =
      { base with parts := base.parts ++ p.parts } := if_pos habs
  rw [Path.resolve, join_of_relative hrelative, hwhole]

theorem resolvePath_eq_ok (habs : base.isAbsolute = true) (hbase : base.Proper) :
    resolvePath env base fromBase raw = .ok text ↔ Located env base fromBase raw text := by
  constructor
  · intro h
    unfold resolvePath at h
    split at h
    · cases h
    · rename_i p hexpands
      have hp := expandUser?_proper hexpands (Path.ofString_proper raw)
      split at h
      · rename_i hwhole
        cases h
        exact .kept hexpands (by simpa using hwhole)
      · rename_i hpart
        obtain ⟨hrelative, hfrom⟩ : p.isAbsolute = false ∧ fromBase = true := by simpa using hpart
        dsimp only at h
        split at h
        · cases h
        · rename_i hnull
          have hways := resolve_join habs hrelative env.cwd
          rw [hways] at h
          cases h
          have hway : Path.Leads [] (base.parts ++ p.parts) _ := Path.leads_iff.mpr rfl
          obtain ⟨dir, hdir, hfile⟩ := Path.leads_append.mp hway
          refine .resolved hexpands hrelative hfrom ?_ hdir hfile fun n hn => ?_
          · rw [join_of_relative hrelative] at hnull
            exact Path.hasNull_eq_false.mp (by simpa using hnull)
          · obtain hn | ⟨hn, hdots⟩ := hway.of_mem hn
            · cases hn
            · exact ⟨(List.mem_append.mp hn).elim (hbase n) (hp n), hdots⟩
  · intro h
    unfold resolvePath
    cases h with
    | kept hexpands hwhole =>
      rw [hexpands]
      exact if_pos (by simpa using hwhole)
    | @resolved p dir dest hexpands hrelative hfrom hnull hdir hfile _ =>
      have hplain : (base.join p).hasNull = false := by
        rw [join_of_relative hrelative]
        exact Path.hasNull_eq_false.mpr hnull
      have hdest : Path.withoutDots (base.parts ++ p.parts) = dest :=
        Path.leads_iff.mp (Path.leads_append.mpr ⟨dir, hdir, hfile⟩)
      rw [hexpands]
      dsimp only
      rw [if_neg (by simp [hrelative, hfrom]), hplain, if_neg Bool.false_ne_true,
        resolve_join habs hrelative, hdest]
      rfl

theorem ofEntry_eq_ok (habs : base.isAbsolute = true) (hbase : base.Proper) :
    ofEntry env base fromBase f = .ok file ↔ Entered env base fromBase f file := by
  unfold ofEntry
  cases hsource : f.source with
  | content c =>
    dsimp only
    rw [except_map_eq_ok]
    constructor
    · rintro ⟨bytes, hbytes, rfl⟩
      exact .content hsource hbytes
    · rintro (⟨hc, hbytes⟩ | ⟨hc, -⟩)
      · cases hsource.symm.trans hc
        exact ⟨_, hbytes, rfl⟩
      · cases hsource.symm.trans hc
  | path raw =>
    dsimp only
    rw [except_map_eq_ok]
    constructor
    · rintro ⟨text, htext, rfl⟩
      exact .path hsource ((resolvePath_eq_ok habs hbase).mp htext)
    · rintro (⟨hc, -⟩ | ⟨hc, htext⟩)
      · cases hsource.symm.trans hc
      · cases hsource.symm.trans hc
        exact ⟨_, (resolvePath_eq_ok habs hbase).mpr htext, rfl⟩

/-- The paths that count are those that are not blank, trimmed. -/
theorem listed_eq (paths : UploadPaths) : listed paths =
    (paths.entries.filter fun path => !Text.isBlankText path).map Text.trim := by
  have htrimmed : ∀ ps : List String, listed.trimmed ps =
      (ps.filter fun path => !Text.isBlankText path).map Text.trim := by
    intro ps
    rw [listed.trimmed, List.filter_map]
    congr 1
    refine List.filter_congr fun path _ => ?_
    simp [Text.trim_eq_empty]
  cases paths with
  | none => rfl
  | one path => exact htrimmed [path]
  | many ps => exact htrimmed ps

theorem collect_eq_ok (habs : base.isAbsolute = true) (hbase : base.Proper) :
    u.collect env base = .ok files ↔ Collects env base u files := by
  unfold collect
  by_cases hfiles : u.files = []
  · rw [if_pos (by simp [hfiles]), mapM_eq_ok, listed_eq, List.forall₂_map_left_iff]
    have heach : ∀ path file,
        (resolvePath env base u.resolveFromBase (Text.trim path)).map UploadFile.path = .ok file ↔
          ∃ t text, Text.Trims path t ∧ Located env base u.resolveFromBase t text ∧
            file = .path text := by
      intro path file
      rw [except_map_eq_ok]
      constructor
      · rintro ⟨text, htext, rfl⟩
        exact ⟨_, text, Text.trims_trim path, (resolvePath_eq_ok habs hbase).mp htext, rfl⟩
      · rintro ⟨t, text, ht, htext, rfl⟩
        exact ⟨text, (resolvePath_eq_ok habs hbase).mpr (ht.eq_trim ▸ htext), rfl⟩
    simp only [heach]
    constructor
    · exact .paths hfiles
    · rintro (⟨hsome, -⟩ | ⟨-, heach⟩)
      · exact absurd hfiles hsome
      · exact heach
  · rw [if_neg (by simpa using hfiles), mapM_eq_ok]
    simp only [ofEntry_eq_ok habs hbase]
    constructor
    · exact .entries hfiles
    · rintro (⟨-, heach⟩ | ⟨hnone, -⟩)
      · exact heach
      · exact absurd hnone hfiles

theorem resolvePath_ne_engine {e : Failure} (h : resolvePath env base fromBase raw = .error e)
    (x : EngineError) : e ≠ .engine x := by
  rintro rfl
  unfold resolvePath at h
  split at h
  · unfold noHome at h
    dsimp only at h
    split at h <;> cases h
  · split at h
    · cases h
    · dsimp only at h
      split at h <;> cases h

theorem ofEntry_ne_engine {e : Failure} (h : ofEntry env base fromBase f = .error e)
    (x : EngineError) : e ≠ .engine x := by
  rintro rfl
  unfold ofEntry at h
  split at h
  · have hdecode := except_map_eq_error.mp h
    unfold Encoding.decode at hdecode
    split at hdecode
    · cases hdecode
    · obtain ⟨fault, -, hfault⟩ := mapError_eq_error.mp hdecode
      cases fault <;> cases hfault
  · exact resolvePath_ne_engine (except_map_eq_error.mp h) x rfl

theorem collect_ne_engine {e : Failure} (h : u.collect env base = .error e) (x : EngineError) :
    e ≠ .engine x := by
  unfold collect at h
  split at h
  · obtain ⟨_, p, _, -, -, hp⟩ := mapM_eq_error.mp h
    exact resolvePath_ne_engine (except_map_eq_error.mp hp) x
  · obtain ⟨_, f, _, -, -, hf⟩ := mapM_eq_error.mp h
    exact ofEntry_ne_engine hf x

/-- Nothing is collected where there are neither entries nor paths that are not blank. -/
theorem collect_eq_nil : u.collect env base = .ok [] ↔
    u.files = [] ∧ ∀ path ∈ u.paths.entries, Text.isBlankText path = true := by
  unfold collect
  by_cases hfiles : u.files = []
  · rw [if_pos (by simp [hfiles]), mapM_eq_ok, List.forall₂_nil_right_iff, listed_eq]
    simp [hfiles]
  · rw [if_neg (by simpa using hfiles), mapM_eq_ok, List.forall₂_nil_right_iff]
    simp [hfiles]

/-- An upload from an absolute base directory gives files just if there are some, and then it gives
those of its entries or else those of its paths. Its paths do not matter if it has entries. It has no
files just if there are neither entries nor paths that are not blank. -/
theorem require_collects (habs : base.isAbsolute = true) (hbase : base.Proper)
    (env : Environment) (title : String) (u : Upload) :
    (∀ files, u.require env base title = .ok files ↔ files ≠ [] ∧ Collects env base u files) ∧
    (u.files ≠ [] → ∀ paths, ({ u with paths } : Upload).require env base title =
      u.require env base title) ∧
    ((∃ x, u.require env base title = .error (.engine x) ∧ x.fault = .noFiles) ↔
      u.files = [] ∧ ∀ path ∈ u.paths.entries, Text.isBlankText path = true) := by
  refine ⟨fun files => ?given, fun hfiles paths => ?entries, ?none⟩
  case given =>
    rw [require, except_bind_eq_ok, ← collect_eq_ok habs hbase]
    constructor
    · rintro ⟨files', hcollect, h⟩
      cases files' with
      | nil => cases h
      | cons file rest =>
        cases h
        exact ⟨List.cons_ne_nil _ _, hcollect⟩
    · rintro ⟨hsome, hcollect⟩
      refine ⟨files, hcollect, ?_⟩
      rw [if_neg (by simpa using hsome)]
      rfl
  case entries =>
    have hcollect : collect env base { u with paths } = collect env base u := by
      unfold collect
      rw [if_neg (by simpa using hfiles), if_neg (by simpa using hfiles)]
    rw [require, require, hcollect]
  case none =>
    have hnil : u.collect env base = .ok [] ↔ _ := collect_eq_nil
    rw [← hnil]
    constructor
    · rintro ⟨x, h, -⟩
      obtain h | ⟨files, hcollect, h⟩ := except_bind_eq_error.mp h
      · exact absurd rfl (collect_ne_engine h x)
      · cases files with
        | nil => exact hcollect
        | cons file rest => cases h
    · intro hcollect
      refine ⟨_, except_bind_eq_error.mpr (.inr ⟨[], hcollect, rfl⟩), rfl⟩

theorem require_collects_of_climbing_path :
    let env : Environment := { vars := [("HOME", "/home/oracle")] }
    let base := Path.ofString "/srv/base"
    let u : Upload := { paths := .many ["a/../../../../b", " ", " /x/../y ", "~/z"] }
    Collects env base u [.path "/b", .path "/x/../y", .path "/home/oracle/z"] := by
  intro env base u
  have habs : base.isAbsolute = true := by decide +kernel
  obtain ⟨hfiles, -, -⟩ := require_collects habs (Path.ofString_proper _) env "upload" u
  exact ((hfiles _).mp rfl).2

end Collected

end Upload

end Walkthrough
