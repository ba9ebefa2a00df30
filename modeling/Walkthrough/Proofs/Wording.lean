import Walkthrough.Proofs.Loading
import Walkthrough.Proofs.Spelling
import Walkthrough.Step.Vocabulary

/-!
What the wording of a document tells. A step is read from a document just if the document tells it:
each of its keys spells one field of the model that it stands in, no other key spells that field,
and the field holds what is made of the value of the key, or its default where no key spells it.
-/
namespace Walkthrough

namespace Schema

open Checked

variable {α β : Type} {fields : List Field} {ms : Members} {f : Field} {a : α}

/-- What a reader makes of a value, if it accepts the value. -/
def Reads (read : Json → Checked α) (v : Json) (a : α) : Prop := read v = good a

/-- A list whose items are read one by one. -/
def Listed (reads : Json → α → Prop) (v : Json) (as : List α) : Prop :=
  ∃ items, v = .arr items ∧ List.Forall₂ reads items as

/-- What members give for a field: what is made of the value of the only key that spells it, or the
default, if there is one, where no key does. -/
inductive Field.Gives (f : Field) (reads : Json → α → Prop) (default : Option α) (ms : Members)
    (a : α) : Prop
  | spelled (key : String) (v : Json) (hkey : key ∈ f.spellings) (hvalue : ms.get? key = some v)
    (honly : ∀ other ∈ ms.keys, other ∈ f.spellings → other = key) (hread : reads v a)
  | absent (hnone : ∀ key ∈ ms.keys, key ∉ f.spellings) (hdefault : default = some a)

/-- Members of which some key is ignored by the fields: none of them has such a spelling, or another
key spells the same field. -/
inductive Stray (fields : List Field) (ms : Members) : Prop
  | unknown (key : String) (hkey : key ∈ ms.keys) (hnone : ∀ f ∈ fields, key ∉ f.spellings)
  | doubled (f : Field) (key other : String) (hf : f ∈ fields) (hkey : key ∈ ms.keys)
    (hother : other ∈ ms.keys) (hne : other ≠ key) (hspells : key ∈ f.spellings)
    (hspells' : other ∈ f.spellings)

theorem Stray.not_spelled (h : Stray fields ms) : ¬ Spelled fields ms := by
  intro hspelled
  cases h with
  | unknown key hkey hnone =>
    obtain ⟨f, ⟨hf, hspells⟩, -⟩ := hspelled.known key hkey
    exact hnone f hf hspells
  | doubled f key other hf hkey hother hne hspells hspells' =>
    exact hne (hspelled.once f hf key hkey other hother hspells hspells')

theorem list_eq_good {read : Json → Checked α} {v : Json} {as : List α} :
    list read v = good as ↔ Listed (Reads read) v as := by
  cases v with
  | arr items =>
    constructor
    · exact fun h => ⟨items, rfl, itemsFrom_eq_good.mp h⟩
    · rintro ⟨_, ⟨⟩, h⟩
      exact itemsFrom_eq_good.mpr h
  | _ => exact iff_of_false nofun (by rintro ⟨_, ⟨⟩, -⟩)

section Gives

variable {reads : Json → α → Prop} {default : Option α}

/-- Every item of a list tells something where the list is what a key of the field holds. -/
theorem Field.Gives.of_item {defaults : Option (List α)} {as : List α}
    (h : f.Gives (Listed reads) defaults ms as) {key : String} (hkey : key ∈ f.spellings)
    {items : List Json} (hitems : ms.get? key = some (.arr items)) {v : Json} (hv : v ∈ items) :
    ∃ a, reads v a := by
  have hmem : key ∈ ms.keys := List.mem_map_of_mem (Members.mem_of_get? hitems)
  cases h with
  | spelled key' v' hkey' hvalue honly hread =>
    obtain rfl := honly key hmem hkey
    obtain ⟨items', rfl, hall⟩ := hread
    cases hitems.symm.trans hvalue
    obtain ⟨a, -, ha⟩ := forall₂_mem_right hall.flip hv
    exact ⟨a, ha⟩
  | absent hnone hdefault => exact absurd hkey (hnone key hmem)

/-- Where each field is spelled once, what is found for a field is what the members give for it. -/
theorem Spelled.gives_iff (h : Spelled fields ms) (hf : f ∈ fields) :
    f.Gives reads default ms a ↔ (∃ m, f.find? ms = some m ∧ reads m.2 a) ∨
      f.find? ms = none ∧ default = some a := by
  constructor
  · rintro (⟨key, v, hkey, hvalue, honly, hread⟩ | ⟨hnone, hdefault⟩)
    · exact .inl ⟨(key, v), Field.find?_of_only hkey hvalue honly, hread⟩
    · exact .inr ⟨Field.find?_eq_none.mpr hnone, hdefault⟩
  · rintro (⟨⟨key, v⟩, hm, hread⟩ | ⟨hnone, hdefault⟩)
    · obtain ⟨hkey, hvalue⟩ := Field.of_find? hm
      have hmem : key ∈ ms.keys := List.mem_map_of_mem (Members.mem_of_get? hvalue)
      exact .spelled key v hkey hvalue
        (fun other hother hspells => h.once f hf key hmem other hother hkey hspells) hread
    · exact .absent (Field.find?_eq_none.mp hnone) hdefault

theorem Spelled.optional_iff (h : Spelled fields ms) (hf : f ∈ fields) {read : Json → Checked α}
    {default : α} :
    f.optional read default ms = good a ↔ f.Gives (Reads read) (some default) ms a := by
  rw [Field.optional_eq_good, h.gives_iff hf, Option.some.injEq]
  rfl

theorem Spelled.required_iff (h : Spelled fields ms) (hf : f ∈ fields) {read : Json → Checked α} :
    f.required read ms = good a ↔ f.Gives (Reads read) none ms a := by
  rw [Field.required_eq_good, h.gives_iff hf]
  simp [Reads]

end Gives

end Schema

open Schema Schema.Checked

/-- What the members of a document tell of a check. -/
structure Check.Tells (ms : Members) (c : Check) : Prop where
  spelled : Spelled fields ms
  kind : kindField.Gives (Reads fun v => CheckKind.ofName <$> text v) none ms c.kind
  selector : selectorField.Gives (Reads (nullOr text)) (some none) ms c.selector
  selectorKind : selectorKindField.Gives (Reads SelectorKind.read) (some .css) ms c.selectorKind
  index : indexField.Gives (Reads readIndex) (some none) ms c.index
  data : dataField.Gives (Reads anything) (some .null) ms c.data
  soft : softField.Gives (Reads truth) (some false) ms c.soft
  message : messageField.Gives (Reads (nullOr text)) (some none) ms c.message
  attributeName : attributeField.Gives (Reads (nullOr text)) (some none) ms c.attributeName
  cssProperty : cssPropertyField.Gives (Reads (nullOr text)) (some none) ms c.cssProperty
  customName : customNameField.Gives (Reads (nullOr text)) (some none) ms c.customName
  options : optionsField.Gives (Reads object) (some []) ms c.options

/-- The source of a file, from its path and its content of which one is given. -/
inductive FileSource.Of : Option String → Option String → FileSource → Prop
  | path (p : String) : Of (some p) none (.path p)
  | content (text : String) : Of none (some text) (.content text)

/-- What the members of a document tell of a file. -/
structure FileEntry.Tells (ms : Members) (e : FileEntry) : Prop where
  spelled : Spelled fields ms
  source : ∃ path content, FileSource.Of path content e.source ∧
    pathField.Gives (Reads (nullOr text)) (some none) ms path ∧
    contentField.Gives (Reads (nullOr text)) (some none) ms content
  encoding : encodingField.Gives (Reads readEncoding) (some .base64) ms e.encoding
  name : nameField.Gives (Reads (nullOr text)) (some none) ms e.name
  mimeType : mimeTypeField.Gives (Reads text) (some "application/octet-stream") ms e.mimeType
  named : ∀ text, e.source = .content text → e.name.getD "" ≠ ""

/-- A value is an object whose members tell something. -/
def Json.Tells {α : Type} (tells : Members → α → Prop) (v : Json) (a : α) : Prop :=
  ∃ ms, v = .obj ms ∧ tells ms a

/-- What the members of a document tell of an upload. -/
structure Upload.Tells (ms : Members) (u : Upload) : Prop where
  paths : dataField.Gives (Reads readPaths) (some .none) ms u.paths
  files : filesField.Gives (Listed (Json.Tells FileEntry.Tells)) (some []) ms u.files
  resolveFromBase : resolveFromBaseField.Gives (Reads truth) (some true) ms u.resolveFromBase
  clearFirst : clearFirstField.Gives (Reads truth) (some false) ms u.clearFirst

namespace Step

/-- What the members of a document tell of an action of some kind. -/
inductive TellsAction (ms : Members) : ActionKind → Action → Prop
  | navigate {path} (h : pathField.Gives (Reads text) (some "/") ms path) :
    TellsAction ms .navigate (.navigate path)
  | fill {entry} (h : dataField.Gives (Reads readEntry) none ms entry) :
    TellsAction ms .fill (.fill entry)
  | type {entry} (h : dataField.Gives (Reads readEntry) none ms entry) :
    TellsAction ms .type (.type entry)
  | click : TellsAction ms .click .click
  | hover : TellsAction ms .hover .hover
  | pressKey {key} (h : keyField.Gives (Reads readKey) none ms key) :
    TellsAction ms .pressKey (.pressKey key)
  | wait : TellsAction ms .wait .wait
  | upload {u} (h : Upload.Tells ms u) : TellsAction ms .upload (.upload u)
  | custom {name data} (hname : customNameField.Gives (Reads text) none ms name)
    (hdata : dataField.Gives (Reads anything) (some .null) ms data) :
    TellsAction ms .custom (.custom name data)

/-- What the members of a document tell of the fields of a step whose action is of some kind. -/
structure TellsFields (k : ActionKind) (ms : Members) (s : Step) : Prop where
  name : nameField.Gives (Reads text) (some "") ms s.name
  selector : selectorField.Gives (Reads (nullOr text)) (some none) ms s.selector
  selectorKind : selectorKindField.Gives (Reads SelectorKind.read) (some .css) ms s.selectorKind
  waitTime : waitTimeField.Gives (Reads readWaitTime) (some none) ms s.waitTime
  index : indexField.Gives (Reads readIndex) (some none) ms s.index
  iterate : iterateField.Gives (Reads truth) (some false) ms s.iterate
  group : groupField.Gives (Reads readGroup) (some none) ms s.group
  options : optionsField.Gives (Reads object) (some []) ms s.options
  checks : checksField.Gives (Listed (Json.Tells Check.Tells)) (some []) ms s.checks
  action : TellsAction ms k s.action

/-- What the members of a document tell of a step: its fields, and that these go together. -/
structure Tells (k : ActionKind) (ms : Members) (s : Step) : Prop extends TellsFields k ms s where
  spelled : Spelled (fields k) ms
  kind : ∃ name, ms.get? "action" = some (.str name) ∧ ActionKind.ofName? name = some k
  repeated : s.iterate = true → s.group = none ∧ s.target?.isSome = true
  timed : s.isWait = true → s.waitTime.isSome = true

/-- A document with a key that is ignored: by the action that it names, by one of its checks, or by
one of the files that it uploads. A key of another action is ignored like any other. -/
inductive Strays : Json → Prop
  | step {ms : Members} (h : ∀ name k, ms.get? "action" = some (.str name) →
      ActionKind.ofName? name = some k → Stray (fields k) ms) : Strays (.obj ms)
  | check {ms : Members} {items c} (hchecks : ms.get? "validations" = some (.arr items))
    (hc : .obj c ∈ items) (h : Stray Check.fields c) : Strays (.obj ms)
  | file {ms : Members} {name items e} (haction : ms.get? "action" = some (.str name))
    (hupload : ActionKind.ofName? name = some .upload)
    (hfiles : ms.get? "files" = some (.arr items)) (he : .obj e ∈ items)
    (h : Stray FileEntry.fields e) : Strays (.obj ms)

end Step

/-- A list is read from a value just if its items are told there. -/
theorem Schema.reads_list {α : Type} {read : Json → Checked α} {tells : Json → α → Prop}
    (h : ∀ v a, read v = good a ↔ tells v a) : Reads (list read) = Listed tells := by
  have hread : Reads read = tells := by
    funext v a
    exact propext (h v a)
  funext v as
  rw [← hread]
  exact propext list_eq_good

theorem Schema.submodel_iff {α : Type} {read : Members → Checked α} {tells : Members → α → Prop}
    (h : ∀ ms a, read ms = good a ↔ tells ms a) (v : Json) (a : α) :
    submodel read v = good a ↔ Json.Tells tells v a := by
  rw [submodel_eq_good]
  simp only [h, Json.Tells]

theorem Schema.model_iff {α : Type} {fields : List Field} (h : Unambiguous fields)
    {read : Members → Checked α} {ms : Members} {a : α} :
    model fields read ms = good a ↔ Spelled fields ms ∧ read ms = good a := by
  rw [model_eq_good, noOthers_iff h, and_comm]

namespace Check

theorem readFields_iff {ms : Members} {c : Check} (hs : Spelled fields ms) :
    readFields ms = good c ↔ Tells ms c := by
  constructor
  · intro h
    obtain ⟨hkind, hselector, hselectorKind, hindex, hdata, hsoft, hmessage, hattribute, hcss,
      hcustom, hoptions⟩ := of_readFields h
    exact ⟨hs, (hs.required_iff (by decide)).mp hkind, (hs.optional_iff (by decide)).mp hselector,
      (hs.optional_iff (by decide)).mp hselectorKind, (hs.optional_iff (by decide)).mp hindex,
      (hs.optional_iff (by decide)).mp hdata, (hs.optional_iff (by decide)).mp hsoft,
      (hs.optional_iff (by decide)).mp hmessage, (hs.optional_iff (by decide)).mp hattribute,
      (hs.optional_iff (by decide)).mp hcss, (hs.optional_iff (by decide)).mp hcustom,
      (hs.optional_iff (by decide)).mp hoptions⟩
  · intro h
    unfold readFields
    rw [(hs.required_iff (by decide)).mpr h.kind, (hs.optional_iff (by decide)).mpr h.selector,
      (hs.optional_iff (by decide)).mpr h.selectorKind, (hs.optional_iff (by decide)).mpr h.index,
      (hs.optional_iff (by decide)).mpr h.data, (hs.optional_iff (by decide)).mpr h.soft,
      (hs.optional_iff (by decide)).mpr h.message,
      (hs.optional_iff (by decide)).mpr h.attributeName,
      (hs.optional_iff (by decide)).mpr h.cssProperty,
      (hs.optional_iff (by decide)).mpr h.customName, (hs.optional_iff (by decide)).mpr h.options]
    rfl

/-- A check is read from a value just if the value tells it. -/
theorem read_iff (v : Json) (c : Check) : Check.read v = good c ↔ Json.Tells Tells v c := by
  apply submodel_iff
  intro ms c
  refine (model_iff unambiguous_fields).trans ⟨?_, ?_⟩
  · rintro ⟨hs, h⟩
    exact (readFields_iff hs).mp h
  · intro h
    exact ⟨h.spelled, (readFields_iff h.spelled).mpr h⟩

end Check

namespace FileEntry

theorem readDraft_iff {ms : Members} {d : Draft} (hs : Spelled fields ms) :
    readDraft ms = good d ↔ pathField.Gives (Reads (nullOr text)) (some none) ms d.path ∧
      contentField.Gives (Reads (nullOr text)) (some none) ms d.content ∧
      encodingField.Gives (Reads readEncoding) (some .base64) ms d.encoding ∧
      nameField.Gives (Reads (nullOr text)) (some none) ms d.name ∧
      mimeTypeField.Gives (Reads text) (some "application/octet-stream") ms d.mimeType := by
  constructor
  · intro h
    obtain ⟨_, _, h₁, hmimeType, rfl⟩ := seq_eq_good.mp h
    obtain ⟨_, _, h₂, hname, rfl⟩ := seq_eq_good.mp h₁
    obtain ⟨_, _, h₃, hencoding, rfl⟩ := seq_eq_good.mp h₂
    obtain ⟨_, _, h₄, hcontent, rfl⟩ := seq_eq_good.mp h₃
    obtain ⟨_, hpath, rfl⟩ := map_eq_good.mp h₄
    exact ⟨(hs.optional_iff (by decide)).mp hpath, (hs.optional_iff (by decide)).mp hcontent,
      (hs.optional_iff (by decide)).mp hencoding, (hs.optional_iff (by decide)).mp hname,
      (hs.optional_iff (by decide)).mp hmimeType⟩
  · rintro ⟨hpath, hcontent, hencoding, hname, hmimeType⟩
    unfold readDraft
    rw [(hs.optional_iff (by decide)).mpr hpath, (hs.optional_iff (by decide)).mpr hcontent,
      (hs.optional_iff (by decide)).mpr hencoding, (hs.optional_iff (by decide)).mpr hname,
      (hs.optional_iff (by decide)).mpr hmimeType]
    rfl

/-- A file has one source, and embedded content has a name. -/
theorem ofDraft_iff {d : Draft} {e : FileEntry} : ofDraft d = good e ↔
    FileSource.Of d.path d.content e.source ∧ d.encoding = e.encoding ∧ d.name = e.name ∧
      d.mimeType = e.mimeType ∧ ∀ text, e.source = .content text → e.name.getD "" ≠ "" := by
  obtain ⟨source, encoding, name, mimeType⟩ := e
  obtain ⟨path, content, encoding', name', mimeType'⟩ := d
  constructor
  · intro h
    unfold ofDraft at h
    dsimp only at h
    split at h
    · cases h
      exact ⟨.path _, rfl, rfl, rfl, nofun⟩
    · split at h
      · cases h
      · rename_i hnamed
        cases h
        exact ⟨.content _, rfl, rfl, rfl, fun _ _ => hnamed⟩
    · cases h
  · rintro ⟨hsource, hencoding, hname, hmimeType, hnamed⟩
    cases hencoding
    cases hname
    cases hmimeType
    cases hsource with
    | path p => rfl
    | content text => exact if_neg (hnamed text rfl)

/-- A file is read from a value just if the value tells it. -/
theorem read_iff (v : Json) (e : FileEntry) : FileEntry.read v = good e ↔ Json.Tells Tells v e := by
  apply submodel_iff
  intro ms e
  unfold readMembers
  rw [andThen_eq_good]
  constructor
  · rintro ⟨d, hd, he⟩
    obtain ⟨hs, hd⟩ := (model_iff unambiguous_fields).mp hd
    obtain ⟨hpath, hcontent, hencoding, hname, hmimeType⟩ := (readDraft_iff hs).mp hd
    obtain ⟨hsource, rfl₁, rfl₂, rfl₃, hnamed⟩ := ofDraft_iff.mp he
    exact ⟨hs, ⟨_, _, hsource, hpath, hcontent⟩, rfl₁ ▸ hencoding, rfl₂ ▸ hname, rfl₃ ▸ hmimeType,
      hnamed⟩
  · rintro ⟨hs, ⟨path, content, hsource, hpath, hcontent⟩, hencoding, hname, hmimeType, hnamed⟩
    refine ⟨⟨path, content, e.encoding, e.name, e.mimeType⟩, ?_, ?_⟩
    · exact (model_iff unambiguous_fields).mpr
        ⟨hs, (readDraft_iff hs).mpr ⟨hpath, hcontent, hencoding, hname, hmimeType⟩⟩
    · exact ofDraft_iff.mpr ⟨hsource, rfl, rfl, rfl, hnamed⟩

end FileEntry

namespace Upload

theorem readFields_iff {ms : Members} {u : Upload} (hs : Spelled (Step.fields .upload) ms) :
    readFields ms = good u ↔ Tells ms u := by
  have hfiles : Reads (list FileEntry.read) = Listed (Json.Tells FileEntry.Tells) :=
    reads_list FileEntry.read_iff
  constructor
  · intro h
    obtain ⟨hpaths, hfiles', hresolve, hclear⟩ := of_readFields h
    exact ⟨(hs.optional_iff (by decide)).mp hpaths,
      hfiles ▸ (hs.optional_iff (by decide)).mp hfiles',
      (hs.optional_iff (by decide)).mp hresolve, (hs.optional_iff (by decide)).mp hclear⟩
  · rintro ⟨hpaths, hfiles', hresolve, hclear⟩
    rw [← hfiles] at hfiles'
    unfold readFields
    rw [(hs.optional_iff (by decide)).mpr hpaths, (hs.optional_iff (by decide)).mpr hfiles',
      (hs.optional_iff (by decide)).mpr hresolve, (hs.optional_iff (by decide)).mpr hclear]
    rfl

end Upload

namespace Step

variable {k : ActionKind} {ms : Members}

theorem readAction_iff (hs : Spelled (fields k) ms) {a : Action} :
    readAction k ms = good a ↔ TellsAction ms k a := by
  constructor
  · intro h
    cases k with
    | navigate =>
      obtain ⟨_, hpath, rfl⟩ := map_eq_good.mp h
      exact .navigate ((hs.optional_iff (by decide)).mp hpath)
    | fill =>
      obtain ⟨_, hentry, rfl⟩ := map_eq_good.mp h
      exact .fill ((hs.required_iff (by decide)).mp hentry)
    | type =>
      obtain ⟨_, hentry, rfl⟩ := map_eq_good.mp h
      exact .type ((hs.required_iff (by decide)).mp hentry)
    | click =>
      cases h
      exact .click
    | hover =>
      cases h
      exact .hover
    | pressKey =>
      obtain ⟨_, hkey, rfl⟩ := map_eq_good.mp h
      exact .pressKey ((hs.required_iff (by decide)).mp hkey)
    | wait =>
      cases h
      exact .wait
    | upload =>
      obtain ⟨_, hu, rfl⟩ := map_eq_good.mp h
      exact .upload ((Upload.readFields_iff hs).mp hu)
    | custom =>
      obtain ⟨_, _, hcustom, hdata, rfl⟩ := seq_eq_good.mp h
      obtain ⟨_, hname, rfl⟩ := map_eq_good.mp hcustom
      exact .custom ((hs.required_iff (by decide)).mp hname)
        ((hs.optional_iff (by decide)).mp hdata)
  · intro h
    cases h with
    | navigate h => exact map_eq_good.mpr ⟨_, (hs.optional_iff (by decide)).mpr h, rfl⟩
    | fill h => exact map_eq_good.mpr ⟨_, (hs.required_iff (by decide)).mpr h, rfl⟩
    | type h => exact map_eq_good.mpr ⟨_, (hs.required_iff (by decide)).mpr h, rfl⟩
    | click => rfl
    | hover => rfl
    | pressKey h => exact map_eq_good.mpr ⟨_, (hs.required_iff (by decide)).mpr h, rfl⟩
    | wait => rfl
    | upload h => exact map_eq_good.mpr ⟨_, (Upload.readFields_iff hs).mpr h, rfl⟩
    | custom hname hdata =>
      refine seq_eq_good.mpr ⟨_, _, map_eq_good.mpr ⟨_, ?_, rfl⟩, ?_, rfl⟩
      · exact (hs.required_iff (by decide)).mpr hname
      · exact (hs.optional_iff (by decide)).mpr hdata

theorem readFields_iff (hs : Spelled (fields k) ms) {s : Step} :
    readFields (readAction k) ms = good s ↔ TellsFields k ms s := by
  have hcommon : ∀ f ∈ commonFields, f ∈ fields k := fun f hf => List.mem_append_left _ hf
  have hchecks : Reads (list Check.read) = Listed (Json.Tells Check.Tells) :=
    reads_list Check.read_iff
  have hname := hcommon nameField (by decide)
  have hselector := hcommon selectorField (by decide)
  have hselectorKind := hcommon selectorKindField (by decide)
  have hwaitTime := hcommon waitTimeField (by decide)
  have hindex := hcommon indexField (by decide)
  have hiterate := hcommon iterateField (by decide)
  have hgroup := hcommon groupField (by decide)
  have hoptions := hcommon optionsField (by decide)
  have hchecksField := hcommon checksField (by decide)
  constructor
  · intro h
    obtain ⟨h₁, h₂, h₃, h₄, h₅, h₆, h₇, h₈, h₉, haction⟩ := of_readFields h
    exact ⟨(hs.optional_iff hname).mp h₁, (hs.optional_iff hselector).mp h₂,
      (hs.optional_iff hselectorKind).mp h₃, (hs.optional_iff hwaitTime).mp h₄,
      (hs.optional_iff hindex).mp h₅, (hs.optional_iff hiterate).mp h₆,
      (hs.optional_iff hgroup).mp h₇, (hs.optional_iff hoptions).mp h₈,
      hchecks ▸ (hs.optional_iff hchecksField).mp h₉, (readAction_iff hs).mp haction⟩
  · intro h
    have h₉ := h.checks
    rw [← hchecks] at h₉
    unfold readFields
    rw [(hs.optional_iff hname).mpr h.name, (hs.optional_iff hselector).mpr h.selector,
      (hs.optional_iff hselectorKind).mpr h.selectorKind,
      (hs.optional_iff hwaitTime).mpr h.waitTime, (hs.optional_iff hindex).mpr h.index,
      (hs.optional_iff hiterate).mpr h.iterate, (hs.optional_iff hgroup).mpr h.group,
      (hs.optional_iff hoptions).mpr h.options, (hs.optional_iff hchecksField).mpr h₉,
      (readAction_iff hs).mpr h.action]
    rfl

theorem checkIteration_eq_good {s : Step} :
    checkIteration s = good s ↔
      (s.iterate = true → s.group = none ∧ s.target?.isSome = true) := by
  unfold checkIteration
  cases s.iterate <;> cases s.group <;> cases s.target? <;> simp [fail]

theorem checkWait_eq_good {s : Step} :
    checkWait s = good s ↔ (s.isWait = true → s.waitTime.isSome = true) := by
  unfold checkWait
  rw [require_eq_good]
  cases s.isWait <;> cases s.waitTime <;> simp

/-- A step of a kind is read from members that tell it, and from no others. -/
theorem readKind_iff {s : Step} : readKind k ms = good s ↔ TellsFields k ms s ∧
    Spelled (fields k) ms ∧ (s.iterate = true → s.group = none ∧ s.target?.isSome = true) ∧
      (s.isWait = true → s.waitTime.isSome = true) := by
  rw [← checkIteration_eq_good, ← checkWait_eq_good]
  constructor
  · intro h
    obtain ⟨hfields, hothers, hiteration, hwait⟩ := of_readKind h
    have hs := (noOthers_iff (unambiguous_fields k)).mp hothers
    exact ⟨(readFields_iff hs).mp hfields, hs, hiteration, hwait⟩
  · rintro ⟨hfields, hs, hiteration, hwait⟩
    have hmodel : model (fields k) (readFields (readAction k)) ms = good s :=
      (model_iff (unambiguous_fields k)).mpr ⟨hs, (readFields_iff hs).mpr hfields⟩
    unfold readKind
    rw [under_eq_good, andThen_eq_good]
    exact ⟨s, andThen_eq_good.mpr ⟨s, hmodel, hiteration⟩, hwait⟩

/-- A step is read from a document just if the document tells it, with an action that is offered. -/
theorem readAmong_eq_ok {offered : List ActionKind} {v : Json} {s : Step} :
    readAmong offered v = .ok s ↔ ∃ k ∈ offered, Json.Tells (Tells k) v s := by
  cases v with
  | obj ms =>
    unfold readAmong
    dsimp only
    rw [find?_action]
    constructor
    · intro h
      cases haction : Members.get? ms "action" with
      | none => simp [haction, ofChecked_eq_ok, fail] at h
      | some action =>
        rw [haction] at h
        cases action with
        | str name =>
          dsimp only [Option.map_some] at h
          split at h
          · rename_i k hk
            rw [ofChecked_eq_ok] at h
            split at h
            · rename_i hoffered
              obtain ⟨hfields, hs, hrepeated, htimed⟩ := readKind_iff.mp h
              exact ⟨k, List.contains_iff_mem.mp hoffered, ms, rfl, hfields, hs,
                ⟨name, haction, hk⟩, hrepeated, htimed⟩
            · cases h
          · cases h
        | _ => cases h
    · rintro ⟨k, hoffered, _, ⟨⟩, htells⟩
      obtain ⟨name, haction, hk⟩ := htells.kind
      rw [haction]
      dsimp only [Option.map_some]
      rw [hk]
      dsimp only
      rw [if_pos (List.contains_iff_mem.mpr hoffered), ofChecked_eq_ok]
      exact readKind_iff.mpr
        ⟨htells.toTellsFields, htells.spelled, htells.repeated, htells.timed⟩
  | _ => exact iff_of_false (fun h => by cases h) (by rintro ⟨_, _, _, ⟨⟩, -⟩)

/-- A document with a key that is ignored tells no step. -/
theorem Strays.not_tells {k : ActionKind} {v : Json} {s : Step} (h : Strays v) :
    ¬ Json.Tells (Tells k) v s := by
  rintro ⟨ms, rfl, htells⟩
  obtain ⟨name, haction, hk⟩ := htells.kind
  cases h with
  | step h => exact (h name k haction hk).not_spelled htells.spelled
  | check hchecks hc h =>
    obtain ⟨_, _, ⟨⟩, hc⟩ := htells.checks.of_item (by decide) hchecks hc
    exact h.not_spelled hc.spelled
  | file haction' hupload hfiles he h =>
    cases haction'.symm.trans haction
    cases hupload.symm.trans hk
    have haction := htells.action
    generalize s.action = a at haction
    cases haction with
    | upload hu =>
      obtain ⟨_, _, ⟨⟩, he⟩ := hu.files.of_item (by decide) hfiles he
      exact h.not_spelled he.spelled

end Step

namespace Vocabulary

theorem read_eq_ok {v : Vocabulary} {document : Json} {s : Step} :
    v.read document = .ok s ↔ Step.readAmong v.kinds document = .ok s := by
  unfold read
  split
  · rename_i hnone
    rw [List.isEmpty_iff.mp hnone]
    refine iff_of_false nofun fun h => ?_
    obtain ⟨k, hk, -⟩ := Step.readAmong_eq_ok.mp h
    cases hk
  · cases Step.readAmong v.kinds document <;> simp [Except.mapError]

/-- Nothing in a document of a step is ignored. A step is read from it just if the document tells
that step: in the step, in its checks and in its files each key spells one field, which no other key
spells, the field holds what is made of the key's value, and a field without a key has its default.
A document with a key of no field of its action, though another action may have it, or with two
spellings of one field is refused, and so is one with such a check or such a file. -/
theorem nothing_ignored (v : Vocabulary) (document : Json) :
    (∀ s, v.read document = .ok s ↔ ∃ k ∈ v.kinds, Json.Tells (Step.Tells k) document s) ∧
      (Step.Strays document → ∃ r, v.read document = .error r) := by
  have hread : ∀ s, v.read document = .ok s ↔
      ∃ k ∈ v.kinds, Json.Tells (Step.Tells k) document s :=
    fun s => read_eq_ok.trans Step.readAmong_eq_ok
  refine ⟨hread, fun hstrays => ?_⟩
  cases h : v.read document with
  | ok s =>
    obtain ⟨k, -, htells⟩ := (hread s).mp h
    exact (hstrays.not_tells htells).elim
  | error r => exact ⟨r, rfl⟩

/-- Another spelling of a path is read; the key to press in such a step is not passed over. -/
theorem nothing_ignored_of_foreign_key :
    let v : Vocabulary := ⟨ActionKind.all⟩
    let told : Members := [("action", .str "goto"), ("url", .str "/todo")]
    let stray : Members := [("action", .str "navigate"), ("key", .str "Enter")]
    (∃ s, v.read (.obj told) = .ok s ∧ ∃ k ∈ v.kinds, s.Tells k told) ∧
      ∃ r, v.read (.obj stray) = .error r := by
  intro v told stray
  constructor
  · have h : (v.read (.obj told)).isOk = true := by decide +kernel
    cases hread : v.read (.obj told) with
    | ok s =>
      obtain ⟨k, hk, _, ⟨⟩, htells⟩ := ((nothing_ignored v (.obj told)).1 s).mp hread
      exact ⟨s, rfl, k, hk, htells⟩
    | error r =>
      rw [hread] at h
      cases h
  · refine (nothing_ignored v (.obj stray)).2 (.step fun name k haction hk => ?_)
    cases haction
    have hnavigate : ActionKind.ofName? "navigate" = some .navigate := by decide
    cases hnavigate.symm.trans hk
    exact .unknown "key" (by decide) (by decide)

end Vocabulary

end Walkthrough
