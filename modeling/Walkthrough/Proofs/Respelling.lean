import Walkthrough.Proofs.Loading
import Walkthrough.Proofs.Relocation
import Walkthrough.Step.Vocabulary

/-!
Steps under other spellings. Other keys for the same fields, in a step, in its checks and in its
files, and the current names in place of former ones change nothing but the keys in the places of
the problems that are found.
-/
namespace Walkthrough

open Schema Schema.Checked

theorem CheckKind.ofName_former : ∀ m ∈ formerNames, ofName m.1 = ofName m.2.name := by
  decide +kernel

theorem ActionKind.ofName?_former :
    ∀ m ∈ formerNames, ofName? m.1 = some m.2 ∧ ofName? m.2.name = some m.2 := by
  decide +kernel

namespace Check

/-- Values of a field of a check that are alike: the same, or a former name of a kind and its
current one. -/
inductive Alike : Field → Json → Json → Prop
  | same (f v) : Alike f v v
  | formerKind {f name kind} (hf : f = kindField) (h : (name, kind) ∈ CheckKind.formerNames) :
    Alike f (.str name) (.str kind.name)

theorem Alike.eq {f : Field} {v v' : Json} (h : Alike f v v') (hf : f ≠ kindField) : v = v' := by
  cases h with
  | same => rfl
  | formerKind hkind _ => exact absurd hkind hf

/-- A check, and the same check under other spellings. -/
abbrev Respelled : Json → Json → Prop := ModelRespelled fields Alike

section Fields

variable {ms ms' : Members} (h : Respelling fields Alike ms ms')
include h

theorem kind_respelled :
    AgreesOn (kindField.required fun v => CheckKind.ofName <$> text v) ms ms' := by
  refine h.required unambiguous_fields (by decide) fun v v' hv => ?_
  cases hv with
  | same => exact Agrees.refl _ v
  | formerKind _ hname => exact congrArg good (CheckKind.ofName_former _ hname).symm

theorem optional_respelled {α : Type} (f : Field) (hf : f ∈ fields ∧ f ≠ kindField)
    (read : Json → Checked α) (default : α) : AgreesOn (f.optional read default) ms ms' :=
  h.optional unambiguous_fields hf.1 (fun _ _ hv => .of_eq (hv.eq hf.2) read) default

theorem readFields_respelled : AgreesOn readFields ms ms' := by
  have hkind := kind_respelled h
  have hselector := optional_respelled h selectorField (by decide) (nullOr text) none
  have hselectorKind := optional_respelled h selectorKindField (by decide) SelectorKind.read .css
  have hindex := optional_respelled h indexField (by decide) readIndex none
  have hdata := optional_respelled h dataField (by decide) anything .null
  have hsoft := optional_respelled h softField (by decide) truth false
  have hmessage := optional_respelled h messageField (by decide) (nullOr text) none
  have hattribute := optional_respelled h attributeField (by decide) (nullOr text) none
  have hcss := optional_respelled h cssPropertyField (by decide) (nullOr text) none
  have hcustom := optional_respelled h customNameField (by decide) (nullOr text) none
  have hoptions := optional_respelled h optionsField (by decide) object []
  exact ((((((((((hkind.map Check.mk).seq hselector).seq hselectorKind).seq hindex).seq hdata).seq
    hsoft).seq hmessage).seq hattribute).seq hcss).seq hcustom).seq hoptions

end Fields

theorem Respelled.agrees {v v' : Json} (h : Respelled v v') : Agrees Check.read v v' := by
  cases h with
  | same => exact Agrees.refl Check.read v
  | members h => exact (h.model unambiguous_fields (readFields_respelled h)).submodel

end Check

namespace FileEntry

/-- A file, and the same file under other spellings. -/
abbrev Respelled : Json → Json → Prop := ModelRespelled fields fun _ => Eq

theorem readMembers_respelled {ms ms' : Members} (h : Respelling fields (fun _ => Eq) ms ms') :
    AgreesOn readMembers ms ms' := by
  have hfield : ∀ {α : Type} (f : Field) (_ : f ∈ fields) (read : Json → Checked α) (default : α),
      AgreesOn (f.optional read default) ms ms' :=
    fun f hf read default =>
      h.optional unambiguous_fields hf (fun _ _ hv => .of_eq hv read) default
  have hpath := hfield pathField (by decide) (nullOr text) none
  have hcontent := hfield contentField (by decide) (nullOr text) none
  have hencoding := hfield encodingField (by decide) readEncoding .base64
  have hname := hfield nameField (by decide) (nullOr text) none
  have hmimeType := hfield mimeTypeField (by decide) text "application/octet-stream"
  have hdraft : AgreesOn readDraft ms ms' :=
    ((((hpath.map Draft.mk).seq hcontent).seq hencoding).seq hname).seq hmimeType
  refine (h.model unambiguous_fields hdraft).andThen fun g hg d => ?_
  unfold ofDraft
  split
  · rfl
  · split
    · exact moved_fail hg _
    · rfl
  · exact moved_fail hg _

theorem Respelled.agrees {v v' : Json} (h : Respelled v v') : Agrees FileEntry.read v v' := by
  cases h with
  | same => exact Agrees.refl FileEntry.read v
  | members h => exact (readMembers_respelled h).submodel

end FileEntry

namespace Step

/-- Values of a field of a step that are alike: the same, a former name of an action and its current
one, or lists of checks or of files under other spellings. -/
inductive Alike : Field → Json → Json → Prop
  | same (f v) : Alike f v v
  | formerAction {f name kind} (hf : f = actionField)
    (h : (name, kind) ∈ ActionKind.formerNames) : Alike f (.str name) (.str kind.name)
  | checks {f items items'} (hf : f = checksField) (h : List.Forall₂ Check.Respelled items items') :
    Alike f (.arr items) (.arr items')
  | files {f items items'} (hf : f = Upload.filesField)
    (h : List.Forall₂ FileEntry.Respelled items items') : Alike f (.arr items) (.arr items')

/-- A document of a step, and the same document under other spellings of what its action has. -/
inductive Respelled : Json → Json → Prop
  | same (v) : Respelled v v
  | members {ms ms' : Members} (k : ActionKind)
    (hk : ∀ name kind, ms.get? "action" = some (.str name) → ActionKind.ofName? name = some kind →
      kind = k)
    (h : Respelling (fields k) Alike ms ms') : Respelled (.obj ms) (.obj ms')

theorem Alike.eq {f : Field} {v v' : Json} (h : Alike f v v')
    (hf : f ∉ [actionField, checksField, Upload.filesField]) : v = v' := by
  cases h with
  | same => rfl
  | formerAction h _ | checks h _ | files h _ => exact (hf (by simp [h])).elim

section Fields

variable {k : ActionKind} {ms ms' : Members} (h : Respelling (fields k) Alike ms ms')
include h

theorem optional_respelled {α : Type} (f : Field) (hf : f ∈ fields k)
    (hplain : f ∉ [actionField, checksField, Upload.filesField]) (read : Json → Checked α)
    (default : α) : AgreesOn (f.optional read default) ms ms' :=
  h.optional (unambiguous_fields k) hf (fun _ _ hv => .of_eq (hv.eq hplain) read) default

theorem required_respelled {α : Type} (f : Field) (hf : f ∈ fields k)
    (hplain : f ∉ [actionField, checksField, Upload.filesField]) (read : Json → Checked α) :
    AgreesOn (f.required read) ms ms' :=
  h.required (unambiguous_fields k) hf fun _ _ hv => .of_eq (hv.eq hplain) read

theorem checks_respelled : AgreesOn (checksField.optional (list Check.read) []) ms ms' := by
  have hf : checksField ∈ fields k := List.mem_append_left _ (by decide)
  refine h.optional (unambiguous_fields k) hf (fun v v' hv => ?_) []
  cases hv with
  | same => exact Agrees.refl _ v
  | checks _ hitems => exact Agrees.list (hitems.imp fun _ _ => Check.Respelled.agrees)
  | formerAction hf _ | files hf _ => exact absurd hf (by decide)

end Fields

theorem files_respelled {ms ms' : Members} (h : Respelling (fields .upload) Alike ms ms') :
    AgreesOn (Upload.filesField.optional (list FileEntry.read) []) ms ms' := by
  refine h.optional (unambiguous_fields .upload) (by decide) (fun v v' hv => ?_) []
  cases hv with
  | same => exact Agrees.refl _ v
  | files _ hitems => exact Agrees.list (hitems.imp fun _ _ => FileEntry.Respelled.agrees)
  | formerAction hf _ | checks hf _ => exact absurd hf (by decide)

theorem readAction_respelled {k : ActionKind} {ms ms' : Members}
    (h : Respelling (fields k) Alike ms ms') : AgreesOn (readAction k) ms ms' := by
  cases k with
  | navigate =>
    exact (optional_respelled h pathField (by decide) (by decide) text "/").map Action.navigate
  | fill => exact (required_respelled h dataField (by decide) (by decide) readEntry).map Action.fill
  | type => exact (required_respelled h dataField (by decide) (by decide) readEntry).map Action.type
  | click => exact AgreesOn.good Action.click
  | hover => exact AgreesOn.good Action.hover
  | pressKey =>
    exact (required_respelled h keyField (by decide) (by decide) readKey).map Action.pressKey
  | wait => exact AgreesOn.good Action.wait
  | upload =>
    have hpaths :=
      optional_respelled h Upload.dataField (by decide) (by decide) Upload.readPaths .none
    have hresolve :=
      optional_respelled h Upload.resolveFromBaseField (by decide) (by decide) truth true
    have hclear := optional_respelled h Upload.clearFirstField (by decide) (by decide) truth false
    have hupload : AgreesOn Upload.readFields ms ms' :=
      (((hpaths.map Upload.mk).seq (files_respelled h)).seq hresolve).seq hclear
    exact hupload.map Action.upload
  | custom =>
    have hname := required_respelled h customNameField (by decide) (by decide) text
    have hdata := optional_respelled h dataField (by decide) (by decide) anything .null
    exact (hname.map Action.custom).seq hdata

theorem readFields_respelled {k : ActionKind} {ms ms' : Members}
    (h : Respelling (fields k) Alike ms ms') : AgreesOn (readFields (readAction k)) ms ms' := by
  have hcommon : ∀ f ∈ commonFields, f ∈ fields k := fun f hf => List.mem_append_left _ hf
  have hfield : ∀ {α : Type} (f : Field)
      (_ : f ∈ commonFields ∧ f ∉ [actionField, checksField, Upload.filesField])
      (read : Json → Checked α) (default : α), AgreesOn (f.optional read default) ms ms' :=
    fun f hf => optional_respelled h f (hcommon f hf.1) hf.2
  have hname := hfield nameField (by decide) text ""
  have hselector := hfield selectorField (by decide) (nullOr text) none
  have hselectorKind := hfield selectorKindField (by decide) SelectorKind.read .css
  have hwaitTime := hfield waitTimeField (by decide) readWaitTime none
  have hindex := hfield indexField (by decide) readIndex none
  have hiterate := hfield iterateField (by decide) truth false
  have hgroup := hfield groupField (by decide) readGroup none
  have hoptions := hfield optionsField (by decide) object []
  exact (((((((((hname.map Step.mk).seq hselector).seq hselectorKind).seq hwaitTime).seq
    hindex).seq hiterate).seq hgroup).seq hoptions).seq (checks_respelled h)).seq
      (readAction_respelled h)

/-- A place in a step's document behind the name of the action, carried to another document. -/
def relocateTagged (v v' : Json) : List Place → List Place
  | [] => []
  | tag :: rest => tag :: relocate rest v v'

theorem readKind_respelled {k : ActionKind} {ms ms' : Members}
    (h : Respelling (fields k) Alike ms ms') :
    readKind k ms' = (readKind k ms).moved (relocateTagged (.obj ms) (.obj ms')) := by
  have hmodel := h.model (unambiguous_fields k) (readFields_respelled h)
  have hiteration := hmodel.andThen (f := checkIteration) fun g hg s => by
    unfold checkIteration
    split
    · exact moved_fail hg _
    · split
      · exact moved_fail hg _
      · rfl
  have hwait := hiteration.andThen (f := checkWait) fun g hg s => moved_require hg _ _ s
  have htag : ∀ place, relocateTagged (.obj ms) (.obj ms') (.key k.name :: place) =
      .key k.name :: relocate place (.obj ms) (.obj ms') := fun _ => rfl
  exact (congrArg (under (.key k.name)) hwait).trans (moved_under htag _).symm

/-- The refusal with the places of its problems changed. -/
def Refusal.moved (g : List Place → List Place) : Refusal → Refusal
  | problems ps => problems (ps.map (·.moved g))
  | unusableAction kind => unusableAction kind

theorem ofChecked_moved {α : Type} (g : List Place → List Place) (x : Checked α) :
    ofChecked (x.moved g) = (ofChecked x).mapError (Refusal.moved g) := by
  cases x <;> rfl

section Among

variable {offered : List ActionKind} {ms ms' : Members} {key : String}

/-- Why a value in the place of an action is refused that names none. -/
def refusalOf : Json → Refusal
  | .arr items => .unusableAction (Json.arr items).kindName
  | .obj members => .unusableAction (Json.obj members).kindName
  | _ => .problems [⟨[], .unknownAction⟩]

theorem readAmong_of_none (hnone : actionField.find? ms = none) :
    readAmong offered (.obj ms) = .error (.problems [⟨[], .noAction⟩]) := by
  unfold readAmong
  dsimp only
  rw [hnone]
  rfl

theorem readAmong_of_not_named {w : Json} (hfound : actionField.find? ms = some (key, w))
    (hw : ¬ ∃ name k, w = .str name ∧ ActionKind.ofName? name = some k) :
    readAmong offered (.obj ms) = .error (refusalOf w) := by
  unfold readAmong
  dsimp only
  rw [hfound]
  cases w with
  | str name =>
    dsimp only
    cases hname : ActionKind.ofName? name with
    | none => rfl
    | some k => exact absurd ⟨name, k, rfl, hname⟩ hw
  | _ => rfl

theorem readAmong_of_named {name : String} {k : ActionKind}
    (hfound : actionField.find? ms = some (key, .str name))
    (hname : ActionKind.ofName? name = some k) : readAmong offered (.obj ms) =
      ofChecked (if offered.contains k then readKind k ms else fail .unknownAction) := by
  unfold readAmong
  dsimp only
  rw [hfound]
  dsimp only
  rw [hname]

theorem readAmong_named_respelled {k : ActionKind} (h : Respelling (fields k) Alike ms ms')
    {key' name name' : String} (hfound : actionField.find? ms = some (key, .str name))
    (hfound' : actionField.find? ms' = some (key', .str name'))
    (hname : ActionKind.ofName? name = some k) (hname' : ActionKind.ofName? name' = some k) :
    readAmong offered (.obj ms') = (readAmong offered (.obj ms)).mapError
      (Refusal.moved (relocateTagged (.obj ms) (.obj ms'))) := by
  rw [readAmong_of_named hfound hname, readAmong_of_named hfound' hname', readKind_respelled h,
    ← ofChecked_moved]
  split
  · rfl
  · rw [moved_fail rfl]

end Among

/-- From a document under other spellings the same step is read, or it is refused for the same
reasons in the same parts. -/
theorem readAmong_respelled {offered : List ActionKind} {v v' : Json} (h : Respelled v v') :
    readAmong offered v' =
      (readAmong offered v).mapError (Refusal.moved (relocateTagged v v')) := by
  cases h with
  | same =>
    have hself : ∀ place, relocateTagged v v place = place := by
      intro place
      cases place with
      | nil => rfl
      | cons tag rest => exact congrArg (tag :: ·) (relocate_self rest v)
    rcases readAmong offered v with (ps | kind) | s
    · exact congrArg (Except.error ∘ Refusal.problems) (map_moved_eq_self hself ps).symm
    · rfl
    · rfl
  | @members ms ms' k hk h =>
    have haction : actionField ∈ fields k := List.mem_append_left _ (by decide)
    obtain ⟨hnone, hnone'⟩ | ⟨key, w, key', w', hfound, hfound', hw, -⟩ :=
      h.find?_cases (unambiguous_fields k) haction
    · rw [readAmong_of_none hnone, readAmong_of_none hnone']
      rfl
    · have hget : ms.get? "action" = some w := by
        rw [find?_action] at hfound
        obtain ⟨_, hget, ⟨⟩⟩ := Option.map_eq_some_iff.mp hfound
        exact hget
      cases hw with
      | same =>
        by_cases hnamed : ∃ name kind, w = .str name ∧ ActionKind.ofName? name = some kind
        · obtain ⟨name, kind, rfl, hname⟩ := hnamed
          obtain rfl := hk name kind hget hname
          exact readAmong_named_respelled h hfound hfound' hname hname
        · rw [readAmong_of_not_named hfound hnamed, readAmong_of_not_named hfound' hnamed]
          cases w <;> rfl
      | formerAction _ hformer =>
        obtain ⟨hname, hname'⟩ := ActionKind.ofName?_former _ hformer
        obtain rfl := hk _ _ hget hname
        exact readAmong_named_respelled h hfound hfound' hname hname'
      | checks hf _ | files hf _ => exact absurd hf (by decide)

/-- Two keys that spell one field: of a step, of a check or of a file. -/
def SameField (k k' : String) : Prop :=
  ∃ f, (f ∈ Check.fields ∨ f ∈ FileEntry.fields ∨ ∃ kind, f ∈ fields kind) ∧
    k ∈ f.spellings ∧ k' ∈ f.spellings

theorem renames_of_check {v v' : Json} (h : Check.Respelled v v') : Renames SameField v v' := by
  cases h with
  | same => exact Renames.refl v
  | members h =>
    refine h.renames (fun f hf k hk k' hk' => ⟨f, .inl hf, hk, hk'⟩) fun f v v' hv => ?_
    cases hv with
    | same => exact Renames.refl v
    | formerKind => exact Renames.str _ _

theorem renames_of_file {v v' : Json} (h : FileEntry.Respelled v v') :
    Renames SameField v v' := by
  cases h with
  | same => exact Renames.refl v
  | members h =>
    refine h.renames (fun f hf k hk k' hk' => ⟨f, .inr (.inl hf), hk, hk'⟩) fun f v v' hv => ?_
    rw [hv]
    exact Renames.refl v'

theorem Respelled.renames {v v' : Json} (h : Respelled v v') : Renames SameField v v' := by
  cases h with
  | same => exact Renames.refl v
  | members kind _ h =>
    refine h.renames (fun f hf k hk k' hk' => ⟨f, .inr (.inr ⟨kind, hf⟩), hk, hk'⟩)
      fun f v v' hv => ?_
    cases hv with
    | same => exact Renames.refl v
    | formerAction => exact Renames.str _ _
    | checks _ hitems => exact Renames.list (hitems.imp fun _ _ => renames_of_check)
    | files _ hitems => exact Renames.list (hitems.imp fun _ _ => renames_of_file)

end Step

namespace Vocabulary

/-- The refusal with the places of its problems changed. -/
def Refusal.moved (g : List Place → List Place) : Refusal → Refusal
  | failure e => failure e
  | problems ps => problems (ps.map (·.moved g))

theorem read_eq_mapError (v : Vocabulary) {d d' : Json} (h : Step.Respelled d d') :
    v.read d' = (v.read d).mapError (Refusal.moved (Step.relocateTagged d d')) := by
  unfold read
  split
  · rfl
  · rw [Step.readAmong_respelled h]
    rcases Step.readAmong v.kinds d with (ps | kind) | s <;> rfl

/-- Spellings make no difference. A document and the same document with other keys for the same
fields, in the step, in its checks and in its files, and with current names in place of former ones
of its action and of what its checks compare, give the same step; or both are refused, with the same
problems in the same order, whose places differ in keys of one field at most. -/
theorem read_respelled (v : Vocabulary) {d d' : Json} (h : Step.Respelled d d') :
    (∀ s, v.read d = .ok s ↔ v.read d' = .ok s) ∧
      (∀ r, v.read d = .error r → v.read d' = .error (r.moved (Step.relocateTagged d d'))) ∧
      ∀ place, List.Forall₂ (Place.Renamed Step.SameField) place
        (Step.relocateTagged d d' place) := by
  rw [v.read_eq_mapError h]
  refine ⟨fun s => ?_, fun r hr => ?_, fun place => ?_⟩
  · cases v.read d <;> simp [Except.mapError]
  · rw [hr]
    rfl
  · cases place with
    | nil => exact .nil
    | cons tag rest => exact .cons (.same tag) (h.renames rest)

/-- A step in the words of older documents, with two faults: each is found under the key that the
document has for its field. -/
theorem read_respelled_of_former_names :
    let v : Vocabulary := ⟨ActionKind.all⟩
    let check : Members := [("type", .str "toHaveTitle"), ("softFlag", .null)]
    let check' : Members := [("type", .str "hasTitle"), ("soft", .null)]
    let d : Members := [("action", .str "goto"), ("url", .str "/todo"), ("nth", .int (-1)),
      ("validations", .arr [.obj check])]
    let d' : Members := [("action", .str "navigate"), ("path", .str "/todo"), ("index", .int (-1)),
      ("validations", .arr [.obj check'])]
    Step.Respelled (.obj d) (.obj d') ∧
      v.read (.obj d) = .error (.problems [
        ⟨[.key "navigate", .key "nth"], .rule "index must be >= 0"⟩,
        ⟨[.key "navigate", .key "validations", .item 0, .key "softFlag"], .notTruth⟩]) ∧
      v.read (.obj d') = .error (.problems [
        ⟨[.key "navigate", .key "index"], .rule "index must be >= 0"⟩,
        ⟨[.key "navigate", .key "validations", .item 0, .key "soft"], .notTruth⟩]) := by
  intro v check check' d d'
  have hcheck : Check.Respelled (.obj check) (.obj check') := by
    refine .members ⟨.cons ?_ (.cons ?_ .nil), by decide⟩
    · exact .spelled (f := Check.kindField) (by decide) (by decide) (by decide)
        (.formerKind rfl (by decide : ("toHaveTitle", CheckKind.hasTitle) ∈ CheckKind.formerNames))
    · exact .spelled (f := Check.softField) (by decide) (by decide) (by decide) (.same _ _)
  have hstep : Step.Respelled (.obj d) (.obj d') := by
    refine .members .navigate (fun name kind haction hk => ?_)
      ⟨.cons ?_ (.cons ?_ (.cons ?_ (.cons ?_ .nil))), by decide⟩
    · cases haction
      have hgoto : ActionKind.ofName? "goto" = some .navigate := by decide
      cases hgoto.symm.trans hk
      rfl
    · exact .spelled (f := Step.actionField) (by decide) (by decide) (by decide)
        (.formerAction rfl (by decide : ("goto", ActionKind.navigate) ∈ ActionKind.formerNames))
    · exact .spelled (f := Step.pathField) (by decide) (by decide) (by decide) (.same _ _)
    · exact .spelled (f := indexField) (by decide) (by decide) (by decide) (.same _ _)
    · exact .spelled (f := Step.checksField) (by decide) (by decide) (by decide)
        (.checks rfl (.cons hcheck .nil))
  have hread : v.read (.obj d) = .error (.problems [
      ⟨[.key "navigate", .key "nth"], .rule "index must be >= 0"⟩,
      ⟨[.key "navigate", .key "validations", .item 0, .key "softFlag"], .notTruth⟩]) := by
    rfl
  exact ⟨hstep, hread, (v.read_respelled hstep).2.1 _ hread⟩

end Vocabulary
end Walkthrough
