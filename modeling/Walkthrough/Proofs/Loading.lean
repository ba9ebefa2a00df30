import Walkthrough.Proofs.Context
import Walkthrough.Proofs.Reading
import Walkthrough.Scenario.Selection

/-!
All the ways in which loading scenarios ends: with one scenario for each document, with an error
that names the source, or with a failure that escapes because nothing turns it into such an error.
-/
namespace Walkthrough

namespace Schema

/-- A member that does not spell a field leaves the field where it was. -/
theorem Field.find?_put {f : Field} {key : String} (h : key ∉ f.spellings) (ms : Members)
    (value : Json) : f.find? (ms.put key value) = f.find? ms := by
  unfold Field.find?
  generalize f.spellings = spellings at h
  induction spellings with
  | nil => rfl
  | cons k ks ih =>
    obtain ⟨hk, hks⟩ := not_or.mp (List.mem_cons.not.mp h)
    rw [List.findSome?_cons, List.findSome?_cons, ih hks, Members.get?_put, if_neg hk]

end Schema

open Schema

namespace Step

/-- A step whose action is a list or an object, which no table of actions can be asked for. -/
inductive Unusable : Json → String → Prop
  | list {ms : Members} {items : List Json} (haction : ms.get? "action" = some (.arr items)) :
    Unusable (.obj ms) "list"
  | object {ms members : Members} (haction : ms.get? "action" = some (.obj members)) :
    Unusable (.obj ms) "dict"

theorem ofChecked_ne_unusableAction {α : Type} {x : Checked α} {kind : String} :
    ofChecked x ≠ .error (.unusableAction kind) := by
  cases x <;> simp [ofChecked]

theorem find?_action (ms : Members) :
    actionField.find? ms = (ms.get? "action").map fun v => ("action", v) := by
  simp only [Field.find?, Field.spellings, actionField, List.findSome?_cons, List.findSome?_nil]
  cases ms.get? "action" <;> rfl

theorem read_eq_unusableAction {v : Json} {kind : String} :
    read v = .error (.unusableAction kind) ↔ Unusable v kind := by
  cases v with
  | obj ms =>
    simp only [read, readAmong, find?_action]
    constructor
    · intro h
      cases haction : Members.get? ms "action" with
      | none => simp [haction, ofChecked_ne_unusableAction] at h
      | some action =>
        cases action with
        | arr items =>
          simp only [haction, Option.map_some] at h
          cases h
          exact .list haction
        | obj members =>
          simp only [haction, Option.map_some] at h
          cases h
          exact .object haction
        | str s =>
          simp only [haction, Option.map_some] at h
          split at h <;> exact (ofChecked_ne_unusableAction h).elim
        | _ => simp [haction, ofChecked_ne_unusableAction] at h
    · rintro (haction | haction) <;> simp [haction, Json.kindName]
  | _ => exact ⟨fun h => (by cases h), fun h => (by cases h)⟩

end Step

namespace Scenario

/-- The first step of a document that cannot be read has an action that is a list or an object. -/
inductive Blocked : Json → String → Prop
  | intro {ms : Members} {key kind : String} {before after : List Json} {step : Json}
    (hsteps : stepsField.find? ms = some (key, .arr (before ++ step :: after)))
    (hbefore : ∀ v ∈ before, ∃ s, Step.read v = .ok s) (hstep : Step.Unusable step kind) :
    Blocked (.obj ms) kind

theorem readSteps_eq_unusableAction {ms : Members} {kind : String} :
    readSteps ms = .error (.unusableAction kind) ↔ Blocked (.obj ms) kind := by
  unfold readSteps
  constructor
  · intro h
    split at h
    · rename_i key items hsteps
      obtain ⟨before, step, after, rfl, hbefore, hstep⟩ := mapM_eq_error.mp h
      exact ⟨hsteps, hbefore, Step.read_eq_unusableAction.mp hstep⟩
    · cases h
  · rintro ⟨hsteps, hbefore, hstep⟩
    rw [hsteps]
    exact mapM_eq_error.mpr ⟨_, _, _, rfl, hbefore, Step.read_eq_unusableAction.mpr hstep⟩

theorem blocked_put {ms : Members} {source kind : String} :
    Blocked (.obj (ms.put "source" (.str source))) kind ↔ Blocked (.obj ms) kind := by
  have hfind : stepsField.find? (ms.put "source" (.str source)) = stepsField.find? ms :=
    Field.find?_put (by decide) ms _
  constructor
  · rintro ⟨hsteps, hbefore, hstep⟩
    exact ⟨hfind ▸ hsteps, hbefore, hstep⟩
  · rintro ⟨hsteps, hbefore, hstep⟩
    exact ⟨hfind.trans hsteps, hbefore, hstep⟩

theorem read_eq_unusableAction {ms : Members} {kind : String} :
    read (.obj ms) = .error (.unusableAction kind) ↔ Blocked (.obj ms) kind := by
  rw [← readSteps_eq_unusableAction]
  refine except_bind_eq_error.trans ⟨?_, .inl⟩
  rintro (h | ⟨steps, -, h⟩)
  · exact h
  · exact (Step.ofChecked_ne_unusableAction h).elim

section Document

variable {source : String} {position : Nat} {document : Json}

theorem ofDocument_eq_unusableAction {kind : String} :
    ofDocument source position document = .error (.unusableAction kind) ↔
      Blocked document kind := by
  cases document with
  | obj ms =>
    rw [← @blocked_put ms source, ← read_eq_unusableAction]
    unfold ofDocument
    cases h : read (.obj (Members.put ms "source" (.str source))) with
    | ok scn => simp [h]
    | error e => cases e <;> simp [h]
  | _ => exact ⟨fun h => (by cases h), fun h => (by cases h)⟩

/-- A document that is refused fails with its source's name, or for a step's action. -/
theorem ofDocument_error {u : Unloaded}
    (h : ofDocument source position document = .error u) :
    (∃ e, u = .load e ∧ e.source = source) ∨ ∃ kind, u = .unusableAction kind := by
  unfold ofDocument at h
  split at h
  · split at h
    · cases h
    · cases h
      exact .inl ⟨_, rfl, rfl⟩
    · cases h
      exact .inr ⟨_, rfl⟩
  · cases h
    exact .inl ⟨_, rfl, rfl⟩

end Document

/-- Loading a list stops at its first document that gives no scenario. -/
theorem ofDocuments_eq_error {source : String} {n : Nat} {vs : List Json} {u : Unloaded} :
    ofDocuments source n vs = .error u ↔ ∃ before v after, vs = before ++ v :: after ∧
      (∀ w ∈ before, ∃ scn, Loads source w scn) ∧
      ofDocument source (n + before.length) v = .error u := by
  -- on the documents; each one that loads moves the position of the failing one by one
  induction vs generalizing n with
  | nil => simp [ofDocuments]
  | cons v vs ih =>
    refine except_bind_eq_error.trans ⟨?_, ?_⟩
    · rintro (h | ⟨scn, hscn, h⟩)
      · exact ⟨[], v, vs, rfl, by simp, h⟩
      · obtain h | ⟨_, -, h⟩ := except_bind_eq_error.mp h
        · obtain ⟨before, w, after, rfl, hbefore, hw⟩ := ih.mp h
          refine ⟨v :: before, w, after, rfl,
            List.forall_mem_cons.mpr ⟨⟨scn, ofDocument_eq_ok.mp hscn⟩, hbefore⟩, ?_⟩
          rwa [List.length_cons, Nat.add_comm before.length, ← Nat.add_assoc]
        · cases h
    · rintro ⟨before, w, after, hvs, hbefore, hw⟩
      cases before with
      | nil =>
        cases hvs
        exact .inl hw
      | cons x before =>
        cases hvs
        obtain ⟨⟨scn, hscn⟩, hbefore⟩ := List.forall_mem_cons.mp hbefore
        rw [List.length_cons, Nat.add_comm before.length, ← Nat.add_assoc] at hw
        refine .inr ⟨scn, ofDocument_eq_ok.mpr hscn, except_bind_eq_error.mpr (.inl ?_)⟩
        exact ih.mpr ⟨before, w, after, rfl, hbefore, hw⟩

/-- The text is a document, and each part of it is one of the scenarios. -/
def Holds (source text : String) (scenarios : List Scenario) : Prop :=
  ∃ v, Json.read text = .ok v ∧ List.Forall₂ (Loads source) v.documents scenarios

/-- A failure of a text that loading does not turn into an error with the source's name: a whole
number that is too long to convert, or the action of a step in the first document that is not
loaded. -/
inductive Escapes (source text : String) : Unloaded → Prop
  | hugeInteger {digits : Nat} (hread : Json.read text = .error (.hugeInteger digits)) :
    Escapes source text (.hugeInteger digits)
  | unusableAction {v document : Json} {before after : List Json} {kind : String}
    (hread : Json.read text = .ok v) (hdocuments : v.documents = before ++ document :: after)
    (hbefore : ∀ w ∈ before, ∃ scn, Loads source w scn) (hblocked : Blocked document kind) :
    Escapes source text (.unusableAction kind)

theorem ofText_eq_ok {place source text : String} {scenarios : List Scenario} :
    ofText place source text = .ok scenarios ↔ Holds source text scenarios := by
  unfold ofText Holds
  split
  · rename_i v hread
    rw [ofValue_eq, ofDocuments_eq_ok]
    constructor
    · exact fun h => ⟨v, hread, h⟩
    · rintro ⟨w, hw, h⟩
      cases hread.symm.trans hw
      exact h
  · rename_i hread
    simp [hread]
  · rename_i hread
    simp [hread]

/-- A text that fails otherwise than for its documents' faults is one of those that escape. -/
theorem ofText_error {place source text : String} {u : Unloaded}
    (h : ofText place source text = .error u) :
    (∃ e, u = .load e ∧ (e.source = place ∨ e.source = source)) ∨ Escapes source text u := by
  unfold ofText at h
  split at h
  · rename_i v hread
    rw [ofValue_eq] at h
    obtain ⟨before, document, after, hv, hbefore, hdocument⟩ := ofDocuments_eq_error.mp h
    obtain ⟨e, rfl, he⟩ | ⟨kind, rfl⟩ := ofDocument_error hdocument
    · exact .inl ⟨e, rfl, .inr he⟩
    · exact .inr (.unusableAction hread hv hbefore (ofDocument_eq_unusableAction.mp hdocument))
  · rename_i hread
    cases h
    exact .inr (.hugeInteger hread)
  · cases h
    exact .inl ⟨_, rfl, .inl rfl⟩

theorem Escapes.ofText {source text : String} {u : Unloaded} (h : Escapes source text u)
    (place : String) : ofText place source text = .error u := by
  unfold Scenario.ofText
  cases h with
  | hugeInteger hread => rw [hread]
  | unusableAction hread hdocuments hbefore hblocked =>
    rw [hread]
    dsimp only
    rw [ofValue_eq]
    exact ofDocuments_eq_error.mpr
      ⟨_, _, _, hdocuments, hbefore, ofDocument_eq_unusableAction.mpr hblocked⟩

theorem Escapes.ne_load {source text : String} {u : Unloaded} (h : Escapes source text u)
    (e : LoadError) : u ≠ .load e := by
  cases h <;> exact fun h => (by cases h)

end Scenario

/-- The text of a file as it is read, each of its lines ended by a line feed. -/
def Content.document (content : Content) : Except Text.Utf8.Fault String :=
  content.toText.map fun text => String.ofList (Text.unifyLineEnds text.toList)

namespace Scenario

/-- A failure of a file that loading does not turn into an error with the source's name: bytes that
are no text, or what escapes of the text. -/
inductive FileEscapes (source : String) (content : Content) : Failure → Prop
  | notText {fault : Text.Utf8.Fault} (hcontent : content.document = .error fault) :
    FileEscapes source content (.notText fault)
  | document {text : String} {u : Unloaded} (hcontent : content.document = .ok text)
    (h : Escapes source text u) : FileEscapes source content (.ofUnloaded u)

section File

variable {disk : Disk} {cwd path : Path} {content : Content}

theorem ofFile_eq (hread : disk.read cwd path = .ok content) :
    ofFile disk cwd path = match content.document with
      | .error fault => .error (.notText fault)
      | .ok text => (ofText path.toString path.name text).mapError Failure.ofUnloaded := by
  unfold ofFile Content.document
  rw [hread]
  dsimp only
  cases content.toText <;> rfl

theorem ofFile_eq_ok (hread : disk.read cwd path = .ok content) {scenarios : List Scenario} :
    ofFile disk cwd path = .ok scenarios ↔
      ∃ text, content.document = .ok text ∧ Holds path.name text scenarios := by
  rw [ofFile_eq hread]
  cases hcontent : content.document with
  | error fault => simp
  | ok text =>
    simp only [Except.ok.injEq, exists_eq_left', ← @ofText_eq_ok path.toString]
    cases ofText path.toString path.name text <;> simp [Except.mapError]

theorem ofFile_error (hread : disk.read cwd path = .ok content) {f : Failure}
    (h : ofFile disk cwd path = .error f) :
    (∃ e, f = .load e ∧ (e.source = path.toString ∨ e.source = path.name)) ∨
      FileEscapes path.name content f := by
  rw [ofFile_eq hread] at h
  cases hcontent : content.document with
  | error fault =>
    rw [hcontent] at h
    cases h
    exact .inr (.notText hcontent)
  | ok text =>
    rw [hcontent] at h
    dsimp only at h
    cases htext : ofText path.toString path.name text with
    | ok scenarios =>
      rw [htext] at h
      cases h
    | error u =>
      rw [htext] at h
      cases h
      obtain ⟨e, rfl, he⟩ | hescapes := ofText_error htext
      · exact .inl ⟨e, rfl, he⟩
      · exact .inr (.document hcontent hescapes)

theorem FileEscapes.ofFile (hread : disk.read cwd path = .ok content) {f : Failure}
    (h : FileEscapes path.name content f) : ofFile disk cwd path = .error f := by
  rw [ofFile_eq hread]
  cases h with
  | notText hcontent => rw [hcontent]
  | document hcontent h =>
    rw [hcontent]
    dsimp only
    rw [h.ofText]
    rfl

theorem FileEscapes.ne_load {source : String} {f : Failure} (h : FileEscapes source content f)
    (e : LoadError) : f ≠ .load e := by
  cases h with
  | notText _ => exact fun h => (by cases h)
  | document _ h => cases h <;> exact fun h => (by cases h)

end File

/-- Loading gives a scenario for each document in order just where every document is good; an error
of loading starts with the name of the source; and the failures that get past it are those of
`Escapes` and `FileEscapes`: a whole number too long to convert, a step whose action is a list or an
object, and a file that is no text. -/
theorem loading_outcomes {disk : Disk} {cwd path : Path} {content : Content}
    (hread : disk.read cwd path = .ok content) (source text : String) :
    ((∀ scenarios, ofText source source text = .ok scenarios ↔ Holds source text scenarios) ∧
      (∀ e, ofText source source text = .error (.load e) →
        ∃ reason, e.message = source ++ ": " ++ reason) ∧
      ∀ u, (∀ e, u ≠ .load e) → (ofText source source text = .error u ↔ Escapes source text u)) ∧
    (∀ scenarios, ofFile disk cwd path = .ok scenarios ↔
      ∃ text, content.document = .ok text ∧ Holds path.name text scenarios) ∧
    (∀ e, ofFile disk cwd path = .error (.load e) →
      ∃ reason, e.message = path.toString ++ ": " ++ reason ∨
        e.message = path.name ++ ": " ++ reason) ∧
    ∀ f, (∀ e, f ≠ .load e) →
      (ofFile disk cwd path = .error f ↔ FileEscapes path.name content f) := by
  refine ⟨⟨fun _ => ofText_eq_ok, fun e h => ?_, fun u hu => ⟨fun h => ?_, fun h => h.ofText _⟩⟩,
    fun _ => ofFile_eq_ok hread, fun e h => ?_, fun f hf => ⟨fun h => ?_, fun h => h.ofFile hread⟩⟩
  · obtain ⟨_, ⟨⟩, he⟩ | hescapes := ofText_error h
    · exact ⟨e.reason, by rw [LoadError.message, or_self_iff.mp he]⟩
    · exact (hescapes.ne_load e rfl).elim
  · obtain ⟨e, rfl, -⟩ | hescapes := ofText_error h
    · exact (hu e rfl).elim
    · exact hescapes
  · obtain ⟨_, ⟨⟩, he⟩ | hescapes := ofFile_error hread h
    · refine ⟨e.reason, he.imp (fun he => ?_) fun he => ?_⟩
      · rw [LoadError.message, he]
      · rw [LoadError.message, he]
    · exact (hescapes.ne_load e rfl).elim
  · obtain ⟨e, rfl, -⟩ | hescapes := ofFile_error hread h
    · exact (hf e rfl).elim
    · exact hescapes

theorem loading_outcomes_of_faulty_byte :
    let disk : Disk := ⟨[(["todo.json"], .file (.bytes [0xFF]))]⟩
    let cwd : Path := ⟨.slash, []⟩
    let path : Path := ⟨.relative, ["todo.json"]⟩
    disk.read cwd path = .ok (.bytes [0xFF]) ∧
      ofFile disk cwd path = .error (.notText ⟨.startByte, 0, 1, 0xFF⟩) := by
  intro disk cwd path
  have hread : disk.read cwd path = .ok (.bytes [0xFF]) := by rfl
  have hcontent : (Content.bytes [0xFF]).document = .error ⟨.startByte, 0, 1, 0xFF⟩ := by
    simp [Content.document, Content.toText, Text.Utf8.decode, Text.Utf8.decodeFrom,
      Text.Utf8.following?, Except.map]
  obtain ⟨-, -, -, hescapes⟩ := loading_outcomes hread "inline" ""
  exact ⟨hread, (hescapes _ (by simp)).mpr (.notText hcontent)⟩

/-- The text of a scenario with a step whose action is a list. -/
def listActionText : String :=
  "\x7b\"description\": \"x\", \"testSteps\": [\x7b\"action\": []\x7d]\x7d"

/-- A list in the place of an action: the text is neither loaded nor refused with its source's
name. -/
theorem loading_escaped_of_list_action :
    ¬ ((∃ scenarios, ofText "inline" "inline" listActionText = .ok scenarios) ∨
        ∃ e, ofText "inline" "inline" listActionText = .error (.load e)) := by
  have h : (ofText "inline" "inline" listActionText matches .error (.unusableAction _)) = true := by
    decide +kernel
  rintro (⟨scenarios, hs⟩ | ⟨e, he⟩)
  · rw [hs] at h
    cases h
  · rw [he] at h
    cases h

end Scenario
end Walkthrough
