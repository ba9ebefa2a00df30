import Walkthrough.Check.Reader
import Walkthrough.Step.Basic

/-! Steps read from documents: the fields of each action, their spellings and their rules. -/
namespace Walkthrough

open Schema Schema.Checked

namespace FileEntry

def pathField : Field := ⟨"path", []⟩
def contentField : Field := ⟨"content", ["embeddedContent", "contentBase64"]⟩
def encodingField : Field := ⟨"encoding", []⟩
def nameField : Field := ⟨"name", []⟩
def mimeTypeField : Field := ⟨"mimeType", ["mime_type"]⟩

def fields : List Field := [pathField, contentField, encodingField, nameField, mimeTypeField]

def readEncoding (v : Json) : Checked Encoding :=
  if v.asStr? = some Encoding.base64.name then good .base64
  else if v.asStr? = some Encoding.utf8.name then good .utf8
  else fail .notOneOf

/-- The fields of a file entry as they stand in the document. -/
structure Draft where
  path : Option String
  content : Option String
  encoding : Encoding
  name : Option String
  mimeType : String

def readDraft (ms : Members) : Checked Draft :=
  Draft.mk <$> pathField.optional (nullOr text) none ms
    <*> contentField.optional (nullOr text) none ms
    <*> encodingField.optional readEncoding .base64 ms
    <*> nameField.optional (nullOr text) none ms
    <*> mimeTypeField.optional text "application/octet-stream" ms

/-- Exactly one source, and a name for embedded content. -/
def ofDraft (d : Draft) : Checked FileEntry :=
  match d.path, d.content with
  | some p, none => good ⟨.path p, d.encoding, d.name, d.mimeType⟩
  | none, some c =>
    if d.name.getD "" = "" then fail (.rule "embedded file content requires a 'name'")
    else good ⟨.content c, d.encoding, d.name, d.mimeType⟩
  | _, _ => fail (.rule "file entry needs exactly one of 'path' or 'content'")

def readMembers (ms : Members) : Checked FileEntry :=
  (model fields readDraft ms).andThen ofDraft

def read (v : Json) : Checked FileEntry := submodel readMembers v

end FileEntry

namespace Upload

def dataField : Field := ⟨"data", []⟩
def filesField : Field := ⟨"files", []⟩
def resolveFromBaseField : Field := ⟨"resolveFromBase", ["resolve_from_base"]⟩
def clearFirstField : Field := ⟨"clearFirst", ["clearFirstFlag", "clear_first"]⟩

def fields : List Field := [dataField, filesField, resolveFromBaseField, clearFirstField]

/-- A text or a list of texts; a value that is neither fails both readings. -/
def readPaths (v : Json) : Checked UploadPaths :=
  match v with
  | .null => good .none
  | _ =>
    match text v, list text v with
    | good s, _ => good (.one s)
    | bad _, good ss => good (.many ss)
    | bad ps, bad qs =>
      bad (ps.map (·.under (.key "str")) ++ qs.map (·.under (.key "list[str]")))

def readFields (ms : Members) : Checked Upload :=
  Upload.mk <$> dataField.optional readPaths .none ms
    <*> filesField.optional (list FileEntry.read) [] ms
    <*> resolveFromBaseField.optional truth true ms
    <*> clearFirstField.optional truth false ms

end Upload

namespace Step

def actionField : Field := ⟨"action", []⟩
def nameField : Field := ⟨"stepName", ["step_name", "name"]⟩
def waitTimeField : Field := ⟨"waitTime", ["waitTimeMs", "wait_time_ms"]⟩
def iterateField : Field := ⟨"iterate", ["iterateFlag"]⟩
def groupField : Field := ⟨"iterativeGroup", ["iterativeGroupId", "iterative_group_id"]⟩
def optionsField : Field := ⟨"options", ["actionOptions", "action_options"]⟩
def checksField : Field := ⟨"validations", []⟩
def pathField : Field := ⟨"path", ["url", "data"]⟩
def dataField : Field := ⟨"data", []⟩
def keyField : Field := ⟨"data", ["key"]⟩
def customNameField : Field := ⟨"customName", ["custom_name"]⟩

/-- The fields that every action has. -/
def commonFields : List Field :=
  [actionField, nameField, selectorField, selectorKindField, waitTimeField, indexField,
    iterateField, groupField, optionsField, checksField]

/-- The fields that one action adds. -/
def fieldsOf : ActionKind → List Field
  | .navigate => [pathField]
  | .fill | .type => [dataField]
  | .click | .hover | .wait => []
  | .pressKey => [keyField]
  | .upload => Upload.fields
  | .custom => [customNameField, dataField]

def fields (k : ActionKind) : List Field := commonFields ++ fieldsOf k

/-- A number of milliseconds, not below zero. -/
def readWaitTime (v : Json) : Checked (Option Nat) :=
  (nullOr whole v).andThen fun
    | none => good none
    | some n => if 0 ≤ n then good (some n.toNat) else fail .belowMinimum

/-- A group's name; a blank one is no group. -/
def readGroup (v : Json) : Checked (Option String) :=
  Checked.map (fun g => g.filter fun s => !Text.isBlankText s) (nullOr text v)

/-- Text to enter; numbers are entered as they are written. -/
def readEntry (v : Json) : Checked String :=
  match v with
  | .int _ | .float _ => good v.display
  | _ => text v

def readKey (v : Json) : Checked String :=
  (text v).andThen fun s =>
    require (!Text.isBlankText s) "pressKey requires a key or chord in 'data'" s

def readAction (k : ActionKind) (ms : Members) : Checked Action :=
  match k with
  | .navigate => .navigate <$> pathField.optional text "/" ms
  | .fill => .fill <$> dataField.required readEntry ms
  | .type => .type <$> dataField.required readEntry ms
  | .click => good .click
  | .hover => good .hover
  | .pressKey => .pressKey <$> keyField.required readKey ms
  | .wait => good .wait
  | .upload => .upload <$> Upload.readFields ms
  | .custom =>
    .custom <$> customNameField.required text ms <*> dataField.optional anything .null ms

def readFields (action : Members → Checked Action) (ms : Members) : Checked Step :=
  Step.mk <$> nameField.optional text "" ms
    <*> selectorField.optional (nullOr text) none ms
    <*> selectorKindField.optional SelectorKind.read .css ms
    <*> waitTimeField.optional readWaitTime none ms
    <*> indexField.optional readIndex none ms
    <*> iterateField.optional truth false ms
    <*> groupField.optional readGroup none ms
    <*> optionsField.optional object [] ms
    <*> checksField.optional (list Check.read) [] ms
    <*> action ms

/-- A step is repeated alone or in its group, and only over the matches of a selector. -/
def checkIteration (s : Step) : Checked Step :=
  if s.iterate && s.group.isSome then
    fail (.rule "a step cannot set both 'iterate' and 'iterativeGroup'")
  else if s.iterate && s.target?.isNone then fail (.rule "'iterate' requires a selector")
  else good s

def checkWait (s : Step) : Checked Step :=
  require (!(s.isWait && s.waitTime.isNone)) "wait step requires 'waitTime'" s

/-- A step of a given kind. The rules between fields are looked at once every field is right. -/
def readKind (k : ActionKind) (ms : Members) : Checked Step :=
  (((model (fields k) (readFields (readAction k)) ms).andThen checkIteration).andThen
    checkWait).under (.key k.name)

/-- A step without any action. -/
def readBare (ms : Members) : Checked Step :=
  (model (commonFields.erase actionField) (readFields fun _ => good .unspecified) ms).andThen
    checkIteration

/-- Why no step was read: problems in the document, or an action that is a list or an object. -/
inductive Refusal where
  | problems (ps : List Problem)
  | unusableAction (kindName : String)

def ofChecked {α : Type} : Checked α → Except Refusal α
  | good a => .ok a
  | bad ps => .error (.problems ps)

/-- A step read from a document, among the actions that are offered. -/
def readAmong (offered : List ActionKind) (v : Json) : Except Refusal Step :=
  match v with
  | .obj ms =>
    match actionField.find? ms with
    | none => ofChecked (fail .noAction)
    | some (_, .str s) =>
      match ActionKind.ofName? s with
      | some k => ofChecked (if offered.contains k then readKind k ms else fail .unknownAction)
      | none => ofChecked (fail .unknownAction)
    | some (_, .arr items) => .error (.unusableAction (Json.arr items).kindName)
    | some (_, .obj members) => .error (.unusableAction (Json.obj members).kindName)
    | some _ => ofChecked (fail .unknownAction)
  | _ => ofChecked (fail .notStep)

def read (v : Json) : Except Refusal Step := readAmong ActionKind.all v

end Step
end Walkthrough
