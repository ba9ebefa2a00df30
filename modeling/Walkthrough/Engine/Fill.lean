import Walkthrough.Page.Calls
import Walkthrough.Text.LowerCase

/-! Filling an input, or the input that a click reveals. -/
namespace Walkthrough.Fill

/-- The types of input that take text. -/
def textInputTypes : List String :=
  ["", "text", "search", "email", "password", "number", "tel", "url", "date", "datetime-local",
    "month", "time", "week"]

/-- The roles of elements that take text. -/
def textRoles : List String := ["textbox", "searchbox", "combobox"]

def get (info : Members) (key : String) : Json := (info.get? key).getD .null

/-- Whether a value is one of some texts. Lists and objects cannot be looked up among them. -/
def isAmong (v : Json) (texts : List String) : Except Failure Bool :=
  match v with
  | .str s => .ok (texts.contains s)
  | .arr _ | .obj _ => .error (.misuse (.asKey v.kindName))
  | _ => .ok false

/-- Whether an element takes text, by what a script tells of it. -/
def isFillable (info : Members) : Except Failure Bool :=
  if info.isEmpty then .ok false
  else if (get info "disabled").truthy || (get info "readOnly").truthy then .ok false
  else if (get info "contentEditable").truthy then .ok true
  else do
    if ← isAmong (get info "role") textRoles then return true
    else if (get info "tag").isText "textarea" then return true
    else if (get info "tag").isText "input" then
      let type := get info "type"
      if type.truthy then isAmong type textInputTypes else return true
    else return false

/-- At most forty characters, the last three of which are dots where more were left out. -/
def shortened (cs : List Char) : List Char :=
  if 40 < cs.length then cs.take 37 ++ ['.', '.', '.'] else cs

/-- The first of three names that an element has. -/
def identifier (info : Members) : Json :=
  let name := get info "name"
  let id := get info "id"
  if name.truthy then name else if id.truthy then id else get info "placeholder"

/-- The text of the name, if there is one. -/
def identifierText (info : Members) : Except Failure (Option String) :=
  let v := identifier info
  if v.truthy then
    match v with
    | .str s => .ok (some (String.ofList (shortened (Text.trim s).toList)))
    | v => .error (.noOperation v.kindName "strip")
  else .ok none

/-- The parts of a summary behind the tag. -/
def laterParts (info : Members) (name : Option String) : List String :=
  let type := get info "type"
  (if type.truthy then ["type=" ++ type.display] else []) ++
    (if (get info "disabled").truthy then ["disabled=true"] else []) ++
    (if (get info "readOnly").truthy then ["readOnly=true"] else []) ++
    (name.map ("identifier=" ++ ·)).toList

/-- An element in a few words. -/
def summary (info : Members) : Except Failure String := do
  let later := laterParts info (← identifierText info)
  let tag := get info "tag"
  let parts ←
    if tag.truthy then
      match tag with
      | .str s => pure (s :: later)
      | v => throw (.misuse (.asText v.kindName 0))
    else pure later
  return if parts.isEmpty then "unknown element" else ", ".intercalate parts

/-- A value in small letters; one that counts for nothing becomes an empty text. -/
def lowered (v : Json) : Except Failure Json :=
  if v.truthy then
    match v with
    | .str s => .ok (.str (Text.lower s))
    | v => .error (.noOperation v.kindName "lower")
  else .ok (.str "")

/-- The facts of an element with tag, type and role in small letters. -/
def normalized (info : Members) : Except Failure Members := do
  let info := Members.put info "tag" (← lowered (get info "tag"))
  let info := Members.put info "type" (← lowered (get info "type"))
  return Members.put info "role" (← lowered (get info "role"))

/-- What a script tells of an element; an answer that is no object counts as none. -/
def describe (l : Locator) : Play Members := do
  match ← l.describe with
  | .obj info => Act.ofExcept (normalized info)
  | _ => return []

/-- The first of several candidates that is visible. -/
def firstVisible (candidates : Locator) : List Nat → Play (Option Locator)
  | [] => Act.pure none
  | n :: rest => do
    let candidate := candidates.nth n
    if ← candidate.isVisible then return some candidate else firstVisible candidates rest

/-- The first visible input below an element. -/
def findInput (l : Locator) : Play (Option Locator) := do
  let candidates ← l.descend
  let total ← candidates.count
  firstVisible candidates (List.range total)

/-- The failure of an element that neither takes text nor reveals an input. -/
def notFillable (description summary : String) (info : Members) : Failure :=
  let name := if description = "" then summary else description
  Failure.engineError .notFillable
    (s!"Element '{name}' is not fillable and no visible input appeared after clicking it")
    [("element", .obj info)]

/-- The input that takes the text: the element itself, or one that a click on it reveals. -/
def chooseInput (l : Locator) (description : String) : Play Locator := do
  let info ← describe l
  if ← Act.ofExcept (isFillable info) then return l
  else
    let s ← Act.ofExcept (summary info)
    l.click []
    match ← findInput l with
    | some input => return input
    | none => Act.fail (notFillable description s info)

/-- Fills an element, or the input that a click on it reveals. Returns the one that was filled. -/
def fillOrReveal (l : Locator) (value : String) (options : Members) (description : String) :
    Play Locator := do
  let input ← chooseInput l description
  input.fill value options
  return input

end Walkthrough.Fill
