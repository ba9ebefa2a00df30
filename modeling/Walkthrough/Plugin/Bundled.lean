import Walkthrough.Page.Calls
import Walkthrough.Page.Expect
import Walkthrough.Plugin.Registry
import Walkthrough.Settings.Conversion

/-! The handlers that come with the engine. Their data is a document of any form. -/
namespace Walkthrough

/-- The member of an object under a key; other values have no members. -/
def Json.lookUp (v : Json) (key : String) : Except Failure Json :=
  match v with
  | .obj ms =>
    match Members.get? ms key with
    | some x => .ok x
    | none => .error (.noKey (some key))
  | .arr _ => .error (.misuse .lookUpInList)
  | .str _ => .error (.misuse .lookUpInText)
  | v => .error (.misuse (.lookUp v.kindName))

/-- The values that a value holds: items, characters or keys. -/
def Json.sequence : Json → Except Failure (List Json)
  | .arr items => .ok items
  | .str s => .ok (s.toList.map fun c => .str c.toString)
  | .obj ms => .ok (ms.map fun m => .str m.1)
  | v => .error (.misuse (.asSequence v.kindName))

/-- The values that a value holds, none for one that counts for nothing. -/
def Json.sequenceOrNone (v : Json) : Except Failure (List Json) :=
  if v.truthy then v.sequence else .ok []

namespace Bundled

/-- The data of a step whose data is an object. -/
def stepData (s : Step) : Members :=
  match s.action with
  | .custom _ (.obj ms) => ms
  | _ => []

/-- The keys that extend a selection by one word. -/
def wordChord : String := "Alt+Shift+ArrowRight"

/-- Marks a word with the mouse once its place is known. -/
def dragOver (box : Json) (double : Bool) : Play Unit := do
  let x ← Act.ofExcept (box.lookUp (if double then "centerX" else "startX"))
  let y ← Act.ofExcept (box.lookUp (if double then "centerY" else "startY"))
  if double then Page.mouse (.dblclick x y)
  else
    Page.mouse (.move x y)
    Page.mouse .down
    let endX ← Act.ofExcept (box.lookUp "endX")
    let endY ← Act.ofExcept (box.lookUp "endY")
    Page.mouse (.move endX endY)
    Page.mouse .up

/-- Marks a word with the keyboard: by one chord, or character by character. -/
def pressOver (box word : Json) (wordwise : Bool) : Play Unit := do
  let x ← Act.ofExcept (box.lookUp "startX")
  let y ← Act.ofExcept (box.lookUp "startY")
  Page.mouse (.click x y)
  if wordwise then Page.keyPress wordChord []
  else
    Act.each (List.range word.display.length) fun _ => Page.keyPress "Shift+ArrowRight" []

/-- Selects one occurrence of a word with the mouse or the keyboard. -/
def selectWord (s : Step) (_ : Context) (element : Option Locator) : Play Unit := do
  let data := stepData s
  let word := (data.get? "word").getD .null
  if !word.truthy then
    Act.fail (Failure.engineError .missingField "selectWord requires 'data.word'"
      [("step", .str s.title)])
  else
    let nth ← Act.ofExcept ((data.get? "nth").getD (.int 0)).toWhole
    let mode := (data.get? "mode").getD (.str "mouse")
    let method := (data.get? "method").getD (.str "double")
    let root ← match element with
      | some l => (fun e => some e.name) <$> l.target
      | none => Act.pure none
    let box ← Page.findWord root word nth
    if !box.truthy then
      let place := match s.target? with
        | some selector => s!" within '{selector}'"
        | none => ""
      Act.fail (Failure.engineError .precondition
        (s!"Word '{word.display}' (occurrence {nth}) not found" ++ place)
        [("word", word), ("nth", .int nth)])
    else
      let x ← Act.ofExcept (box.lookUp "centerX")
      let y ← Act.ofExcept (box.lookUp "centerY")
      Page.mouse (.move x y)
      if mode.isText "mouse" || mode.isText "auto" then dragOver box (method.isText "double")
      else pressOver box word (((data.get? "wordwise").getD .null).truthy)

/-- Does something to the first element that a selector finds, if it finds one. -/
def ifFound (selector : Json) (f : Locator → Play Unit) : Play Unit := do
  let l ← Page.locate selector.display
  if 0 < (← l.count) then f l.first else return ()

/-- Answers a dialog where one is open. -/
def queryResponse (s : Step) (c : Context) (_ : Option Locator) : Play Unit := do
  let data := stepData s
  let given := (data.get? "selector").getD .null
  let selectors ← match given with
    | .obj ms => Act.pure ms
    | v => if v.truthy then Act.fail (.noOperation v.kindName "get") else Act.pure []
  let field := (Members.get? selectors "fillResponse").getD .null
  let done := (Members.get? selectors "clickDone").getD .null
  if !field.truthy || !done.truthy then
    Act.fail (Failure.engineError .missingField
      "queryResponse requires 'data.selector.fillResponse' and 'data.selector.clickDone'"
      [("step", .str s.title)])
  else
    let index := if c.iterationIndex.isNull then .int 0 else c.iterationIndex
    let response := (data.get? "response").getD .null
    let text :=
      if response.truthy then response.display else "Response for query " ++ index.display
    ifFound field fun l => l.fill text []
    ifFound done fun l => l.click []

/-- The tags whose texts do not count unless it is said which do not. -/
def excludedTags : List Json := [.str "script", .str "style", .str "noscript"]

/-- The texts that a check expects, in any of the forms in which they can be written. -/
def expectedTexts (data : Json) : Except Failure (List String) := do
  let vs ← match data with
    | .obj ms => ((Members.get? ms "expected").getD .null).sequenceOrNone
    | .arr items => .ok items
    | v => .ok [v]
  return (vs.filter fun v => !v.isNull).map Json.display

/-- The tags whose texts do not count for a check. -/
def excludedBy (data : Json) : Except Failure (List Json) :=
  match data with
  | .obj ms =>
    match Members.get? ms "exclude" with
    | none | some .null => .ok excludedTags
    | some v => v.sequence
  | _ => .ok excludedTags

/-- Every expected text has to stand in one of the element's own text nodes. -/
def textNodesPresent (c : Check) (_ : Context) (element : Option Locator) : Play Unit := do
  match element with
  | none =>
    Act.fail (Failure.engineError .missingElement
      "textNodesPresent needs a selector or a step locator" [])
  | some l =>
    let expected ← Act.ofExcept (expectedTexts c.data)
    if expected.isEmpty then
      Act.fail (Failure.engineError .missingField
        "textNodesPresent requires expected text in 'data'" [])
    else
      let found ← l.textNodes (← Act.ofExcept (excludedBy c.data))
      let nodes := (← Act.ofExcept found.sequenceOrNone).map Json.display
      match expected.filter fun s => !nodes.any (containsText s) with
      | [] => return ()
      | missing =>
        Act.fail (.assertion
          ("Text node(s) not found: " ++ ", ".intercalate (missing.map Text.quoted)))

def registrations : List Registration :=
  [.action "selectWord" ⟨"select_word", selectWord⟩,
    .action "queryResponse" ⟨"query_response", queryResponse⟩,
    .check "textNodesPresent" ⟨"text_nodes_present", textNodesPresent⟩]

end Bundled
end Walkthrough
