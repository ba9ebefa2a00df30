import Walkthrough.Page.Locator

/-! Calls on elements and on pages. -/
namespace Walkthrough

def modifyPage (f : Page → Page) : Play Unit := Act.modify fun s => { s with page := f s.page }

namespace Locator

/-- A call on the first element: a mark, then a refusal or the changes that it brings about. -/
def call (l : Locator) (c : ElementCall) : Play Element := do
  let e ← l.target
  Act.mark (.element c e.name)
  match namedValue? e.traits.errors c.name with
  | some message => Act.fail (.page message)
  | none =>
    modifyPage fun p => p.mutateAll (e.reactionsTo c.name)
    return e

def click (l : Locator) (options : Members) : Play Unit := do
  let _ ← l.call (.click options)

def hover (l : Locator) (options : Members) : Play Unit := do
  let _ ← l.call (.hover options)

def press (l : Locator) (key : String) (options : Members) : Play Unit := do
  let _ ← l.call (.press key options)

def setInputFiles (l : Locator) (files : List UploadFile) (options : Members) : Play Unit := do
  let _ ← l.call (.setInputFiles files options)

/-- Gives the element a new value. -/
def fill (l : Locator) (value : String) (options : Members) : Play Unit := do
  let e ← l.call (.fill value options)
  modifyPage fun p => p.updateElement e.traits.id fun t => { t with value := value }

/-- Adds a text to the element's value. -/
def pressSequentially (l : Locator) (text : String) (options : Members) : Play Unit := do
  let e ← l.call (.pressSequentially text options)
  modifyPage fun p => p.updateElement e.traits.id fun t => { t with value := t.value ++ text }

/-- What a script tells of the element. -/
def describe (l : Locator) : Play Json := do
  return (← l.call .describe).description

/-- The texts that a script finds in the element. -/
def textNodes (l : Locator) (excluded : List Json) : Play Json := do
  let e ← l.call (.textNodes excluded)
  return match e.traits.nodes with
    | some v => v
    | none => .strings (e.textNodes (excluded.map fun v => Text.lower v.display))

end Locator

namespace Page

/-- A call on the page: a mark, then a refusal if there is one. -/
def call (c : PageCall) : Play Unit := do
  Act.mark (.page c)
  match namedValue? (← Act.get).page.errors c.name with
  | some message => Act.fail (.page message)
  | none => return ()

def goto (url : String) (options : Members) : Play Unit := do
  call (.goto url options)
  modifyPage fun p => { p with url := (namedValue? p.redirects url).getD url }

/-- Lets time pass. -/
def wait (ms : Nat) : Play Unit := do
  call (.wait ms)
  Act.modify fun s => { s with clock := s.clock + ms }

def keyPress (key : String) (options : Members) : Play Unit := call (.keyPress key options)

def mouse (c : MouseCall) : Play Unit := call (.mouse c)

/-- The place of an occurrence of a word, below an element if one is given. -/
def findWord (root : Option String) (word : Json) (nth : Int) : Play Json := do
  call (.findWord root word nth)
  return (← Act.get).page.foundWord

end Page
end Walkthrough
