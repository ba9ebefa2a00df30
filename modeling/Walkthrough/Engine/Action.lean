import Walkthrough.Engine.Basic
import Walkthrough.Engine.Fill
import Walkthrough.Upload.Files
import Walkthrough.Url.Basic

/-! Carrying out the action of a step. -/
namespace Walkthrough

/-- The address of a path as seen from the base address of the settings. -/
def Settings.targetUrl (s : Settings) (path : String) : Except Failure String :=
  (Url.resolve s.baseUrl path).mapError fun e => .value e.message

namespace Step

/-- The failure of a step whose action needs an element. -/
def missingElement (s : Step) : Failure :=
  Failure.engineError .missingElement
    s!"Action '{s.actionName}' in step '{s.title}' requires a selector"
    [("step", .str s.title), ("action", .str s.actionName)]

/-- The failure of a step without an action. -/
def unsupported (s : Step) : Failure :=
  Failure.engineError .unsupportedAction "Unsupported action: StepBase" [("step", .str s.name)]

/-- Goes to an address; the step's own options come after the time limit of the settings. -/
def navigate (engine : Engine) (s : Step) (path : String) : Play Unit := do
  let url ← Act.ofExcept (engine.settings.targetUrl path)
  Page.goto url
    (Members.merge [("timeout", .int engine.settings.navigationTimeout)] s.options)

/-- Hands files to an input, which is emptied first if the step asks for it. -/
def upload (engine : Engine) (s : Step) (u : Upload) (l : Locator) : Play Unit := do
  let base := engine.settings.uploadBaseDir
  let files ← Act.ofExcept (u.require engine.environment base s.title)
  if u.clearFirst then l.setInputFiles [] [] else Act.pure ()
  l.setInputFiles files s.options

/-- An action on an element, which must be there. -/
def onElement (s : Step) (element : Option Locator) (f : Locator → Play Unit) : Play Unit :=
  match element with
  | some l => f l
  | none => Act.fail s.missingElement

/-- Carries out the action of a step. -/
def perform (engine : Engine) (s : Step) (element : Option Locator) (ctx : Context) : Play Unit :=
  match s.action with
  | .navigate path => s.navigate engine path
  | .fill text => s.onElement element fun l => do
    let _ ← Fill.fillOrReveal l text s.options (s.selector.getD "")
  | .type text => s.onElement element fun l => l.pressSequentially text s.options
  | .click => s.onElement element fun l => l.click s.options
  | .hover => s.onElement element fun l => l.hover s.options
  | .pressKey key =>
    match element with
    | none => Page.keyPress key s.options
    | some l => l.press key s.options
  | .wait => Page.wait (s.waitTime.getD 0)
  | .upload u => s.onElement element fun l => s.upload engine u l
  | .custom name _ => do
    let h ← Act.ofExcept (engine.plugins.action (some name))
    h.run s ctx element
  | .unspecified => Act.fail s.unsupported

end Step
end Walkthrough
