import Walkthrough.Environment
import Walkthrough.Plugin.Registry
import Walkthrough.Query
import Walkthrough.Settings.Basic

/-! What steps and checks are carried out with. -/
namespace Walkthrough

/-- The settings of the run, the handlers of plugins and the environment of the process. -/
structure Engine where
  settings : Settings
  plugins : Plugins := {}
  environment : Environment := {}
  deriving Inhabited

namespace Query

/-- The elements of a selector, found in the way that its kind asks for. -/
def resolve (selector kind : String) : Play Locator :=
  match SelectorKind.ofName? (if kind = "" then SelectorKind.css.name else kind) with
  | some .css => Page.locate selector
  | some .xpath => Page.locate ("xpath=" ++ selector)
  | some .id => Page.locate ("#" ++ selector)
  | some .text => Page.locate ("text=" ++ selector)
  | some .testId => Page.locateTestId selector
  | none =>
    Act.fail (Failure.engineError .unsupportedSelector s!"Unsupported selector type: {kind}"
      [("selector", .str selector), ("selector_type", .str kind)])

/-- The elements of a query, or the one of them that it asks for. -/
def locate (q : Query) : Play Locator := do
  let l ← resolve q.selector q.kind
  return match q.index with
    | some n => l.nth n
    | none => l

/-- How many elements a query finds now. -/
def count (q : Query) : Play Nat := do
  let l ← q.locate
  l.count

/-- The elements of a query, where there is one. -/
def locateOptional : Option Query → Play (Option Locator)
  | none => Act.pure none
  | some q => some <$> q.locate

end Query
end Walkthrough
