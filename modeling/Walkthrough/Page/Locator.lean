import Walkthrough.Page.Basic

/-! Lazy references to elements: which elements they stand for is found out at each use. -/
namespace Walkthrough

/-- All elements of a query, one of several, or the inputs among the children. -/
inductive Locator where
  | all (key : String)
  | nth (base : Locator) (index : Int)
  | inputs (base : Locator)
  deriving DecidableEq, Repr, Inhabited

/-- The part of a list between two bounds; a bound below zero counts from the end. -/
def slice {α : Type} (xs : List α) (first last : Int) : List α :=
  let bound := fun (n : Int) => (if n < 0 then n + xs.length else n).toNat
  (xs.take (bound last)).drop (bound first)

namespace Locator

def label : Locator → String
  | all key => key
  | nth base index => base.label ++ s!" >> nth={index}"
  | inputs base => base.label ++ " >> inputs"

/-- The elements that the page holds for the locator now. -/
def found (p : Page) : Locator → List Element
  | all key => p.find key
  | nth base index => slice (base.found p) index (index + 1)
  | inputs base => (base.found p).flatMap fun e => e.children.filter Element.looksLikeInput

def first? (p : Page) (l : Locator) : Option Element := (l.found p).head?

/-- The locator of the first element alone. -/
def first (l : Locator) : Locator := l.nth 0

def count (l : Locator) : Play Nat := do
  return (l.found (← Act.get).page).length

/-- Whether the first element is there and visible. -/
def isVisible (l : Locator) : Play Bool := do
  return (l.first? (← Act.get).page).any (·.traits.visible)

/-- The first element, which must be there. -/
def target (l : Locator) : Play Element := do
  match l.first? (← Act.get).page with
  | some e => return e
  | none => Act.fail (.page ("no element for " ++ l.label))

/-- The inputs among the children, with a mark that they were looked for. -/
def descend (l : Locator) : Play Locator := do
  Act.mark (.descend l.label)
  return l.inputs

end Locator

namespace Page

/-- A locator for a selector. -/
def locate (key : String) : Play Locator := do
  Act.mark (.query key)
  return .all key

/-- A locator for the identifier that tests know an element by. -/
def locateTestId (id : String) : Play Locator := locate ("testid=" ++ id)

end Page
end Walkthrough
