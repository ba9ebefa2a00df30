import Walkthrough.Act.Basic
import Walkthrough.Page.Element

/-! Pages and their changes. -/
namespace Walkthrough

/-- A page: its address and title, the elements that each query finds, and what scripts find. Calls
and expectations whose names are among `errors` are refused. -/
structure Page where
  url : String := "about:blank"
  title : String := ""
  elements : List (String × List Element) := []
  redirects : List (String × String) := []
  foundWord : Json := .null
  errors : List (String × String) := []
  mismatch : Option String := none
  nextId : Nat := 1
  deriving Inhabited

namespace Page

/-- The elements that a query finds now. -/
def find (p : Page) (query : String) : List Element := (namedValue? p.elements query).getD []

def putFound : List (String × List Element) → String → List Element → List (String × List Element)
  | [], query, es => [(query, es)]
  | x :: rest, query, es => if x.1 = query then (query, es) :: rest else x :: putFound rest query es

def setFound (p : Page) (query : String) (es : List Element) : Page :=
  { p with elements := putFound p.elements query es }

/-- A new element with numbers of its own. -/
def enroll (p : Page) (e : Element) : Element × Page :=
  let (e, next) := e.numbered p.nextId
  (e, { p with nextId := next })

/-- The place of a number that counts from zero, if it does not lie before it. -/
def position? (n : Int) : Option Nat := if 0 ≤ n then some n.toNat else none

/-- Changes the element at a place; there need not be one. -/
def changeAt (p : Page) (query : String) (position : Int) (f : Element → Element) : Page :=
  match position? position with
  | some n => p.setFound query ((p.find query).modify n f)
  | none => p

def mutate (p : Page) : Mutation → Page
  | .url value => { p with url := value }
  | .title value => { p with title := value }
  | .add query e =>
    let (e, p) := p.enroll e
    p.setFound query (p.find query ++ [e])
  | .clear query => p.setFound query []
  | .remove query position =>
    match position? position with
    | some n => p.setFound query ((p.find query).eraseIdx n)
    | none => p
  | .change query position c => p.changeAt query position (Element.withTraits c.apply)
  | .child query position e =>
    let (e, p) := p.enroll e
    p.changeAt query position (Element.addChild e)

def mutateAll (p : Page) (ms : List Mutation) : Page := ms.foldl mutate p

/-- Changes the traits of one element wherever it stands. -/
def updateElement (p : Page) (id : Nat) (f : Traits → Traits) : Page :=
  { p with elements := p.elements.map fun x => (x.1, Element.updateIdAll id f x.2) }

/-- A page with elements that have no numbers yet. -/
def enrollAll (p : Page) : Page :=
  p.elements.foldl (fun (p : Page) x =>
    let (es, next) := Element.numberedAll p.nextId x.2
    { p.setFound x.1 es with nextId := next }) p

end Page

/-- The page and the time in milliseconds: what the calls of a step can change. -/
structure Scene where
  page : Page := {}
  clock : Int := 1000
  deriving Inhabited

/-- Acts on a page. -/
abbrev Play (α : Type) : Type := Act Scene α

end Walkthrough
