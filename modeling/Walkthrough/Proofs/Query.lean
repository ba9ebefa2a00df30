import Walkthrough.Engine.Basic
import Walkthrough.Proofs.Act

/-! The queries of steps, and the elements that a page holds for them. -/
namespace Walkthrough

/-- The words in which a page is asked for the elements of a selector. -/
def SelectorKind.key (selector : String) : SelectorKind → String
  | css => selector
  | xpath => "xpath=" ++ selector
  | id => "#" ++ selector
  | text => "text=" ++ selector
  | testId => "testid=" ++ selector

namespace Query

variable {q : Query} {s : Step} {index : Option Int} {k : SelectorKind}

/-- What stands for the elements of a query, or for the one of them that it asks for. -/
def locator (q : Query) (k : SelectorKind) : Locator :=
  let all := Locator.all (k.key q.selector)
  match q.index with
  | some n => all.nth n
  | none => all

/-- The elements that a page holds for a query. -/
def found (q : Query) (k : SelectorKind) (p : Page) : List Element := (q.locator k).found p

theorem resolve_name (selector : String) (k : SelectorKind) :
    resolve selector k.name = Page.locate (k.key selector) := by
  unfold resolve
  rw [if_neg (by cases k <;> decide), SelectorKind.ofName?_name]
  cases k <;> rfl

/-- To find elements asks the page once and changes nothing. -/
theorem locate_eq (h : q.kind = k.name) (w : Scene) :
    q.locate w = ⟨.ok (q.locator k), w, [.query (k.key q.selector)], []⟩ := by
  unfold locate locator
  rw [h, resolve_name]
  cases q.index <;> rfl

/-- To count elements asks the page once and changes nothing. -/
theorem count_eq (h : q.kind = k.name) (w : Scene) :
    q.count w = ⟨.ok (q.found k w.page).length, w, [.query (k.key q.selector)], []⟩ := by
  unfold count
  rw [Act.bind_eq, Act.bind_of_ok (a := q.locator k) (by rw [locate_eq h]), locate_eq h]
  rfl

theorem kind_ofStep? (h : ofStep? s index = some q) : q.kind = s.selectorKind.name := by
  unfold ofStep? of? at h
  obtain ⟨selector, _, rfl⟩ := Option.map_eq_some_iff.mp h
  rfl

/-- An index of the step's own comes before a given one. -/
theorem index_ofStep? (h : ofStep? s index = some q) :
    q.index = (s.index.map Int.ofNat).or index := by
  unfold ofStep? of? at h
  obtain ⟨selector, _, rfl⟩ := Option.map_eq_some_iff.mp h
  cases s.index <;> rfl

end Query

/-- The query for the element of a step in turn number `index`: its own one or that of the turn. -/
def Step.queryAt (s : Step) (index : Nat) : Option Query :=
  s.target?.map fun selector =>
    { selector, kind := s.selectorKind.name, index := some ((s.index.getD index : Nat) : Int) }

theorem Query.ofStep?_some (s : Step) (index : Nat) :
    Query.ofStep? s (some (index : Int)) = s.queryAt index := by
  unfold Query.ofStep? Query.of? Step.queryAt Step.target?
  cases s.index <;> rfl

end Walkthrough
