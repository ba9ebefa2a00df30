import Walkthrough.Check.Basic
import Walkthrough.Step.Basic

/-! Questions to a page: a selector, its kind and perhaps the number of one match. -/
namespace Walkthrough

structure Query where
  selector : String
  kind : String := "css"
  index : Option Int := none
  deriving DecidableEq, Repr, Inhabited

namespace Query

/-- The query of a selector, unless there is none. Its own index comes before the one given. -/
def of? (selector : Option String) (kind : SelectorKind) (own : Option Nat) (index : Option Int) :
    Option Query :=
  (selector.filter (· ≠ "")).map fun s =>
    { selector := s
      kind := kind.name
      index := match own with
        | some n => some n
        | none => index }

def ofStep? (s : Step) (index : Option Int) : Option Query :=
  of? s.selector s.selectorKind s.index index

def ofCheck? (c : Check) (index : Option Int) : Option Query :=
  of? c.selector c.selectorKind c.index index

def withIndex (q : Query) (index : Option Int) : Query := { q with index }

def describe (q : Query) : String :=
  q.kind ++ "=" ++ q.selector ++
    match q.index with
    | some n => s!" [nth={n}]"
    | none => ""

end Query
end Walkthrough
