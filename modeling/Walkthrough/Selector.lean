/-! The ways in which a selector text names elements. -/
namespace Walkthrough

inductive SelectorKind where
  | css
  | xpath
  | id
  | text
  | testId
  deriving DecidableEq, Repr, Inhabited

namespace SelectorKind

def all : List SelectorKind := [css, xpath, id, text, testId]

def name : SelectorKind → String
  | css => "css"
  | xpath => "xpath"
  | id => "id"
  | text => "text"
  | testId => "testId"

def ofName? (s : String) : Option SelectorKind := all.find? (·.name == s)

theorem ofName?_name (k : SelectorKind) : ofName? k.name = some k := by
  cases k <;> decide

end SelectorKind
end Walkthrough
