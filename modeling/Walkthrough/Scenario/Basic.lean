import Walkthrough.Step.Basic

/-! Scenarios: a description and steps in order. -/
namespace Walkthrough

/-- A scenario, and the name of the document it came from. -/
structure Scenario where
  description : String
  enabled : Bool := true
  steps : List Step := []
  source : Option String := none
  deriving Inhabited

def Scenario.title (s : Scenario) : String := "Run scenario: " ++ s.description

end Walkthrough
