import Walkthrough.Failure.Basic

/-! What a step knows about the run it is part of. -/
namespace Walkthrough

/-- Named values in order. Entering a scope makes a wider context; nothing is changed in place. -/
structure Context where
  fields : Members := []
  deriving Inhabited

namespace Context

def indexKey : String := "iterationIndex"
def totalKey : String := "totalIterations"
def groupKey : String := "iterativeGroup"

def ofMembers (ms : Members) : Context := ⟨ms⟩

def extend (c : Context) (ms : Members) : Context := ⟨c.fields.merge ms⟩

/-- The context of one repetition. Without a group the name of an outer one stays. -/
def forIteration (c : Context) (index total : Json) (group : Option Json) : Context :=
  c.extend ([(indexKey, index), (totalKey, total)] ++
    match group with
    | some g => [(groupKey, g)]
    | none => [])

/-- The context of repetition number `index` of `total`. -/
def repetition (c : Context) (index total : Nat) (group : Option String) : Context :=
  c.forIteration (.int index) (.int total) (group.map Json.str)

def get? (c : Context) (key : String) : Option Json := c.fields.get? key

def iterationIndex (c : Context) : Json := (c.get? indexKey).getD .null

def totalIterations (c : Context) : Json := (c.get? totalKey).getD .null

def inIteration (c : Context) : Bool := c.fields.has indexKey

/-- The number after a value, for values that have one. -/
def next : Json → Except Failure Json
  | .int n => .ok (.int (n + 1))
  | .bool b => .ok (.int (if b then 2 else 1))
  | .float x => .ok (.float (x.addOne))
  | .str _ => .error (.misuse .addToText)
  | .arr _ => .error (.misuse .addToList)
  | v => .error (.misuse (.add v.kindName))

/-- What titles say about the repetition: its number, counted from one, and how many there are. -/
def suffix (c : Context) : Except Failure String :=
  if c.inIteration then
    (next c.iterationIndex).map fun n =>
      " [" ++ n.display ++ "/" ++ c.totalIterations.display ++ "]"
  else .ok ""

/-- The context in words. -/
def describe (c : Context) : String := "ExecutionContext(" ++ (Json.obj c.fields).quoted ++ ")"

end Context
end Walkthrough
