import Walkthrough.Failure.Basic

/-! The actions that documents may name. -/
namespace Walkthrough

/-- Actions that have been registered, in any order. -/
structure Vocabulary where
  kinds : List ActionKind := []
  deriving DecidableEq, Repr, Inhabited

namespace Vocabulary

/-- Adds the action of a name; what is no action is refused. -/
def register (v : Vocabulary) (name : String) : Except Failure Vocabulary :=
  match ActionKind.all.find? (·.name == name) with
  | some k => .ok ⟨v.kinds ++ [k]⟩
  | none => .error (.misuse .asStep)

/-- Why no step was read: a failure, or problems in the document. -/
inductive Refusal where
  | failure (e : Failure)
  | problems (ps : List Schema.Problem)

/-- Reads a step whose action is among the registered ones. -/
def read (v : Vocabulary) (document : Json) : Except Refusal Step :=
  if v.kinds.isEmpty then .error (.failure (.state "No steps registered"))
  else
    (Step.readAmong v.kinds document).mapError fun e =>
      match e with
      | .problems ps => .problems ps
      | .unusableAction kind => .failure (.misuse (.asKey kind))

end Vocabulary
end Walkthrough
