/-! What can be wrong with a part of a document, and where. -/
namespace Walkthrough.Schema

/-- One step on the way from a document to a part of it. -/
inductive Place where
  | key (name : String)
  | item (position : Nat)
  deriving DecidableEq, Repr

/-- The ways in which a part of a document fails its description. -/
inductive Fault where
  | missing
  | unknownKey
  | notText
  | notList
  | notObject
  | notOneOf
  | belowMinimum
  | notWhole
  | unreadableWhole
  | fractional
  | wholeTooLarge
  | notFinite
  | notTruth
  | unreadableTruth
  | notModel
  | notStep
  | noAction
  | unknownAction
  | rule (message : String)
  deriving DecidableEq, Repr

structure Problem where
  place : List Place
  fault : Fault
  deriving DecidableEq, Repr

/-- The problem as seen from one level further out. -/
def Problem.under (p : Place) (problem : Problem) : Problem :=
  { problem with place := p :: problem.place }

/-- A value, or every problem found on the way to it. -/
inductive Checked (α : Type) where
  | good (a : α)
  | bad (problems : List Problem)
  deriving DecidableEq, Repr

namespace Checked

variable {α β : Type}

def map (f : α → β) : Checked α → Checked β
  | good a => good (f a)
  | bad ps => bad ps

/-- Both results, or the problems of both sides in order. -/
def seq (f : Checked (α → β)) (x : Unit → Checked α) : Checked β :=
  match f, x () with
  | good f, good a => good (f a)
  | good _, bad ps => bad ps
  | bad ps, good _ => bad ps
  | bad ps, bad qs => bad (ps ++ qs)

instance : Applicative Checked where
  pure := good
  map := map
  seq := seq

/-- Continues with a value; nothing further is looked at after a problem. -/
def andThen (x : Checked α) (f : α → Checked β) : Checked β :=
  match x with
  | good a => f a
  | bad ps => bad ps

def fail (fault : Fault) : Checked α := bad [⟨[], fault⟩]

def under (p : Place) : Checked α → Checked α
  | good a => good a
  | bad ps => bad (ps.map (·.under p))

/-- Reads every item at its position and keeps the problems of all of them. -/
def itemsFrom (read : α → Checked β) : Nat → List α → Checked (List β)
  | _, [] => good []
  | n, v :: rest => List.cons <$> (read v).under (.item n) <*> itemsFrom read (n + 1) rest

def items (read : α → Checked β) (vs : List α) : Checked (List β) := itemsFrom read 0 vs

/-- Fails unless the condition holds. -/
def require (condition : Bool) (message : String) (a : α) : Checked α :=
  if condition then good a else fail (.rule message)

end Checked
end Walkthrough.Schema
