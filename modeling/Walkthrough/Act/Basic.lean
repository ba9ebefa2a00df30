import Walkthrough.Failure.Basic
import Walkthrough.Log
import Walkthrough.Trace

/-!
Acts: computations that change a state, may fail, and leave marks and log lines behind. What was
left before a failure stays, and an act cannot see or take back what was left before it.
-/
namespace Walkthrough

/-- How an act ended: its value or failure, the state after it, and what it left. -/
structure Outcome (σ α : Type) where
  result : Except Failure α
  state : σ
  trace : List Mark := []
  logs : List LogLine := []

def Act (σ α : Type) : Type := σ → Outcome σ α

namespace Act

variable {σ τ α β : Type}

def pure (a : α) : Act σ α := fun s => ⟨.ok a, s, [], []⟩

/-- One act after another. A failure of the first leaves the second out. -/
def bind (x : Act σ α) (f : α → Act σ β) : Act σ β := fun s =>
  let first := x s
  match first.result with
  | .error e => ⟨.error e, first.state, first.trace, first.logs⟩
  | .ok a =>
    let second := f a first.state
    ⟨second.result, second.state, first.trace ++ second.trace, first.logs ++ second.logs⟩

instance : Monad (Act σ) where
  pure := pure
  bind := bind

def fail (e : Failure) : Act σ α := fun s => ⟨.error e, s, [], []⟩

/-- One act, and another in its place if it fails. The state stays as the failure left it. -/
def handle (x : Act σ α) (f : Failure → Act σ α) : Act σ α := fun s =>
  let first := x s
  match first.result with
  | .ok a => ⟨.ok a, first.state, first.trace, first.logs⟩
  | .error e =>
    let second := f e first.state
    ⟨second.result, second.state, first.trace ++ second.trace, first.logs ++ second.logs⟩

instance : MonadExceptOf Failure (Act σ) where
  throw := fail
  tryCatch := handle

def get : Act σ σ := fun s => ⟨.ok s, s, [], []⟩

def modify (f : σ → σ) : Act σ Unit := fun s => ⟨.ok (), f s, [], []⟩

/-- Leaves a mark. -/
def mark (m : Mark) : Act σ Unit := fun s => ⟨.ok (), s, [m], []⟩

def log (level : LogLevel) (source message : String) : Act σ Unit := fun s =>
  ⟨.ok (), s, [], [⟨level, source, message⟩]⟩

def ofExcept : Except Failure α → Act σ α
  | .ok a => pure a
  | .error e => fail e

/-- The result of an act as a value. -/
def attempt (x : Act σ α) : Act σ (Except Failure α) := fun s =>
  let o := x s
  ⟨.ok o.result, o.state, o.trace, o.logs⟩

/-- One act, and another after it whatever happens. A failure of the second comes before one of
the first. -/
def thenAlways (x : Act σ α) (last : Act σ Unit) : Act σ α := do
  let r ← attempt x
  last
  ofExcept r

/-- An act on a part of the state. -/
def zoom (part : τ → σ) (put : τ → σ → τ) (x : Act σ α) : Act τ α := fun t =>
  let o := x (part t)
  ⟨o.result, put t o.state, o.trace, o.logs⟩

/-- One act for each of several values, in order. -/
def each : List β → (β → Act σ Unit) → Act σ Unit
  | [], _ => pure ()
  | b :: rest, f => bind (f b) fun _ => each rest f

end Act
end Walkthrough
