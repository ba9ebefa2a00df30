import Walkthrough.Check.Basic
import Walkthrough.Context
import Walkthrough.Page.Locator

/-! Named handlers for actions and checks that are not built in. -/
namespace Walkthrough

/-- A handler and the name that its author gave it. It sees the step or check, the context, and the
element if there is one. -/
structure Handler (α : Type) where
  name : String
  run : α → Context → Option Locator → Play Unit

instance {α : Type} : Inhabited (Handler α) := ⟨⟨"", fun _ _ _ => Act.pure ()⟩⟩

/-- A handler with the name under which it is to be found. -/
inductive Registration where
  | action (name : String) (h : Handler Step)
  | check (name : String) (h : Handler Check)

/-- Two tables of handlers. Once frozen they stay as they are. -/
structure Plugins where
  actions : List (String × Handler Step) := []
  checks : List (String × Handler Check) := []
  frozen : Bool := false
  deriving Inhabited

namespace Plugins

/-- A table with one entry set: in its place if it is there, at the end otherwise. -/
def putEntry {α : Type} (table : List (String × α)) (name : String) (a : α) : List (String × α) :=
  match table with
  | [] => [(name, a)]
  | x :: rest => if x.1 = name then (name, a) :: rest else x :: putEntry rest name a

/-- Sets an entry of a table that is not frozen yet. -/
def register (p : Plugins) (r : Registration) : Except Failure Plugins :=
  if p.frozen then
    .error (.state "Plugin registry is frozen; register plugins before the run starts")
  else
    match r with
    | .action name h => .ok { p with actions := putEntry p.actions name h }
    | .check name h => .ok { p with checks := putEntry p.checks name h }

def freeze (p : Plugins) : Plugins := { p with frozen := true }

/-- The handler under a name, in the table for a kind of thing. -/
def lookUp {α : Type} (table : List (String × α)) (kind : String) (name : Option String) :
    Except Failure α :=
  match name.filter (· ≠ "") with
  | none =>
    .error (Failure.engineError .unknownPlugin s!"Custom {kind} requires a 'customName'"
      [("kind", .str kind)])
  | some n =>
    match table.find? (·.1 == n) with
    | some (_, a) => .ok a
    | none =>
      .error (Failure.engineError .unknownPlugin s!"No custom {kind} registered under '{n}'"
        [("kind", .str kind), ("name", .str n)])

def action (p : Plugins) (name : Option String) : Except Failure (Handler Step) :=
  lookUp p.actions "action" name

def check (p : Plugins) (name : Option String) : Except Failure (Handler Check) :=
  lookUp p.checks "validation" name

/-- The names of a table in the order of their code points. -/
def names {α : Type} (table : List (String × α)) : List String := (table.map (·.1)).mergeSort

/-- Registers one after the other. What stands before a failure stays registered. -/
def registerAll (p : Plugins) : List Registration → Plugins × Except Failure Unit
  | [] => (p, .ok ())
  | r :: rest =>
    match p.register r with
    | .ok p => registerAll p rest
    | .error e => (p, .error e)

/-- What a module that was found offers: its registrations, or no way to ask for them. -/
inductive Module where
  | plain
  | offers (rs : List Registration)

/-- Modules by their names. -/
abbrev Modules := String → Option Module

/-- The module of a name with points between its parts. -/
def findModule (modules : Modules) (name : String) : Except Failure Module :=
  match modules name with
  | some m => .ok m
  | none =>
    match (Text.splitBy (· == '.') name.toList).map String.ofList with
    | [""] => .error (.value "Empty module name")
    | "" :: _ => .error (.misuse (.relativeModule name))
    | outer :: rest =>
      if (modules outer).isSome && !rest.isEmpty then .error (.noModule name (some outer))
      else .error (.noModule outer none)
    | [] => .error (.noModule name none)

/-- Registers what one module offers. -/
def loadOne (p : Plugins) (modules : Modules) (name : String) : Plugins × Except Failure Unit :=
  match findModule modules name with
  | .error e => (p, .error e)
  | .ok .plain => (p, .error (.misuse (.registerFrom name)))
  | .ok (.offers rs) => p.registerAll rs

/-- Registers what modules offer, up to the first that fails. -/
def load (modules : Modules) (p : Plugins) : List String → Plugins × Except Failure Unit
  | [] => (p, .ok ())
  | name :: rest =>
    match p.loadOne modules name with
    | (p, .ok ()) => load modules p rest
    | (p, .error e) => (p, .error e)

/-- Frozen tables with the given registrations and those of modules. -/
def build (first : List Registration) (modules : Modules) (names : List String) :
    Except Failure Plugins :=
  let (p, r) := ({} : Plugins).registerAll first
  match r with
  | .error e => .error e
  | .ok () =>
    match load modules p names with
    | (p, .ok ()) => .ok p.freeze
    | (_, .error e) => .error e

end Plugins
end Walkthrough
