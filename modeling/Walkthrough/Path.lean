import Walkthrough.Text.Split

/-! Paths of files, held as the names between their slashes. -/
namespace Walkthrough

inductive PathRoot where
  | relative
  | slash
  | doubleSlash
  deriving DecidableEq, Repr, Inhabited

/-- The root that so many slashes in front stand for. -/
def PathRoot.ofSlashes (n : Nat) : PathRoot :=
  if n = 0 then .relative else if n = 2 then .doubleSlash else .slash

/-- A path without empty names and without single dots. -/
structure Path where
  root : PathRoot
  parts : List String
  deriving DecidableEq, Repr, Inhabited

namespace Path

/-- A path as it is written. Exactly two slashes in front are kept. -/
def ofString (s : String) : Path :=
  let cs := s.toList
  let names := (Text.splitBy (· == '/') cs).map String.ofList
  { root := PathRoot.ofSlashes (cs.takeWhile (· == '/')).length
    parts := names.filter fun n => n ≠ "" && n ≠ "." }

def rootText : PathRoot → String
  | .relative => ""
  | .slash => "/"
  | .doubleSlash => "//"

def toString (p : Path) : String :=
  if p.root = .relative && p.parts.isEmpty then "."
  else rootText p.root ++ "/".intercalate p.parts

instance : ToString Path := ⟨toString⟩

/-- Whether a null character stands in a name, which no file's name can hold. -/
def hasNull (p : Path) : Bool := p.parts.any fun n => n.toList.contains '\x00'

def isAbsolute (p : Path) : Bool := p.root ≠ .relative

/-- The second path as seen from the first; an absolute one stands for itself. -/
def join (p q : Path) : Path := if q.isAbsolute then q else { p with parts := p.parts ++ q.parts }

/-- The path of a name inside the directory; the name may hold slashes. -/
def child (p : Path) (name : String) : Path := p.join (ofString name)

/-- The last name, or nothing for a root. -/
def name (p : Path) : String := p.parts.getLast?.getD ""

def parent (p : Path) : Path := { p with parts := p.parts.dropLast }

/-- The names that remain when every pair of dots takes the name before it away. -/
def withoutDots (parts : List String) : List String :=
  (parts.foldl (fun done n => if n = ".." then done.drop 1 else n :: done) []).reverse

/-- The absolute path of `p` as seen from a working directory, without dots. -/
def resolve (cwd p : Path) : Path :=
  { root := .slash, parts := withoutDots (cwd.join p).parts }

end Path
end Walkthrough
