import Walkthrough.Path

/-! The process environment: its variables in order, and the working directory. -/
namespace Walkthrough

structure Environment where
  vars : List (String × String) := []
  cwd : Path := ⟨.slash, ["work"]⟩
  /-- The home directories of the users of the machine. -/
  homes : List (String × String) := [("root", "/root")]
  deriving Inhabited

namespace Environment

def get? (e : Environment) (name : String) : Option String :=
  (e.vars.find? (·.1 == name)).map (·.2)

/-- The variables without one. -/
def erase (vars : List (String × String)) (name : String) : List (String × String) :=
  vars.filter (·.1 != name)

/-- The variables with one set: in its place if it is there, at the end otherwise. -/
def set : List (String × String) → String → String → List (String × String)
  | [], name, value => [(name, value)]
  | v :: rest, name, value =>
    if v.1 = name then (name, value) :: rest else v :: set rest name value

/-- The directory that a first name with a tilde stands for. -/
def home? (e : Environment) (user : String) : Option String :=
  if user = "" then e.get? "HOME" else (e.homes.find? (·.1 == user)).map (·.2)

/-- The directory that a text names as a home. Slashes at its end do not count, and one that begins
with a tilde itself is none. -/
def homePath? (dir : String) : Option Path :=
  if dir.toList.head? = some '~' then none
  else
    let h := Path.ofString dir
    some { h with root := if dir.toList.all (· == '/') then .slash else h.root }

/-- The path with the home directory in place of a tilde in front; `none` where there is no such
directory. -/
def expandUser? (e : Environment) (p : Path) : Option Path :=
  match p.root, p.parts with
  | .relative, first :: rest =>
    match first.toList with
    | '~' :: user =>
      ((e.home? (String.ofList user)).bind homePath?).map fun home => home.join ⟨.relative, rest⟩
    | _ => some p
  | _, _ => some p

end Environment
end Walkthrough
