import Walkthrough.Path
import Walkthrough.Text.Blank
import Walkthrough.Text.Utf8

/-! Files and directories. -/
namespace Walkthrough

/-- What a file holds: a text, or bytes that need not be one. -/
inductive Content where
  | text (s : String)
  | bytes (bs : List Nat)
  deriving DecidableEq, Repr, Inhabited

def Content.toBytes : Content → List Nat
  | text s => Text.Utf8.encode s
  | bytes bs => bs

/-- The text of a file, if its bytes are one. -/
def Content.toText : Content → Except Text.Utf8.Fault String
  | text s => .ok s
  | bytes bs => Text.Utf8.decode bs

inductive Entry where
  | file (c : Content)
  | directory
  deriving DecidableEq, Repr, Inhabited

/-- Entries by the names on the way from the root, later ones at the end. -/
structure Disk where
  entries : List (List String × Entry) := []
  deriving DecidableEq, Repr, Inhabited

namespace Disk

/-- The reasons for which the system refuses a request. -/
inductive Refusal where
  | notFound
  | alreadyThere
  | notDirectory
  | isDirectory
  | nameTooLong
  | nullInName
  deriving DecidableEq, Repr

/-- The number that the system gives a reason; a null character is found before it is asked. -/
def Refusal.number : Refusal → Nat
  | notFound => 2
  | alreadyThere => 17
  | notDirectory => 20
  | isDirectory => 21
  | nameTooLong => 36
  | nullInName => 0

def Refusal.text : Refusal → String
  | notFound => "No such file or directory"
  | alreadyThere => "File exists"
  | notDirectory => "Not a directory"
  | isDirectory => "Is a directory"
  | nameTooLong => "File name too long"
  | nullInName => "embedded null byte"

/-- A refused request, with the path as it was asked for. -/
structure Error where
  refusal : Refusal
  path : Path
  deriving DecidableEq, Repr

def Error.message (e : Error) : String :=
  match e.refusal with
  | .nullInName => e.refusal.text
  | r => s!"[Errno {r.number}] " ++ r.text ++ ": " ++ Text.quoted e.path.toString

/-- The longest name of a file, in bytes. -/
def maxNameLength : Nat := 255

/-- The entry under the names from the root; the root itself is a directory. -/
def entry? (d : Disk) (key : List String) : Option Entry :=
  if key.isEmpty then some .directory else (d.entries.find? (·.1 == key)).map (·.2)

/-- Follows names from a directory; every one but the last must be a directory. -/
def follow (d : Disk) : List String → List String → Except Refusal (List String)
  | key, [] => .ok key
  | key, n :: rest =>
    match d.entry? key with
    | none => .error .notFound
    | some (.file _) => .error .notDirectory
    | some .directory =>
      if maxNameLength < (Text.Utf8.encode n).length then .error .nameTooLong
      else follow d (if n = ".." then key.dropLast else key ++ [n]) rest

/-- The names from the root that a path stands for. -/
def locate (d : Disk) (cwd p : Path) : Except Error (List String) :=
  if p.hasNull then .error ⟨.nullInName, p⟩
  else
    match d.follow [] (cwd.join p).parts with
    | .ok key => .ok key
    | .error r => .error ⟨r, p⟩

/-- What stands at a path, if anything. A name that is too long is refused. -/
def status (d : Disk) (cwd p : Path) : Except Error (Option Entry) :=
  match d.locate cwd p with
  | .ok key => .ok (d.entry? key)
  | .error ⟨.nameTooLong, p⟩ => .error ⟨.nameTooLong, p⟩
  | .error _ => .ok none

def present (d : Disk) (cwd p : Path) : Except Error Bool :=
  (d.status cwd p).map Option.isSome

def isDirectory (d : Disk) (cwd p : Path) : Except Error Bool :=
  (d.status cwd p).map (· == some .directory)

def isFile (d : Disk) (cwd p : Path) : Except Error Bool :=
  (d.status cwd p).map fun
    | some (.file _) => true
    | _ => false

/-- The content of a file. -/
def read (d : Disk) (cwd p : Path) : Except Error Content := do
  match d.entry? (← d.locate cwd p) with
  | some (.file c) => return c
  | some .directory => throw ⟨.isDirectory, p⟩
  | none => throw ⟨.notFound, p⟩

/-- The names in a directory, in the order of their code points. -/
def names (d : Disk) (cwd p : Path) : List String :=
  match d.locate cwd p with
  | .error _ => []
  | .ok key =>
    (d.entries.filterMap fun e =>
      if e.1.length = key.length + 1 && key.isPrefixOf e.1 then e.1.getLast? else none).mergeSort

def put (d : Disk) (key : List String) (e : Entry) : Disk :=
  if d.entries.any (·.1 == key) then
    { d with entries := d.entries.map fun x => if x.1 == key then (key, e) else x }
  else { d with entries := d.entries ++ [(key, e)] }

/-- Makes one directory inside an existing one. -/
def makeDirectory (d : Disk) (cwd p : Path) : Except Error Disk := do
  let key ← d.locate cwd p
  if (d.entry? key).isSome then throw ⟨.alreadyThere, p⟩
  else if d.entry? key.dropLast = some .directory then return d.put key .directory
  else throw ⟨.notFound, p⟩

/-- Makes a directory that may be there already. -/
def ensureDirectory (d : Disk) (cwd p : Path) : Except Error Disk :=
  match d.makeDirectory cwd p with
  | .ok d => .ok d
  | .error e => if d.isDirectory cwd p matches .ok true then .ok d else .error e

/-- Makes a directory and those on the way to it, given as names in reverse order. -/
def ensureReversed (d : Disk) (cwd : Path) (root : PathRoot) : List String → Except Error Disk
  | [] => d.ensureDirectory cwd ⟨root, []⟩
  | n :: before =>
    let p : Path := ⟨root, (n :: before).reverse⟩
    match d.makeDirectory cwd p with
    | .ok d => .ok d
    | .error e =>
      if e.refusal = .notFound then
        match d.ensureReversed cwd root before with
        | .ok d => d.ensureDirectory cwd p
        | .error e => .error e
      else if d.isDirectory cwd p matches .ok true then .ok d
      else .error e

/-- Makes a directory and all those on the way to it. -/
def ensurePath (d : Disk) (cwd p : Path) : Except Error Disk :=
  d.ensureReversed cwd p.root p.parts.reverse

/-- Gives a file a new content; `change` sees the old one. -/
def change (d : Disk) (cwd p : Path) (f : Option Content → Content) : Except Error Disk := do
  let key ← d.locate cwd p
  match d.entry? key with
  | some .directory => throw ⟨.isDirectory, p⟩
  | some (.file c) => return d.put key (.file (f (some c)))
  | none =>
    if d.entry? key.dropLast = some .directory then return d.put key (.file (f none))
    else throw ⟨.notFound, p⟩

def write (d : Disk) (cwd p : Path) (text : String) : Except Error Disk :=
  d.change cwd p fun _ => .text text

/-- Content with a text behind it. -/
def appended (text : String) : Option Content → Content
  | none => .text text
  | some (.text s) => .text (s ++ text)
  | some (.bytes bs) => .bytes (bs ++ Text.Utf8.encode text)

def append (d : Disk) (cwd p : Path) (text : String) : Except Error Disk :=
  d.change cwd p (appended text)

/-- Removes an entry and everything below it. -/
def remove (d : Disk) (cwd p : Path) : Disk :=
  match d.locate cwd p with
  | .error _ => d
  | .ok key => { d with entries := d.entries.filter fun e => !key.isPrefixOf e.1 }

/-- The files in order, with the names from the root. -/
def files (d : Disk) : List (List String × Content) :=
  d.entries.filterMap fun e =>
    match e.2 with
    | .file c => some (e.1, c)
    | .directory => none

/-- Puts an entry at the names from the root, and directories on the way to it. -/
def place (d : Disk) (key : List String) (e : Entry) : Disk :=
  ((List.range key.length).foldl (fun d n =>
    let dir := key.take n
    if (d.entry? dir).isSome then d else d.put dir .directory) d).put key e

end Disk
end Walkthrough
