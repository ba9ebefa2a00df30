import Walkthrough.Act.Basic
import Walkthrough.Engine.Check
import Walkthrough.Environment
import Walkthrough.Pattern.Search

/-! Choosing the scenarios of a run. -/
namespace Walkthrough.Scenario

/-- The variable that holds scenarios themselves. -/
def inlineVariable : String := "SCENARIOS_JSON"

/-- The variable that names a file of scenarios. -/
def fileVariable : String := "SCENARIOS_FILE"

def logName : String := "steprunner.dsl.loader"

/-- Whether a scenario is enabled and its description or title matches. -/
def isWanted (pattern : Option Pattern) (s : Scenario) : Bool :=
  s.enabled &&
    match pattern with
    | none => true
    | some p => p.search s.description || p.search s.title

/-- The enabled scenarios that match a pattern; an empty one leaves all of them. -/
def filter (scenarios : List Scenario) (grep : Option String) : Except Failure (List Scenario) :=
  match grep.filter (· ≠ "") with
  | none => .ok (scenarios.filter (isWanted none))
  | some text => (Check.readPattern text).map fun p => scenarios.filter (isWanted (some p))

/-- The scenarios of a file: one document, or a list of them. -/
def ofFile (disk : Disk) (cwd path : Path) : Except Failure (List Scenario) :=
  match disk.read cwd path with
  | .error e =>
    if e.refusal = .notFound then .error (.load (.notFound path.toString)) else .error (.disk e)
  | .ok content =>
    match content.toText with
    | .error e => .error (.notText e)
    | .ok text =>
      let text := String.ofList (Text.unifyLineEnds text.toList)
      (ofText path.toString path.name text).mapError Failure.ofUnloaded

def documentEnding : String := ".json"

def isDocument (name : String) : Bool :=
  documentEnding.toList.reverse.isPrefixOf name.toList.reverse

/-- The scenarios of all documents in a directory, in the order of their names. -/
def ofDirectory {σ : Type} (disk : Disk) (cwd dir : Path) : Act σ (List Scenario) := do
  if ← Act.ofExcept ((disk.isDirectory cwd dir).mapError .disk) then
    let names := (disk.names cwd dir).filter isDocument
    let parts ← Act.ofExcept (names.mapM fun n =>
      ofFile disk cwd { dir with parts := dir.parts ++ [n] })
    return parts.flatten
  else
    Act.log .error logName ("Scenario directory not found: " ++ dir.toString)
    return []

/-- The scenarios of a run before any is left out: those in a variable, else those of one file,
else those of a directory. -/
def ofSources {σ : Type} (disk : Disk) (env : Environment) (dir : Path) (file : Option String) :
    Act σ (List Scenario) :=
  let isGiven : String → Bool := (· ≠ "")
  match (env.get? inlineVariable).filter isGiven with
  | some text => Act.ofExcept ((ofText inlineVariable inlineVariable text).mapError Failure.ofUnloaded)
  | none =>
    match (file.filter isGiven).or ((env.get? fileVariable).filter isGiven) with
    | some path => Act.ofExcept (ofFile disk env.cwd (Path.ofString path))
    | none => ofDirectory disk env.cwd dir

/-- The scenarios of a run. -/
def select {σ : Type} (disk : Disk) (env : Environment) (dir : Path) (grep file : Option String) :
    Act σ (List Scenario) := do
  let all ← ofSources disk env dir file
  Act.ofExcept (filter all grep)

end Walkthrough.Scenario
