import Walkthrough.Settings.Basic
import Walkthrough.Settings.EnvFile
import Walkthrough.Settings.Toml

/-!
The sources of settings: the defaults, a settings file, a file of variables for the environment's
name, and the variables of the process, each of which gives way to the next.
-/
namespace Walkthrough.Settings

/-- The beginning of the variables that are settings. -/
def variablePrefix : String := "RUNNER_"

/-- Variables that are settings under a name without that beginning. -/
def plainVariables : List (String × String) := [("BASE_URL", "base_url"), ("HEADLESS", "headless")]

/-- The setting that a variable gives a value to. -/
def settingOf? (name : String) : Option String :=
  match plainVariables.find? (·.1 == name) with
  | some (_, key) => some key
  | none =>
    (Text.after? variablePrefix.toList name.toList).map fun rest =>
      Text.lower (String.ofList rest)

/-- The settings among some variables. Of two for one setting, the later one counts. -/
def ofVariables (vars : List (String × String)) : SettingTable :=
  vars.foldl (fun t v =>
    match settingOf? v.1 with
    | some key => t.put key (.text v.2)
    | none => t) []

/-- The table of a settings file; a file that is not there holds none. -/
def readFile (disk : Disk) (cwd path : Path) : Except Failure SettingTable := do
  if ← (disk.present cwd path).mapError .disk then
    let content ← (disk.read cwd path).mapError .disk
    let text ← content.toText.mapError .notText
    (Toml.read text).mapError fun e =>
      match e with
      | .fault _ _ => .settings (e.message text)
      | .hugeInteger _ => .value (e.message text)
  else return []

/-- The variables of a file; what is no file holds none. -/
def readVariables (disk : Disk) (environment : Environment) (path : Path) :
    Except Failure (List (String × String)) := do
  if ← (disk.isFile environment.cwd path).mapError .disk then
    let content ← (disk.read environment.cwd path).mapError .disk
    let text ← content.toText.mapError .notText
    return (EnvFile.read environment.get? text).filterMap fun b => b.value.map fun v => (b.name, v)
  else return []

/-- The name of the environment: the one asked for, the one in the variables, or that of
development. -/
def envName (environment : Environment) (asked : Option String) : String :=
  match asked.filter (· ≠ "") with
  | some name => name
  | none => ((environment.get? "ENV").filter (· ≠ "")).getD "dev"

/-- The table under the heading for runs. -/
def runnerTable (file : SettingTable) : Except Failure SettingTable :=
  match file.get? "runner" with
  | none => .ok []
  | some (.table t) => .ok t
  | some v => .error (.misuse (.asTable v.kindName))

/-- The settings from all sources. -/
def load (disk : Disk) (environment : Environment) (asked : Option String)
    (file variablesDir : Option Path) : Except Failure Settings := do
  let env := envName environment asked
  let table ← readFile disk environment.cwd (file.getD (Path.ofString "config.toml"))
  let path := (variablesDir.getD (Path.ofString "configs")).child (env ++ ".env")
  let vars ← readVariables disk environment path
  let runner ← runnerTable table
  ofTable environment.cwd env
    ((runner.merge (ofVariables vars)).merge (ofVariables environment.vars))

/-- Makes the directories that a run writes to. -/
def ensureDirectories (disk : Disk) (cwd : Path) (s : Settings) : Except Disk.Error Disk := do
  (← disk.ensurePath cwd s.reportDir).ensurePath cwd s.logDir

end Walkthrough.Settings
