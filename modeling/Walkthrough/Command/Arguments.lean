import Walkthrough.Path
import Walkthrough.Text.Alphanumeric

/-!
The arguments of the command line. An option may be shortened as long as no other one begins in the
same way, and its value may stand behind an equals sign.
-/
namespace Walkthrough

inductive CommandOption where
  | help
  | env
  | grep
  | headless
  | headed
  | scenariosDir
  | scenariosFile
  | config
  | json
  | verbose
  deriving DecidableEq, Repr

namespace CommandOption

/-- The long spelling. -/
def name : CommandOption → String
  | help => "--help"
  | env => "--env"
  | grep => "--grep"
  | headless => "--headless"
  | headed => "--headed"
  | scenariosDir => "--scenarios-dir"
  | scenariosFile => "--scenarios-file"
  | config => "--config"
  | json => "--json"
  | verbose => "--verbose"

/-- What an option is for. -/
def purpose : CommandOption → String
  | help => "show this text"
  | env => "NAME: the environment, whose variables stand in configs/NAME.env"
  | grep => "PATTERN: run only scenarios whose title or description matches"
  | headless => "run the browser without a window"
  | headed => "run the browser with a window"
  | scenariosDir => "DIR: the directory of scenario documents"
  | scenariosFile => "FILE: run the scenarios of one document"
  | config => "FILE: the settings file"
  | json => "print the summary as one document"
  | verbose => "log more"

/-- All options in the order in which they are explained. -/
def all : List CommandOption :=
  [help, env, grep, headless, headed, scenariosDir, scenariosFile, config, json, verbose]

/-- The options as they are written. -/
def spellings : List (String × CommandOption) :=
  [("-h", help), ("--help", help), ("--env", env), ("--grep", grep), ("--headless", headless),
    ("--headed", headed), ("--scenarios-dir", scenariosDir), ("--scenarios-file", scenariosFile),
    ("--config", config), ("--json", json), ("-v", verbose), ("--verbose", verbose)]

def ofSpelling? (s : String) : Option CommandOption :=
  (spellings.find? (·.1 == s)).map (·.2)

def takesValue : CommandOption → Bool
  | env | grep | scenariosDir | scenariosFile | config => true
  | _ => false

/-- The options whose spelling begins in a given way. -/
def beginningWith (cs : List Char) : List CommandOption :=
  (spellings.filter fun s => cs.isPrefixOf s.1.toList).map (·.2)

end CommandOption

/-- What is wrong with the arguments of a command. -/
inductive ArgumentFault where
  | ambiguous (text : String)
  | missingValue (o : CommandOption)
  | superfluousValue (o : CommandOption)
  | headlessAndHeaded
  | unknown (texts : List String)
  deriving DecidableEq, Repr

def ArgumentFault.message : ArgumentFault → String
  | ambiguous text => "ambiguous option: " ++ text
  | missingValue o => o.name ++ " expects a value"
  | superfluousValue o => o.name ++ " takes no value"
  | headlessAndHeaded => "--headless and --headed exclude each other"
  | unknown texts => "unrecognized arguments: " ++ " ".intercalate texts

/-- How one argument reads by itself. -/
inductive Argument where
  | separator
  | plain (text : String)
  /-- An option with the value that belongs to the same argument. -/
  | option (o : CommandOption) (value : Option String)
  /-- An option of one letter with more letters behind it. -/
  | letters (first : CommandOption) (others : List Char)
  | unknown (text : String)
  deriving DecidableEq, Repr

namespace Argument

/-- The text before the first equals sign, and what follows it. -/
def cutAtEquals (cs : List Char) : List Char × Option (List Char) :=
  let head := cs.takeWhile (· != '=')
  match cs.dropWhile (· != '=') with
  | [] => (head, none)
  | _ :: value => (head, some value)

def isDigit (c : Char) : Bool := (Text.digitValue? c).isSome

/-- Whether a text reads as a number below zero. -/
def isNegativeNumber (cs : List Char) : Bool :=
  match cs with
  | '-' :: rest =>
    let rest := if rest.getLast? = some '\n' then rest.dropLast else rest
    match rest.dropWhile isDigit with
    | [] => !rest.isEmpty
    | '.' :: fraction => !fraction.isEmpty && fraction.all isDigit
    | _ => false
  | _ => false

/-- An argument that begins like an option, but is none. -/
def ofStranger (s : String) (cs : List Char) : Argument :=
  if isNegativeNumber cs || cs.contains ' ' then plain s else unknown s

/-- An argument that begins with two hyphens and is no whole spelling. -/
def ofLong (s : String) (cs : List Char) : Except ArgumentFault Argument :=
  let (head, value) := cutAtEquals cs
  match CommandOption.beginningWith head with
  | [] => .ok (ofStranger s cs)
  | [o] => .ok (option o (value.map String.ofList))
  | _ => .error (.ambiguous s)

/-- An argument that begins with one hyphen and is no whole spelling. -/
def ofShort (s : String) (cs : List Char) : Argument :=
  match CommandOption.ofSpelling? (String.ofList (cs.take 2)) with
  | some o => letters o (cs.drop 2)
  | none => ofStranger s cs

/-- Reads an argument by itself. -/
def read (s : String) : Except ArgumentFault Argument :=
  let cs := s.toList
  if cs = ['-', '-'] then .ok separator
  else
    match cs with
    | '-' :: second :: _ =>
      match CommandOption.ofSpelling? s with
      | some o => .ok (option o none)
      | none =>
        let (head, value) := cutAtEquals cs
        match value.bind fun _ => CommandOption.ofSpelling? (String.ofList head) with
        | some o => .ok (option o (value.map String.ofList))
        | none => if second = '-' then ofLong s cs else .ok (ofShort s cs)
    | _ => .ok (plain s)

/-- Reads arguments up to a separator, behind which all are plain. -/
def readAll : List String → Except ArgumentFault (List Argument)
  | [] => .ok []
  | s :: rest => do
    match ← read s with
    | separator => return separator :: rest.map plain
    | a => return a :: (← readAll rest)

end Argument

/-- What a command is asked to do. -/
structure Arguments where
  env : Option String := none
  grep : Option String := none
  headless : Option Bool := none
  scenariosDir : Option Path := none
  scenariosFile : Option String := none
  config : Option Path := none
  json : Bool := false
  verbose : Bool := false
  deriving DecidableEq, Repr, Inhabited

namespace Arguments

/-- Why no arguments came out: help is asked for, or they are faulty. -/
inductive Stop where
  | help
  | fault (f : ArgumentFault)
  deriving DecidableEq, Repr

/-- Sets what an option without a value sets. -/
def setFlag (a : Arguments) : CommandOption → Except Stop Arguments
  | .help => .error .help
  | .headless =>
    if a.headless = some false then .error (.fault .headlessAndHeaded)
    else .ok { a with headless := some true }
  | .headed =>
    if a.headless = some true then .error (.fault .headlessAndHeaded)
    else .ok { a with headless := some false }
  | .json => .ok { a with json := true }
  | .verbose => .ok { a with verbose := true }
  | _ => .ok a

/-- Gives an option its value. -/
def setValue (a : Arguments) (value : String) : CommandOption → Arguments
  | .env => { a with env := some value }
  | .grep => { a with grep := some value }
  | .scenariosDir => { a with scenariosDir := some (Path.ofString value) }
  | .scenariosFile => { a with scenariosFile := some value }
  | .config => { a with config := some (Path.ofString value) }
  | _ => a

/-- The options of an argument with several letters, up to the first letter that is none, and what
stands from there on. A hyphen in front or an equals sign behind a letter is a fault. -/
def splitLetters (first : CommandOption) :
    List Char → Except Stop (List CommandOption × Option String)
  | [] => .ok ([first], none)
  | c :: rest =>
    if c = '-' then .error (.fault (.superfluousValue first))
    else
      match CommandOption.ofSpelling? (String.ofList ['-', c]) with
      | none => .ok ([first], some (String.ofList ('-' :: c :: rest)))
      | some o => do
        if rest.head? = some '=' then throw (.fault (.superfluousValue o))
        let (os, stranger) ← splitLetters o rest
        return (first :: os, stranger)

/-- Takes one argument after the other. `strangers` are those that nothing takes. -/
def take (a : Arguments) (strangers : List String) : List Argument → Except Stop Arguments
  | [] => if strangers.isEmpty then .ok a else .error (.fault (.unknown strangers))
  | .option o none :: rest =>
    if o.takesValue then
      match rest with
      | .plain value :: rest => take (a.setValue value o) strangers rest
      | _ => .error (.fault (.missingValue o))
    else do
      take (← a.setFlag o) strangers rest
  | .option o (some value) :: rest =>
    if o.takesValue then take (a.setValue value o) strangers rest
    else .error (.fault (.superfluousValue o))
  | .letters o others :: rest => do
    let (os, stranger) ← splitLetters o others
    take (← os.foldlM setFlag a) (strangers ++ stranger.toList) rest
  | .separator :: rest => take a (strangers ++ ["--"]) rest
  | .plain text :: rest | .unknown text :: rest => take a (strangers ++ [text]) rest

/-- Reads the arguments of a command. -/
def read (texts : List String) : Except Stop Arguments :=
  match Argument.readAll texts with
  | .ok arguments => take {} [] arguments
  | .error f => .error (.fault f)

end Arguments
end Walkthrough
