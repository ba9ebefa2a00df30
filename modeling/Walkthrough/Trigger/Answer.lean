import Walkthrough.Json.Printer
import Walkthrough.Settings.Basic
import Walkthrough.Scenario.Selection
import Walkthrough.Trigger.Child
import Walkthrough.Trigger.Results

/-! Requests that start runs, and the answers to them. -/
namespace Walkthrough.Trigger

/-- A request: its body may be a document of any form, or none that can be read. -/
structure Request where
  method : String
  path : String
  contentType : String := ""
  body : String := ""
  deriving DecidableEq, Repr, Inhabited

/-- An answer; the pages that say why there is none are left without a body. -/
structure Answer where
  status : Nat
  body : Option Json := none
  deriving Inhabited

/-- An answer, the process that was started for it, and what was noted. -/
structure Response where
  answer : Answer
  child : Option Child := none
  logs : List LogLine := []
  deriving Inhabited

/-- What requests are answered with: the settings, the variables of this process, the program that
runs are started with, and what becomes of a process. -/
structure Server where
  settings : Settings
  environment : Environment
  program : String
  start : Child → Ending

def logName : String := "stepengine.trigger_server"

/-- The media type of a content type, without its parameters. -/
def mediaType (contentType : String) : String :=
  Text.lower (Text.trim (String.ofList (contentType.toList.takeWhile (· != ';'))))

/-- Whether a media type is that of documents, or of a form of them. -/
def isDocumentType (type : String) : Bool :=
  type == "application/json" ||
    ("application/".toList.isPrefixOf type.toList && "+json".toList.isSuffixOf type.toList)

/-- The document in a body. What is none, and what counts for nothing, is an empty object. -/
def document (r : Request) : Json :=
  if isDocumentType (mediaType r.contentType) then
    let text := match r.body.toList with
      | '\uFEFF' :: rest => String.ofList rest
      | cs => String.ofList cs
    match Json.read text with
    | .ok v => if v.truthy then v else .obj []
    | .error _ => .obj []
  else .obj []

/-- Why a body starts no run. -/
inductive Rejection where
  | notObject
  | notScenarios
  | notLoaded (e : Scenario.LoadError)

def Rejection.message : Rejection → String
  | notObject => "request body must be a JSON object"
  | notScenarios => "'scenarios' must be an object or a list of objects"
  | notLoaded e => "invalid scenarios: " ++ e.message

/-- A rejected request, or a failure that nobody foresaw. -/
inductive Refusal where
  | rejected (r : Rejection)
  | failed (e : Failure)

/-- The scenarios in a body as text, once they have been read as a test. -/
def inlineScenarios (body : Members) : Except Refusal (Option String) :=
  let read (v : Json) : Except Refusal (Option String) :=
    let text := v.render true
    match Scenario.ofText "request" "request" text with
    | .ok _ => .ok (some text)
    | .error (.load e) => .error (.rejected (.notLoaded e))
    | .error e => .error (.failed (.ofUnloaded e))
  match (body.get? "scenarios").getD .null with
  | .null => .ok none
  | .arr items => read (.arr items)
  | .obj ms => read (.obj ms)
  | _ => .error (.rejected .notScenarios)

/-- The name of the environment that a body asks for. -/
def envOf (settings : Settings) (body : Members) : String :=
  let v := (body.get? "env").getD .null
  if v.truthy then v.display else settings.env

/-- The variables of a run: those of this process, with what the body asks for in their place. -/
def childVars (environment : Environment) (env : String) (headless : Option Bool)
    (scenarios : Option String) : List (String × String) :=
  let vars := Environment.set environment.vars "ENV" env
  let vars := match headless with
    | some b => Environment.set vars "HEADLESS" (if b then "true" else "false")
    | none => vars
  let vars := Environment.erase vars Scenario.inlineVariable
  match scenarios with
  | some text => Environment.set vars Scenario.inlineVariable text
  | none => vars

/-- The process that a body asks for. -/
def Server.childOf (s : Server) (body : Members) : Except Refusal Child := do
  let env := envOf s.settings body
  let headless := headlessOf ((body.get? "headless").getD .null)
  let scenarios ← inlineScenarios body
  let grep := (body.get? "grep").getD .null
  let arguments ← (texts (arguments s.program env grep headless)).mapError .failed
  return {
    arguments
    vars := childVars s.environment env headless scenarios
    timeout := s.settings.runTimeout }

/-- The answer about a process that ended by itself. -/
def finishedAnswer (code : Int) (out err : Output) : Except Failure Answer := do
  let out ← out.read
  let err ← err.read
  let found ← results out
  return ⟨200, some (.obj [("code", .int code), ("stdout", .str out), ("stderr", .str err),
    ("results", (found.map Json.obj).getD .null)])⟩

/-- The answer about a process that took too long. -/
def timedOutAnswer (timeout : Int) (out err : Output) : Except Failure Answer := do
  let out ← out.read
  let err ← err.read
  return ⟨504, some (.obj [("code", .null), ("stdout", .str out), ("stderr", .str err),
    ("results", .null), ("error", .str s!"run timed out after {timeout}s")])⟩

/-- The answer about a process, and what is noted before it is put together. -/
def answerTo (c : Child) : Ending → Except Failure Answer × List LogLine
  | .finished code out err => (finishedAnswer code out err, [])
  | .timedOut out err =>
    (timedOutAnswer c.timeout out err,
      [⟨.error, logName, s!"Run timed out after {c.timeout}s"⟩])
  | .refused message => (.error (.system message), [])

/-- The answer to a failure that nobody foresaw, under a number by which its line in the log can be
found. -/
def failureAnswer (id : String) (e : Failure) : Answer × LogLine :=
  (⟨500, some (.obj [("error", .str ("Internal failure - " ++ e.message)),
      ("correlation_id", .str id)])⟩,
    ⟨.error, logName, s!"[{id}] Uncaught exception: " ++ e.message⟩)

/-- Starts a process and answers about it. -/
def Server.launch (s : Server) (id : String) (c : Child) : Response :=
  match answerTo c (s.start c) with
  | (.ok answer, logs) => ⟨answer, some c, logs⟩
  | (.error e, logs) =>
    let (answer, line) := failureAnswer id e
    ⟨answer, some c, logs ++ [line]⟩

def rejection (r : Rejection) : Response :=
  ⟨⟨400, some (.obj [("error", .str r.message)])⟩, none, []⟩

/-- Answers a request for a run. -/
def Server.answerRun (s : Server) (id : String) (r : Request) : Response :=
  match document r with
  | .obj body =>
    match s.childOf body with
    | .ok c => s.launch id c
    | .error (.rejected r) => rejection r
    | .error (.failed e) =>
      let (answer, line) := failureAnswer id e
      ⟨answer, none, [line]⟩
  | _ => rejection .notObject

/-- Whether a path is that of a fixed file. There are no such files. -/
def isFilePath (path : String) : Bool :=
  match Text.after? "/static/".toList path.toList with
  | some (c :: _) => c != '/'
  | _ => false

/-- The methods that a path is asked with. -/
def methodsOf (path : String) : List String :=
  if path = "/health" || isFilePath path then ["GET", "HEAD", "OPTIONS"]
  else if path = "/run-test" then ["POST", "OPTIONS"]
  else []

/-- The path of an address without its query. -/
def plainPath (path : String) : String :=
  String.ofList (path.toList.takeWhile fun c => c != '?' && c != '#')

/-- Answers a request. A failure that nobody foresaw is known by `id`. -/
def Server.respond (s : Server) (id : String) (r : Request) : Response :=
  let path := plainPath r.path
  let methods := methodsOf path
  let method := r.method.toUpper
  if methods.isEmpty then ⟨⟨404, none⟩, none, []⟩
  else if !methods.contains method then ⟨⟨405, none⟩, none, []⟩
  else if method = "POST" then s.answerRun id r
  else if method = "OPTIONS" then ⟨⟨200, none⟩, none, []⟩
  else if isFilePath path then ⟨⟨404, none⟩, none, []⟩
  else if method = "GET" then ⟨⟨200, some (.obj [("status", .str "ok")])⟩, none, []⟩
  else ⟨⟨200, none⟩, none, []⟩

end Walkthrough.Trigger
