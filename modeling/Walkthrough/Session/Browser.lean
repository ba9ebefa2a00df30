import Walkthrough.Session.Scenario

/-! Running scenarios in a browser, each in a context and on a page of its own. -/
namespace Walkthrough

/-- A browser that has not been launched: the pages that it will open one after the other, and the
calls that it refuses. -/
structure Session where
  pages : List Page := []
  refusals : List (String × String) := []
  clock : Int := 1000
  desk : Desk := {}
  deriving Inhabited

/-- Acts of a session. -/
abbrev Tour (α : Type) : Type := Act Session α

namespace Session

/-- The browsers that there are. -/
def browsers : List String := ["chromium", "firefox", "webkit"]

/-- A call on the browser: a mark, then a refusal if there is one. -/
def call (c : BrowserCall) : Tour Unit := do
  Act.mark (.browser c)
  match namedValue? (← Act.get).refusals c.name with
  | some message => Act.fail (.page message)
  | none => return ()

/-- Opens the next page; behind the last one all are empty. -/
def openPage : Tour Page := do
  call .newPage
  let s ← Act.get
  Act.modify fun s => { s with pages := s.pages.drop 1 }
  return s.pages.head?.getD {}

/-- What is done on a page, in the session that the page belongs to. -/
def onPage {α : Type} (page : Page) (x : Run α) : Tour α :=
  Act.zoom (fun s : Session => ({ scene := ⟨page, s.clock⟩, desk := s.desk } : Walk))
    (fun s w => { s with clock := w.scene.clock, desk := w.desk }) x

/-- Runs a scenario on a new page. -/
def runOnNewPage (setup : Scenario.Setup) (s : Scenario) : Tour ScenarioResult := do
  let page ← openPage
  call (.setTimeout setup.engine.settings.actionTimeout)
  call (.setNavigationTimeout setup.engine.settings.navigationTimeout)
  onPage page (s.run setup)

/-- Runs a scenario in a context of its own, which is closed whatever happens. -/
def runInContext (setup : Scenario.Setup) (s : Scenario) : Tour ScenarioResult := do
  let base := setup.engine.settings.baseUrl
  call (.newContext (if base = "" then none else some base))
  Act.thenAlways (runOnNewPage setup s) (call .closeContext)

/-- Runs all scenarios, whatever becomes of each. -/
def attemptAll (setup : Scenario.Setup) : List Scenario → Tour (List (Except Failure ScenarioResult))
  | [] => Act.pure []
  | s :: rest => do
    let r ← Act.attempt (runInContext setup s)
    let others ← attemptAll setup rest
    return r :: others

/-- The results if there is one for each scenario, else the first failure. -/
def allResults (rs : List (Except Failure ScenarioResult)) : Except Failure (List ScenarioResult) :=
  rs.mapM id

/-- Runs all scenarios in a browser that is closed afterwards. -/
def runInBrowser (setup : Scenario.Setup) (scenarios : List Scenario) :
    Tour (List ScenarioResult) := do
  let settings := setup.engine.settings
  if browsers.contains settings.browser then
    call (.launch settings.headless)
    let runAll : Tour (List ScenarioResult) := do
      let rs ← attemptAll setup scenarios
      Act.ofExcept (allResults rs)
    Act.thenAlways runAll (call .closeBrowser)
  else Act.fail (.noOperation "Playwright" settings.browser)

/-- Opens the event log of a run, if reports are wanted. -/
def openJournal (settings : Settings) (runId : String) (wanted : Bool) : Tour (Option Nat) := do
  if wanted then
    let path := (settings.logDir.child "events").child (runId ++ ".jsonl")
    let s ← Act.get
    let (desk, slot) ← Act.ofExcept (s.desk.openJournal runId path)
    Act.modify fun s => { s with desk }
    return some slot
  else return none

def closeJournal (slot : Option Nat) : Tour Unit :=
  match slot with
  | some n => Act.modify fun s => { s with desk := s.desk.closeJournal n }
  | none => Act.pure ()

/-- Runs scenarios and sums up. -/
def run (engine : Engine) (runId : String) (writeReports : Bool) (scenarios : List Scenario) :
    Tour RunSummary := do
  let started := (← Act.get).clock
  let journal ← openJournal engine.settings runId writeReports
  let setup : Scenario.Setup := { engine, runId, writeReports, journal }
  let results ← Act.thenAlways (runInBrowser setup scenarios) (closeJournal journal)
  return {
    runId
    env := engine.settings.env
    results
    duration := (← Act.get).clock - started }

end Session
end Walkthrough
