import Walkthrough.Environment
import Walkthrough.Settings.Conversion

/-! The settings of a run. -/
namespace Walkthrough

structure Settings where
  env : String := "dev"
  baseUrl : String := ""
  headless : Bool := true
  browser : String := "chromium"
  actionTimeout : Int := 10000
  navigationTimeout : Int := 30000
  expectTimeout : Int := 5000
  scenarioDir : Path := Path.ofString "data/ui-scenarios"
  reportDir : Path := Path.ofString "reports/json"
  logDir : Path := Path.ofString "logs"
  uploadBaseDir : Path
  maxConcurrency : Int := 1
  pluginModules : List String := []
  serverPort : Int := 4000
  runTimeout : Int := 900
  deriving DecidableEq, Repr, Inhabited

namespace Settings

/-- The settings that exist, with the values they have where nothing else is said. -/
def defaults : SettingTable :=
  [("base_url", .text ""), ("headless", .truth true), ("browser", .text "chromium"),
    ("action_timeout_ms", .whole 10000), ("navigation_timeout_ms", .whole 30000),
    ("expect_timeout_ms", .whole 5000), ("scenario_dir", .text "data/ui-scenarios"),
    ("report_dir", .text "reports/json"), ("log_dir", .text "logs"),
    ("upload_base_dir", .text ""), ("max_concurrency", .whole 1), ("plugin_modules", .text ""),
    ("server_port", .whole 4000), ("run_timeout_s", .whole 900)]

/-- The settings of a table that lacks none. Keys that no setting has do not count. -/
def ofComplete (cwd : Path) (env : String) (t : SettingTable) : Except Failure Settings := do
  let get := fun key => (t.get? key).getD .null
  let uploadBase := (get "upload_base_dir").toTrimmed
  return {
    env := env
    baseUrl := (get "base_url").toTrimmed
    headless := (get "headless").toTruth
    browser := (get "browser").display
    actionTimeout := ← (get "action_timeout_ms").toWhole
    navigationTimeout := ← (get "navigation_timeout_ms").toWhole
    expectTimeout := ← (get "expect_timeout_ms").toWhole
    scenarioDir := ← (get "scenario_dir").toPath
    reportDir := ← (get "report_dir").toPath
    logDir := ← (get "log_dir").toPath
    uploadBaseDir := if uploadBase = "" then cwd else Path.ofString uploadBase
    maxConcurrency := max 1 (← (get "max_concurrency").toWhole)
    pluginModules := (get "plugin_modules").toNames
    serverPort := ← (get "server_port").toWhole
    runTimeout := ← (get "run_timeout_s").toWhole }

/-- The settings as a document. -/
def toJson (s : Settings) : Json :=
  .obj [("env", .str s.env), ("base_url", .str s.baseUrl), ("headless", .bool s.headless),
    ("browser", .str s.browser), ("action_timeout_ms", .int s.actionTimeout),
    ("navigation_timeout_ms", .int s.navigationTimeout),
    ("expect_timeout_ms", .int s.expectTimeout), ("scenario_dir", .str s.scenarioDir.toString),
    ("report_dir", .str s.reportDir.toString), ("log_dir", .str s.logDir.toString),
    ("upload_base_dir", .str s.uploadBaseDir.toString),
    ("max_concurrency", .int s.maxConcurrency), ("plugin_modules", .strings s.pluginModules),
    ("server_port", .int s.serverPort), ("run_timeout_s", .int s.runTimeout)]

/-- The settings of a table, with the defaults for what it does not hold. -/
def ofTable (cwd : Path) (env : String) (t : SettingTable) : Except Failure Settings :=
  ofComplete cwd env (defaults.merge t)

end Settings
end Walkthrough
