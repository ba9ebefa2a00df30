import Walkthrough.Proofs.Reading
import Walkthrough.Settings.Sources

/-!
Where the settings of a run come from: each has the value that the highest source gives it, and
nothing else that the sources say has a part in it.
-/
namespace Walkthrough

/-! Tables. -/

namespace SettingTable

variable {t new : SettingTable} {key : String} {found later : Option Setting}

/-- The table has at most one entry for the key, and this value in it. -/
def Holds (t : SettingTable) (key : String) (found : Option Setting) : Prop :=
  t.filter (·.1 == key) = (found.map fun v => (key, v)).toList

theorem holds_cons_self {v : Setting} (h : Holds ((key, v) :: t) key found) :
    found = some v ∧ t.Holds key none := by
  rw [Holds, List.filter_cons_of_pos (by simp)] at h
  cases found with
  | none => cases h
  | some w =>
    obtain ⟨hw, hrest⟩ := List.cons.inj h
    exact ⟨congrArg some (Prod.mk.inj hw).2.symm, hrest⟩

theorem holds_cons_other {k : String} {v : Setting} (hk : k ≠ key) :
    Holds ((k, v) :: t) key found ↔ t.Holds key found := by
  rw [Holds, List.filter_cons_of_neg (by simpa using hk), Holds]

theorem Holds.get? (h : t.Holds key found) : t.get? key = found := by
  induction t with
  | nil =>
    cases found with
    | none => rfl
    | some v => cases h
  | cons m t ih =>
    obtain ⟨k, v⟩ := m
    unfold SettingTable.get?
    by_cases hk : k = key
    · subst hk
      rw [if_pos rfl, (holds_cons_self h).1]
    · rw [if_neg hk]
      exact ih ((holds_cons_other hk).mp h)

theorem Holds.put (h : t.Holds key found) (k : String) (v : Setting) :
    (t.put k v).Holds key (if k = key then some v else found) := by
  induction t generalizing found with
  | nil =>
    cases found with
    | none => by_cases hk : k = key <;> simp [SettingTable.put, Holds, hk]
    | some w => cases h
  | cons m t ih =>
    obtain ⟨k', v'⟩ := m
    unfold SettingTable.put
    by_cases hk' : k' = k
    · subst hk'
      rw [if_pos rfl]
      by_cases hk : k' = key
      · subst hk
        have hrest : t.filter (·.1 == k') = [] := (holds_cons_self h).2
        simp [Holds, hrest]
      · rw [if_neg hk, holds_cons_other hk]
        exact (holds_cons_other hk).mp h
    · rw [if_neg hk']
      by_cases hk : k' = key
      · subst hk
        obtain ⟨rfl, hrest⟩ := holds_cons_self h
        have hput := ih hrest
        rw [if_neg (Ne.symm hk')] at hput ⊢
        rw [Holds, List.filter_cons_of_pos (by simp), hput]
        rfl
      · rw [holds_cons_other hk]
        exact ih ((holds_cons_other hk).mp h)

/-- What a table says of a key gives way to what is put into it. -/
theorem Holds.merge (h : t.Holds key found) (hnew : new.Holds key later) :
    (t.merge new).Holds key (later.or found) := by
  induction new generalizing t found later with
  | nil =>
    cases later with
    | none => exact h
    | some v => cases hnew
  | cons m new ih =>
    obtain ⟨k, v⟩ := m
    by_cases hk : k = key
    · subst hk
      obtain ⟨rfl, hrest⟩ := holds_cons_self hnew
      have hput := h.put k v
      rw [if_pos rfl] at hput
      have hmerge := ih (t := t.put k v) hput hrest
      exact hmerge
    · have hput := h.put k v
      rw [if_neg hk] at hput
      exact ih (t := t.put k v) hput ((holds_cons_other hk).mp hnew)

theorem holds_none (h : ∀ m ∈ t, m.1 ≠ key) : t.Holds key none := by
  refine List.filter_eq_nil_iff.mpr fun m hm => ?_
  simpa using h m hm

theorem holds_some {v : Setting} (hmem : (key, v) ∈ t)
    (honce : t.Pairwise fun a b => ¬ (a.1 = key ∧ b.1 = key)) : t.Holds key (some v) := by
  induction t with
  | nil => cases hmem
  | cons m t ih =>
    obtain ⟨hm, hrest⟩ := List.pairwise_cons.mp honce
    obtain rfl | hmem := List.mem_cons.mp hmem
    · have hnone : Holds t key none := holds_none fun b hb hkey => hm b hb ⟨rfl, hkey⟩
      rw [Holds, List.filter_cons_of_pos (by simp), hnone]
      rfl
    · have hk : m.1 ≠ key := fun hkey => hm _ hmem ⟨hkey, rfl⟩
      exact (holds_cons_other hk).mpr (ih hmem hrest)

theorem exists_holds (honce : t.Pairwise fun a b => ¬ (a.1 = key ∧ b.1 = key)) :
    ∃ found, Holds t key found := by
  by_cases h : ∃ v, (key, v) ∈ t
  · obtain ⟨v, hv⟩ := h
    exact ⟨some v, holds_some hv honce⟩
  · refine ⟨none, holds_none ?_⟩
    rintro ⟨k, v⟩ hm rfl
    exact h ⟨v, hm⟩

end SettingTable

namespace Settings

/-- The names of the settings. -/
def names : List String := defaults.map (·.1)

/-! Variables. -/

/-- How a variable spells a setting: with its name in letters of either case behind the common
beginning, or as one of the plain variables. -/
inductive Spells : String → String → Prop
  | plain {name key : String} (h : (name, key) ∈ plainVariables) : Spells name key
  | common (rest : String) : Spells (variablePrefix ++ rest) (Text.lower rest)

theorem find?_plainVariables {name key : String} :
    plainVariables.find? (·.1 == name) = some (name, key) ↔ (name, key) ∈ plainVariables := by
  constructor
  · exact List.mem_of_find?_eq_some
  · intro h
    simp only [plainVariables, List.mem_cons, List.not_mem_nil, or_false, Prod.mk.injEq] at h
    obtain ⟨rfl, rfl⟩ | ⟨rfl, rfl⟩ := h <;> rfl

theorem after?_eq_some {beginning cs rest : List Char} :
    Text.after? beginning cs = some rest ↔ cs = beginning ++ rest := by
  unfold Text.after?
  constructor
  · intro h
    split at h
    · rename_i hbegins
      obtain ⟨tail, rfl⟩ := List.isPrefixOf_iff_prefix.mp hbegins
      rw [List.drop_left] at h
      rw [Option.some.inj h]
    · cases h
  · rintro rfl
    rw [if_pos (List.isPrefixOf_iff_prefix.mpr (List.prefix_append _ _)), List.drop_left]

theorem settingOf?_eq_some {name key : String} : settingOf? name = some key ↔ Spells name key := by
  unfold settingOf?
  constructor
  · intro h
    split at h
    · rename_i plain found hfind
      cases h
      obtain rfl : plain = name := by simpa using List.find?_some hfind
      exact .plain (find?_plainVariables.mp hfind)
    · obtain ⟨rest, hrest, rfl⟩ := Option.map_eq_some_iff.mp h
      have hname : name = variablePrefix ++ String.ofList rest := by
        rw [← String.toList_inj, after?_eq_some.mp hrest]
        simp
      rw [hname]
      exact .common _
  · intro h
    cases h with
    | plain h => rw [find?_plainVariables.mpr h]
    | common rest =>
      have hplain : plainVariables.find? (·.1 == variablePrefix ++ rest) = none := by
        refine List.find?_eq_none.mpr fun v hv => ?_
        simp only [plainVariables, List.mem_cons, List.not_mem_nil, or_false] at hv
        -- no plain name begins as the others do
        obtain rfl | rfl := hv <;> simp [variablePrefix, ← String.toList_inj]
      have hafter : Text.after? variablePrefix.toList (variablePrefix ++ rest).toList =
          some rest.toList := after?_eq_some.mpr (by simp)
      rw [hplain, hafter]
      simp

/-- The entries that variables make, under the names of settings. -/
def definitions (vars : List (String × String)) : SettingTable :=
  vars.filterMap fun v => (settingOf? v.1).map fun key => (key, .text v.2)

theorem ofVariables_eq (vars : List (String × String)) :
    ofVariables vars = SettingTable.merge [] (definitions vars) := by
  unfold ofVariables
  generalize ([] : SettingTable) = t
  induction vars generalizing t with
  | nil => rfl
  | cons v vars ih =>
    rw [List.foldl_cons, ih]
    unfold definitions
    cases h : settingOf? v.1 with
    | none => rw [List.filterMap_cons_none (by rw [h]; rfl)]
    | some key =>
      rw [List.filterMap_cons_some (b := (key, Setting.text v.2)) (by rw [h]; rfl)]
      rfl

section Variables

variable {vars : List (String × String)} {key : String}

theorem holds_ofVariables {found : Option Setting} (h : (definitions vars).Holds key found) :
    (ofVariables vars).Holds key found := by
  have hempty : SettingTable.Holds [] key none := rfl
  have hmerge := hempty.merge h
  rwa [Option.or_none, ← ofVariables_eq] at hmerge

theorem holds_ofVariables_none (h : ∀ v ∈ vars, ¬ Spells v.1 key) :
    (ofVariables vars).Holds key none := by
  refine holds_ofVariables (SettingTable.holds_none fun m hm hkey => ?_)
  obtain ⟨v, hv, hsetting⟩ := List.mem_filterMap.mp hm
  obtain ⟨k, hk, rfl⟩ := Option.map_eq_some_iff.mp hsetting
  subst hkey
  exact h v hv (settingOf?_eq_some.mp hk)

theorem holds_ofVariables_some {name text : String} (hmem : (name, text) ∈ vars)
    (hname : Spells name key)
    (honce : vars.Pairwise fun a b => ¬ (Spells a.1 key ∧ Spells b.1 key)) :
    (ofVariables vars).Holds key (some (.text text)) := by
  refine holds_ofVariables (SettingTable.holds_some ?_ ?_)
  · exact List.mem_filterMap.mpr ⟨_, hmem, by rw [settingOf?_eq_some.mpr hname]; rfl⟩
  · refine List.pairwise_filterMap.mpr (honce.imp fun hab m hm m' hm' hkeys => ?_)
    obtain ⟨k, hk, rfl⟩ := Option.map_eq_some_iff.mp hm
    obtain ⟨k', hk', rfl⟩ := Option.map_eq_some_iff.mp hm'
    obtain ⟨rfl, rfl⟩ := hkeys
    exact hab ⟨settingOf?_eq_some.mp hk, settingOf?_eq_some.mp hk'⟩

theorem exists_holds_ofVariables
    (honce : vars.Pairwise fun a b => ¬ (Spells a.1 key ∧ Spells b.1 key)) :
    ∃ found, (ofVariables vars).Holds key found := by
  by_cases h : ∃ v ∈ vars, Spells v.1 key
  · obtain ⟨⟨name, text⟩, hmem, hname⟩ := h
    exact ⟨_, holds_ofVariables_some hmem hname honce⟩
  · exact ⟨none, holds_ofVariables_none fun v hv hname => h ⟨v, hv, hname⟩⟩

end Variables

/-! Sources. -/

/-- What the settings of a run are looked for in, the defaults apart: the variables of the process,
the entries of a file of variables, and the table of the settings file. -/
structure Sources where
  process : List (String × String)
  file : List EnvFile.Binding
  runner : SettingTable

namespace Sources

variable {src : Sources} {key : String} {v : Setting}

/-- No source gives the setting a value twice. An entry without a value gives none. -/
structure Once (src : Sources) (key : String) : Prop where
  process : src.process.Pairwise fun a b => ¬ (Spells a.1 key ∧ Spells b.1 key)
  file : src.file.Pairwise fun a b =>
    ¬ (a.value ≠ none ∧ Spells a.name key ∧ b.value ≠ none ∧ Spells b.name key)
  runner : src.runner.Pairwise fun a b => ¬ (a.1 = key ∧ b.1 = key)

/-- The value that the highest source with any for the setting gives it. -/
inductive Prevails (src : Sources) (key : String) : Setting → Prop
  | process {name text : String} (h : (name, text) ∈ src.process) (hname : Spells name key) :
    Prevails src key (.text text)
  | file {name text : String} (hprocess : ∀ a ∈ src.process, ¬ Spells a.1 key)
    (h : ⟨name, some text⟩ ∈ src.file) (hname : Spells name key) : Prevails src key (.text text)
  | runner {v : Setting} (hprocess : ∀ a ∈ src.process, ¬ Spells a.1 key)
    (hfile : ∀ a ∈ src.file, a.value ≠ none → ¬ Spells a.name key) (h : (key, v) ∈ src.runner) :
    Prevails src key v
  | default {v : Setting} (hprocess : ∀ a ∈ src.process, ¬ Spells a.1 key)
    (hfile : ∀ a ∈ src.file, a.value ≠ none → ¬ Spells a.name key)
    (hrunner : ∀ a ∈ src.runner, a.1 ≠ key) (h : (key, v) ∈ defaults) : Prevails src key v

/-- The variables of the file that have a value. -/
def fileVariables (src : Sources) : List (String × String) :=
  src.file.filterMap fun b => b.value.map fun v => (b.name, v)

/-- Everything that the sources say, in one table. -/
def table (src : Sources) : SettingTable :=
  defaults.merge ((src.runner.merge (ofVariables src.fileVariables)).merge (ofVariables src.process))

theorem mem_fileVariables {name text : String} :
    (name, text) ∈ src.fileVariables ↔ ⟨name, some text⟩ ∈ src.file := by
  unfold fileVariables
  rw [List.mem_filterMap]
  constructor
  · rintro ⟨⟨_, value⟩, hb, hvalue⟩
    obtain ⟨_, rfl, ⟨⟩⟩ := Option.map_eq_some_iff.mp hvalue
    exact hb
  · exact fun h => ⟨_, h, rfl⟩

theorem fileVariables_once (honce : src.Once key) :
    src.fileVariables.Pairwise fun a b => ¬ (Spells a.1 key ∧ Spells b.1 key) := by
  refine List.pairwise_filterMap.mpr (honce.file.imp fun hab m hm m' hm' hboth => hab ?_)
  obtain ⟨value, hvalue, rfl⟩ := Option.map_eq_some_iff.mp hm
  obtain ⟨value', hvalue', rfl⟩ := Option.map_eq_some_iff.mp hm'
  exact ⟨by simp [hvalue], hboth.1, by simp [hvalue'], hboth.2⟩

/-- The file says nothing of a setting just where none of its entries with a value spells it. -/
theorem fileVariables_silent : (∀ a ∈ src.fileVariables, ¬ Spells a.1 key) ↔
    ∀ a ∈ src.file, a.value ≠ none → ¬ Spells a.name key := by
  constructor
  · rintro h ⟨name, value⟩ ha hvalue
    cases value with
    | none => exact (hvalue rfl).elim
    | some text => exact h (name, text) (mem_fileVariables.mpr ha)
  · rintro h ⟨name, text⟩ ha
    exact h _ (mem_fileVariables.mp ha) (by simp)

theorem defaults_once (key : String) :
    defaults.Pairwise fun a b => ¬ (a.1 = key ∧ b.1 = key) := by
  have hnodup : names.Nodup := by decide
  refine (List.pairwise_map.mp hnodup).imp fun hab hkeys => hab ?_
  rw [hkeys.1, hkeys.2]

theorem table_holds {process file runner default : Option Setting}
    (hprocess : (ofVariables src.process).Holds key process)
    (hfile : (ofVariables src.fileVariables).Holds key file)
    (hrunner : src.runner.Holds key runner) (hdefault : defaults.Holds key default) :
    src.table.Holds key ((process.or (file.or runner)).or default) :=
  hdefault.merge ((hrunner.merge hfile).merge hprocess)

/-- The table has the value that prevails. -/
theorem Prevails.holds (h : src.Prevails key v) (honce : src.Once key) :
    src.table.Holds key (some v) := by
  obtain ⟨f, hf⟩ := exists_holds_ofVariables (fileVariables_once honce)
  obtain ⟨r, hr⟩ := SettingTable.exists_holds honce.runner
  obtain ⟨d, hd⟩ := SettingTable.exists_holds (defaults_once key)
  cases h with
  | process hmem hname => exact table_holds (holds_ofVariables_some hmem hname honce.process) hf hr hd
  | file hprocess hmem hname =>
    have hfile := holds_ofVariables_some (mem_fileVariables.mpr hmem) hname (fileVariables_once honce)
    exact table_holds (holds_ofVariables_none hprocess) hfile hr hd
  | runner hprocess hfile hmem =>
    exact table_holds (holds_ofVariables_none hprocess)
      (holds_ofVariables_none (fileVariables_silent.mpr hfile))
      (SettingTable.holds_some hmem honce.runner) hd
  | default hprocess hfile hrunner hmem =>
    exact table_holds (holds_ofVariables_none hprocess)
      (holds_ofVariables_none (fileVariables_silent.mpr hfile))
      (SettingTable.holds_none hrunner) (SettingTable.holds_some hmem (defaults_once key))

/-- A setting that has a default has a value. -/
theorem exists_prevails (src : Sources) (hkey : key ∈ names) :
    ∃ v, src.Prevails key v := by
  by_cases hprocess : ∃ a ∈ src.process, Spells a.1 key
  · obtain ⟨⟨name, text⟩, hmem, hname⟩ := hprocess
    exact ⟨_, .process hmem hname⟩
  have hprocess' : ∀ a ∈ src.process, ¬ Spells a.1 key := fun a ha hname => hprocess ⟨a, ha, hname⟩
  by_cases hfile : ∃ a ∈ src.fileVariables, Spells a.1 key
  · obtain ⟨⟨name, text⟩, hmem, hname⟩ := hfile
    exact ⟨_, .file hprocess' (mem_fileVariables.mp hmem) hname⟩
  have hfile' := fileVariables_silent.mp fun a ha hname => hfile ⟨a, ha, hname⟩
  by_cases hrunner : ∃ v, (key, v) ∈ src.runner
  · obtain ⟨v, hmem⟩ := hrunner
    exact ⟨v, .runner hprocess' hfile' hmem⟩
  · obtain ⟨⟨k, v⟩, hmem, rfl⟩ := List.mem_map.mp hkey
    refine ⟨v, .default hprocess' hfile' ?_ hmem⟩
    rintro ⟨k', v'⟩ hm rfl
    exact hrunner ⟨v', hm⟩

end Sources

/-! Settings. -/

/-- Each setting apart from the environment's name is what its own value is converted to. -/
structure Reads (cwd : Path) (value : String → Setting) (s : Settings) : Prop where
  baseUrl : (value "base_url").toTrimmed = s.baseUrl
  headless : (value "headless").toTruth = s.headless
  browser : (value "browser").display = s.browser
  actionTimeout : (value "action_timeout_ms").toWhole = .ok s.actionTimeout
  navigationTimeout : (value "navigation_timeout_ms").toWhole = .ok s.navigationTimeout
  expectTimeout : (value "expect_timeout_ms").toWhole = .ok s.expectTimeout
  scenarioDir : (value "scenario_dir").toPath = .ok s.scenarioDir
  reportDir : (value "report_dir").toPath = .ok s.reportDir
  logDir : (value "log_dir").toPath = .ok s.logDir
  uploadBaseDir : (if (value "upload_base_dir").toTrimmed = "" then cwd
    else Path.ofString (value "upload_base_dir").toTrimmed) = s.uploadBaseDir
  maxConcurrency : ∃ n, (value "max_concurrency").toWhole = .ok n ∧ max 1 n = s.maxConcurrency
  pluginModules : (value "plugin_modules").toNames = s.pluginModules
  serverPort : (value "server_port").toWhole = .ok s.serverPort
  runTimeout : (value "run_timeout_s").toWhole = .ok s.runTimeout

theorem ofComplete_eq_ok {cwd : Path} {env : String} {t : SettingTable} {s : Settings} :
    ofComplete cwd env t = .ok s ↔
      s.env = env ∧ s.Reads cwd fun key => (t.get? key).getD .null := by
  unfold ofComplete
  simp only [except_bind_eq_ok]
  constructor
  · rintro ⟨_, h₁, _, h₂, _, h₃, _, h₄, _, h₅, _, h₆, _, h₇, _, h₈, _, h₉, ⟨⟩⟩
    exact ⟨rfl, rfl, rfl, rfl, h₁, h₂, h₃, h₄, h₅, h₆, rfl, ⟨_, h₇, rfl⟩, rfl, h₈, h₉⟩
  · obtain ⟨_, _, _, _, _, _, _, _, _, _, _, _, _, _, _⟩ := s
    rintro ⟨rfl, rfl, rfl, rfl, h₁, h₂, h₃, h₄, h₅, h₆, rfl, ⟨_, h₇, rfl⟩, rfl, h₈, h₉⟩
    exact ⟨_, h₁, _, h₂, _, h₃, _, h₄, _, h₅, _, h₆, _, h₇, _, h₈, _, h₉, rfl⟩

/-- Only what a table says of the settings that exist counts. -/
theorem ofComplete_congr {t t' : SettingTable}
    (h : ∀ key ∈ names, t.get? key = t'.get? key) (cwd : Path) (env : String) :
    ofComplete cwd env t = ofComplete cwd env t' := by
  simp (disch := decide) only [ofComplete, h]

theorem get?_values {keys : List String} {key : String} (hkey : key ∈ keys)
    (value : String → Setting) :
    SettingTable.get? (keys.map fun k => (k, value k)) key = some (value key) := by
  induction keys with
  | nil => cases hkey
  | cons k keys ih =>
    rw [List.map_cons, SettingTable.get?]
    split
    · rename_i hk
      rw [hk]
    · rename_i hk
      exact ih ((List.mem_cons.mp hkey).resolve_left (Ne.symm hk))

/-- The entries of a file of variables, as they are read; what is no file has none. -/
inductive Binds (disk : Disk) (environment : Environment) (path : Path) :
    List EnvFile.Binding → Prop
  | file {content : Content} {text : String} (hfile : disk.isFile environment.cwd path = .ok true)
    (hread : disk.read environment.cwd path = .ok content) (htext : content.toText = .ok text) :
    Binds disk environment path (EnvFile.read environment.get? text)
  | nothing (hfile : disk.isFile environment.cwd path = .ok false) : Binds disk environment path []

section Load

variable {disk : Disk} {environment : Environment} {asked : Option String}
  {file variablesDir : Option Path} {table runner : SettingTable} {bindings : List EnvFile.Binding}

theorem Binds.readVariables {path : Path} (h : Binds disk environment path bindings) :
    readVariables disk environment path =
      .ok (bindings.filterMap fun b => b.value.map fun v => (b.name, v)) := by
  unfold Settings.readVariables
  cases h with
  | file hfile hread htext =>
    simp only [hfile, hread, Except.mapError]
    exact except_bind_eq_ok.mpr ⟨_, rfl, except_bind_eq_ok.mpr ⟨_, rfl, except_bind_eq_ok.mpr
      ⟨_, by rw [htext], rfl⟩⟩⟩
  | nothing hfile =>
    rw [hfile]
    rfl

/-- The path of the file of variables for an environment. -/
def variablesPath (env : String) (variablesDir : Option Path) : Path :=
  (variablesDir.getD (Path.ofString "configs")).child (env ++ ".env")

theorem load_eq (htable : readFile disk environment.cwd (file.getD (Path.ofString "config.toml")) =
      .ok table) (hrunner : runnerTable table = .ok runner)
    (hbinds : Binds disk environment (variablesPath (envName environment asked) variablesDir)
      bindings) :
    load disk environment asked file variablesDir = ofComplete environment.cwd
      (envName environment asked) (Sources.table ⟨environment.vars, bindings, runner⟩) := by
  have hvariables := hbinds.readVariables
  unfold variablesPath at hvariables
  unfold load
  simp only [htable, hvariables, hrunner, bind, Except.bind]
  rfl

/-- The settings of a run are what the values that prevail are converted to, setting by setting, and
there are none just where one of these cannot be converted. What lower sources say, what is said of
other settings, and what no setting is called have no part in it. -/
theorem load_prevailing
    (htable : readFile disk environment.cwd (file.getD (Path.ofString "config.toml")) = .ok table)
    (hrunner : runnerTable table = .ok runner)
    (hbinds : Binds disk environment (variablesPath (envName environment asked) variablesDir)
      bindings)
    (honce : ∀ key ∈ names,
      Sources.Once ⟨environment.vars, bindings, runner⟩ key) :
    ∃ value : String → Setting,
      (∀ key ∈ names, ∀ v,
        Sources.Prevails ⟨environment.vars, bindings, runner⟩ key v ↔ v = value key) ∧
      load disk environment asked file variablesDir = ofComplete environment.cwd
        (envName environment asked) (names.map fun key => (key, value key)) ∧
      ∀ s, load disk environment asked file variablesDir = .ok s ↔
        s.env = envName environment asked ∧ s.Reads environment.cwd value := by
  let src : Sources := ⟨environment.vars, bindings, runner⟩
  refine ⟨fun key => (src.table.get? key).getD .null, ?_, ?_, ?_⟩
  · intro key hkey v
    constructor
    · intro h
      have hget : src.table.get? key = some v := (h.holds (honce key hkey)).get?
      simp only [hget, Option.getD_some]
    · rintro rfl
      obtain ⟨v, hv⟩ := src.exists_prevails hkey
      have hget : src.table.get? key = some v := (hv.holds (honce key hkey)).get?
      simp only [hget, Option.getD_some]
      exact hv
  · rw [load_eq htable hrunner hbinds]
    refine ofComplete_congr (fun key hkey => ?_) _ _
    obtain ⟨v, hv⟩ := src.exists_prevails hkey
    rw [get?_values hkey, (hv.holds (honce key hkey)).get?, Option.getD_some]
  · intro s
    rw [load_eq htable hrunner hbinds]
    exact ofComplete_eq_ok

end Load

/-- A settings file with a word that is no number, and a file of variables with an entry that has no
value. -/
def shadowedDisk : Disk :=
  ⟨[(["work"], .directory), (["work", "configs"], .directory),
    (["work", "config.toml"], .file (.text "[runner]\nmax_concurrency = 'many'\n")),
    (["work", "configs", "dev.env"], .file (.text "RUNNER_MAX_CONCURRENCY\n"))]⟩

theorem load_prevailing_of_shadowed_word :
    let environment : Environment := { vars := [("RUNNER_Max_Concurrency", "3")] }
    ∃ s, load shadowedDisk environment none none none = .ok s ∧ s.maxConcurrency = 3 := by
  intro environment
  have hkeys : (readFile shadowedDisk environment.cwd
      ((none : Option Path).getD (Path.ofString "config.toml")) >>= runnerTable).toOption.map
        (·.map Prod.fst) = some ["max_concurrency"] := by decide +kernel
  obtain ⟨runner, hread, hkeys⟩ := Option.map_eq_some_iff.mp hkeys
  obtain ⟨table, htable, hrunner⟩ := except_bind_eq_ok.mp (toOption_eq_some.mp hread)
  obtain ⟨m, rfl⟩ := List.length_eq_one_iff.mp (List.length_map Prod.fst ▸ congrArg List.length hkeys)
  have henv : envName environment none = "dev" := by decide +kernel
  have hbinds : Binds shadowedDisk environment (variablesPath (envName environment none) none)
      [⟨"RUNNER_MAX_CONCURRENCY", none⟩] := by
    have hread : EnvFile.read environment.get? "RUNNER_MAX_CONCURRENCY\n" =
        [⟨"RUNNER_MAX_CONCURRENCY", none⟩] := by decide +kernel
    rw [← hread, henv]
    have hcontent : shadowedDisk.read environment.cwd (variablesPath "dev" none) =
        .ok (.text "RUNNER_MAX_CONCURRENCY\n") := by decide +kernel
    exact .file (by decide +kernel) hcontent rfl
  have honce : ∀ key ∈ names,
      Sources.Once ⟨environment.vars, [⟨"RUNNER_MAX_CONCURRENCY", none⟩], [m]⟩ key :=
    fun _ _ => ⟨List.pairwise_singleton _ _, List.pairwise_singleton _ _, List.pairwise_singleton _ _⟩
  obtain ⟨value, hvalue, -, hload⟩ := load_prevailing htable hrunner hbinds honce
  have hsome : (load shadowedDisk environment none none none).toOption.isSome = true := by
    decide +kernel
  obtain ⟨s, hs⟩ := Option.isSome_iff_exists.mp hsome
  rw [toOption_eq_some] at hs
  have hprevails : Sources.Prevails ⟨environment.vars, [⟨"RUNNER_MAX_CONCURRENCY", none⟩], [m]⟩
      "max_concurrency" (.text "3") :=
    .process List.mem_cons_self (settingOf?_eq_some.mp (by decide +kernel))
  have hthree : (Setting.text "3").toWhole = .ok 3 := toOption_eq_some.mp (by decide +kernel)
  obtain ⟨n, hn, hmax⟩ := ((hload s).mp hs).2.maxConcurrency
  rw [← (hvalue _ (by decide) _).mp hprevails, hthree] at hn
  cases hn
  exact ⟨s, hs, hmax.symm⟩

end Settings
end Walkthrough
