import Walkthrough.Command.Basic
import Walkthrough.Proofs.Archive
import Walkthrough.Proofs.Choice
import Walkthrough.Proofs.Summary

/-!
What a command does that was understood: it gets its settings, its directories and its log ready,
chooses scenarios, runs just these and tells what became of them.
-/
namespace Walkthrough

/-! Files. -/

namespace Disk

variable {d d' : Disk} {cwd p : Path} {key : List String}

/-- To append nothing makes an empty file at most. -/
theorem grows_append_nothing (h : d.append cwd p "" = .ok d') : d.Grows d' := by
  obtain ⟨key, -, htakes, rfl⟩ := change_ok h
  intro other e he
  by_cases hother : other = key
  · subst hother
    cases e with
    | directory => exact (htakes.free he).elim
    | file c =>
      have hcontent : d.content? other = some c := by rw [content?, he]
      rw [hcontent, appended_empty, entry_put_self d htakes.ne_nil]
  · rw [entry_put_of_ne d hother]
    exact he

theorem Proper.append (hd : d.Proper) {text : String} (h : d.append cwd p text = .ok d') :
    d'.Proper := by
  obtain ⟨key, -, -, rfl⟩ := change_ok h
  exact proper_put hd key _

end Disk

namespace Session

/-- The session with other files. -/
def withDisk (S : Session) (disk : Disk) : Session := { S with desk := { S.desk with disk } }

variable {S : Session} {setup : Scenario.Setup} {scenarios : List Scenario}
  {results : List ScenarioResult}

/-- Each result of a run is that of its scenario. -/
theorem attemptAll_ran (h : (attemptAll setup scenarios S).result = .ok (results.map .ok)) :
    List.Forall₂ (fun s result => ∃ w, (s.run setup w).result = .ok result) scenarios results := by
  induction scenarios generalizing S results with
  | nil =>
    rw [List.map_eq_nil_iff.mp (Except.ok.inj h).symm]
    exact .nil
  | cons s rest ih =>
    obtain ⟨result, more, rfl, hresult, -, hmore, -⟩ := attemptAll_first h
    exact .cons ⟨_, hresult⟩ (ih hmore)

end Session

theorem Scenario.run_describes {setup : Setup} {s : Scenario} {w : Walk} {result : ScenarioResult}
    (h : (s.run setup w).result = .ok result) :
    result.title = s.title ∧ result.description = s.description ∧ result.source = s.source := by
  obtain ⟨report, steps, -, -, -, -, -, -, rfl, -⟩ := run_settled h
  exact ⟨rfl, rfl, rfl⟩

namespace Command

variable {at_ : Surroundings} {a : Arguments} {S T : Session} {settings : Settings}

/-! Getting ready. -/

/-- Work on the files that has come to its end leaves other files, and the rest goes on from them. -/
theorem onDisk_bind_ok {α β : Type} {f : Desk → Except Failure (Disk × α)} {g : α → Tour β} {b : β}
    (h : (Act.bind (onDisk f) g S).result = .ok b) :
    ∃ disk made, f S.desk = .ok (disk, made) ∧
      Act.bind (onDisk f) g S = g made (S.withDisk disk) := by
  obtain ⟨made, hmade, -⟩ := Act.ok_of_bind h
  unfold onDisk at hmade
  simp only [Act.bind_eq, Act.bind, Act.get] at hmade
  cases hf : f S.desk with
  | error e =>
    rw [hf] at hmade
    cases hmade
  | ok found =>
    rw [hf] at hmade
    cases hmade
    have hleft : onDisk f S = ⟨.ok found.2, S.withDisk found.1, [], []⟩ := by
      unfold onDisk
      simp only [Act.bind_eq, Act.bind, Act.get, hf]
      rfl
    exact ⟨_, _, rfl, Act.bind_of_silent hleft⟩

/-- What a command has made ready when it looks for scenarios: its settings, the directories that it
writes to and the log of the day. All else is as it was. -/
structure Prepared (at_ : Surroundings) (a : Arguments) (S T : Session) (settings : Settings) :
    Prop where
  loaded : ∃ loaded, Settings.load S.desk.disk at_.environment a.env a.config none = .ok loaded ∧
    settings = a.override loaded
  made : ∃ disk path, settings.ensureDirectories S.desk.disk S.desk.cwd = .ok disk ∧
    RunLog.prepare settings.logDir disk S.desk.cwd at_.today = .ok (T.desk.disk, path)
  kept : S.desk.disk.Grows T.desk.disk
  rest : T = S.withDisk T.desk.disk

theorem prepare_ok (h : (prepare at_ a S).result = .ok settings) :
    (∃ loaded, Settings.load S.desk.disk at_.environment a.env a.config none = .ok loaded ∧
      settings = a.override loaded) ∧
    ∃ disk, settings.ensureDirectories S.desk.disk S.desk.cwd = .ok disk ∧
      prepare at_ a S = ⟨.ok settings, S.withDisk disk, [], []⟩ := by
  unfold prepare at h ⊢
  simp only [Act.bind_eq] at h ⊢
  obtain ⟨_, _, hload, heq⟩ := onDisk_bind_ok h
  rw [heq] at h ⊢
  obtain ⟨_, _, hensure, heq'⟩ := onDisk_bind_ok h
  rw [heq'] at h ⊢
  cases h
  obtain ⟨_, hs, ⟨⟩⟩ := except_map_eq_ok.mp hload
  obtain ⟨_, hdirs, ⟨⟩⟩ := except_map_eq_ok.mp hensure
  exact ⟨⟨_, hs, rfl⟩, _, mapError_eq_ok.mp hdirs, rfl⟩

theorem ensureDirectories_kept {d d' : Disk} {cwd : Path}
    (h : settings.ensureDirectories d cwd = .ok d') :
    d.Grows d' ∧ (d.Proper → d'.Proper) := by
  obtain ⟨disk, hreports, hlogs⟩ := except_bind_eq_ok.mp h
  refine ⟨fun key e he => ?_, fun hd => (hd.ensurePath hreports).ensurePath hlogs⟩
  exact Disk.grows_ensurePath hlogs key e (Disk.grows_ensurePath hreports key e he)

theorem log_kept {d d' : Disk} {dir cwd path : Path} {today : Date}
    (h : RunLog.prepare dir d cwd today = .ok (d', path)) :
    d.Grows d' ∧ (d.Proper → d'.Proper) := by
  obtain ⟨disk, hdir, h⟩ := except_bind_eq_ok.mp h
  obtain ⟨disk', hlog, h⟩ := except_bind_eq_ok.mp h
  cases h
  refine ⟨fun key e he => ?_, fun hd => (hd.ensurePath hdir).append hlog⟩
  exact Disk.grows_append_nothing hlog key e (Disk.grows_ensurePath hdir key e he)

theorem quiet_chooseScenarios (at_ : Surroundings) (a : Arguments) (settings : Settings) :
    (chooseScenarios at_ a settings).Quiet := fun T =>
  Scenario.quiet_select T.desk.disk at_.environment settings.scenarioDir a.grep a.scenariosFile T

theorem perform_ok {reply : Reply} (h : (perform at_ a S).result = .ok reply) :
    ∃ settings T, Prepared at_ a S T settings ∧ (S.desk.disk.Proper → T.desk.disk.Proper) ∧ ∃ logs,
      perform at_ a S = (match (chooseScenarios at_ a settings T).result with
        | .ok scenarios => runChosen at_ a settings scenarios T
        | .error e => reportLoadFailure a.json e T).after ⟨.ok (), T, [], logs⟩ := by
  unfold perform at h ⊢
  simp only [Act.bind_eq] at h ⊢
  obtain ⟨settings, hsettings, -⟩ := Act.ok_of_bind h
  obtain ⟨hloaded, disk, hmade, heq⟩ := prepare_ok hsettings
  rw [Act.bind_of_silent heq] at h ⊢
  unfold openLog at h ⊢
  obtain ⟨disk', path, hprepare, heq'⟩ := onDisk_bind_ok h
  rw [heq'] at h ⊢
  have hprepare' := mapError_eq_ok.mp hprepare
  obtain ⟨hgrows, hproper⟩ := ensureDirectories_kept hmade
  obtain ⟨hgrows', hproper'⟩ := log_kept hprepare'
  let T := (S.withDisk disk).withDisk disk'
  obtain ⟨logs, hchoice⟩ := (quiet_chooseScenarios at_ a settings).eq T
  refine ⟨settings, T, ⟨hloaded, ⟨disk, path, hmade, hprepare'⟩,
    fun key e he => hgrows' key e (hgrows key e he), rfl⟩, fun hd => hproper' (hproper hd), logs, ?_⟩
  have hattempt : Act.attempt (chooseScenarios at_ a settings) T =
      ⟨.ok (chooseScenarios at_ a settings T).result, T, [], logs⟩ := by
    unfold Act.attempt
    rw [hchoice]
  rw [Act.bind_of_ok (by rw [hattempt]), hattempt]
  cases (chooseScenarios at_ a settings T).result <;> rfl

/-! Running. -/

/-- What is done is one run of the scenarios, and each of its results is that of a scenario, in order. -/
structure Runs (at_ : Surroundings) (settings : Settings) (T : Session) (scenarios : List Scenario)
    (results : List ScenarioResult) (o : Outcome Session Reply) : Prop where
  session : ∃ plugins summary,
    let x := Session.run ⟨settings, plugins, at_.environment⟩ at_.runId true scenarios T
    x.result = .ok summary ∧ summary.results = results ∧ o.trace = x.trace ∧ o.state = x.state
  results : List.Forall₂ (fun s result => result.title = s.title ∧
    result.description = s.description ∧ result.source = s.source ∧
    ∃ setup w, setup.engine.settings = settings ∧ (s.run setup w).result = .ok result)
    scenarios results

theorem runs_of_session {scenarios : List Scenario} {plugins : Plugins} {summary : RunSummary}
    {o : Outcome Session Reply}
    (h : (Session.run ⟨settings, plugins, at_.environment⟩ at_.runId true scenarios T).result =
      .ok summary)
    (htrace : o.trace =
      (Session.run ⟨settings, plugins, at_.environment⟩ at_.runId true scenarios T).trace)
    (hstate : o.state =
      (Session.run ⟨settings, plugins, at_.environment⟩ at_.runId true scenarios T).state) :
    Runs at_ settings T scenarios summary.results o where
  session := ⟨plugins, summary, h, rfl, htrace, hstate⟩
  results := by
    obtain ⟨desk, slot, -, hall, -⟩ := Session.run_ok h
    refine (Session.attemptAll_ran hall).imp ?_
    rintro s result ⟨w, hrun⟩
    obtain ⟨htitle, hdescription, hsource⟩ := Scenario.run_describes hrun
    exact ⟨htitle, hdescription, hsource, _, w, rfl, hrun⟩

theorem Runs.after {scenarios : List Scenario} {results : List ScenarioResult}
    {o : Outcome Session Reply} (h : Runs at_ settings T scenarios results o) (T' : Session)
    (logs : List LogLine) : Runs at_ settings T scenarios results (o.after ⟨.ok (), T', [], logs⟩) where
  session := h.session
  results := h.results

/-- How a command ends that has run scenarios. -/
def statusOf (s : RunSummary) : ExitStatus := if s.success then .passed else .failed

theorem runChosen_ok {scenarios : List Scenario} {reply : Reply}
    (h : (runChosen at_ a settings scenarios T).result = .ok reply) :
    ∃ summary : RunSummary,
      reply = .done (statusOf summary) (summaryTexts a.json summary) ∧
      Runs at_ settings T scenarios summary.results (runChosen at_ a settings scenarios T) := by
  have hnoted : ∃ logs, runChosen at_ a settings scenarios T =
      (Act.bind (runScenarios at_ settings scenarios) (fun summary => Act.pure
        (.done (if summary.success then .passed else .failed) (summaryTexts a.json summary)))
          T).after ⟨.ok (), T, [], logs⟩ := by
    unfold runChosen
    dsimp only
    split <;> exact ⟨_, rfl⟩
  obtain ⟨logs, hrun⟩ := hnoted
  rw [hrun] at h ⊢
  obtain ⟨summary, hsummary, hreply⟩ := Act.ok_of_bind (Outcome.after_result _ _ ▸ h)
  cases hreply
  obtain ⟨plugins, hplugins, -⟩ := Act.ok_of_bind hsummary
  have hbuilt : Act.ofExcept (Plugins.build at_.registrations at_.modules settings.pluginModules) T =
      ⟨.ok plugins, T, [], []⟩ := by
    rw [Act.ofExcept_eq] at hplugins ⊢
    exact congrArg (Outcome.mk · T [] []) hplugins
  have hsession : runScenarios at_ settings scenarios T =
      Session.run ⟨settings, plugins, at_.environment⟩ at_.runId true scenarios T :=
    Act.bind_of_silent hbuilt
  rw [Act.bind_of_ok hsummary, hsession]
  refine ⟨summary, rfl, runs_of_session (hsession ▸ hsummary) ?_ ?_⟩
  · simp only [Outcome.after, Act.pure, List.nil_append, List.append_nil]
  · simp only [Outcome.after_state, Act.pure]

/-! Printing. -/

/-- What is printed of a scenario: a marker with its title and how long it took, and its error below. -/
def entry (marker : String) (r : ScenarioResult) : List String :=
  (s!"[{marker}] " ++ r.title ++ s!" ({r.duration} ms)") ::
    ((r.error.filter (· ≠ "")).map ("       " ++ ·)).toList

/-- An entry for each result in order, and how many of them say that it passed or that it failed. -/
inductive Entries : List ScenarioResult → List String → Nat → Nat → Prop
  | nil : Entries [] [] 0 0
  | pass {r : ScenarioResult} {rest : List ScenarioResult} {texts : List String} {passed failed : Nat}
    (h : r.status = .passed) (hrest : Entries rest texts passed failed) :
    Entries (r :: rest) (entry "PASS" r ++ texts) (passed + 1) failed
  | fail {r : ScenarioResult} {rest : List ScenarioResult} {texts : List String} {passed failed : Nat}
    (h : r.status ≠ .passed) (hrest : Entries rest texts passed failed) :
    Entries (r :: rest) (entry "FAIL" r ++ texts) passed (failed + 1)

theorem isOk_iff {r : ScenarioResult} : r.isOk = true ↔ r.status = .passed := by
  simp [ScenarioResult.isOk]

theorem entries_results (results : List ScenarioResult) :
    Entries results (results.flatMap resultTexts) (results.countP ScenarioResult.isOk)
      (results.countP fun r => !r.isOk) := by
  induction results with
  | nil => exact .nil
  | cons r rest ih =>
    cases hok : r.isOk with
    | true =>
      have hentry : resultTexts r = entry "PASS" r := by simp [resultTexts, entry, hok]
      rw [List.flatMap_cons, hentry, List.countP_cons_of_pos hok,
        List.countP_cons_of_neg (by simp [hok])]
      exact .pass (isOk_iff.mp hok) ih
    | false =>
      have hentry : resultTexts r = entry "FAIL" r := by simp [resultTexts, entry, hok]
      rw [List.flatMap_cons, hentry, List.countP_cons_of_neg (by simp [hok]),
        List.countP_cons_of_pos (by simp [hok])]
      exact .fail (fun h => absurd (isOk_iff.mpr h) (by simp [hok])) ih

theorem failed_eq (s : RunSummary) : s.failed = s.results.countP fun r => !r.isOk := by
  have hall := List.length_eq_countP_add_countP (p := ScenarioResult.isOk) (l := s.results)
  simp only [RunSummary.failed, RunSummary.passed, Bool.not_eq_true, Bool.decide_eq_false] at hall ⊢
  omega

theorem success_iff (s : RunSummary) :
    s.success = true ↔ ∀ r ∈ s.results, r.status = .passed := by
  rw [RunSummary.success, failed_eq, beq_iff_eq, List.countP_eq_zero]
  simp [isOk_iff]

/-- A text on one line that holds an object. -/
structure Line (text : String) (ms : Members) : Prop where
  written : ∃ ascii, text = (Json.obj ms).render ascii
  /-- No control character stands in it, and so no end of a line. -/
  visible : ∀ c ∈ text.toList, 32 ≤ c.toNat
  read : (Json.obj ms).tooLong? = none → Json.read text = .ok (.obj ms)

/-- Whether the document of a result says that it passed. -/
def tellsPassed : Json → Bool
  | .obj ms => (Members.get? ms "status" matches some (.str "passed"))
  | _ => false

/-- The counts in a document are those of the results that it lists. -/
structure Counts (ms : Members) (items : List Json) : Prop where
  scenarios : ms.get? "scenarios" = some (.arr items)
  total : ms.get? "total" = some (.int items.length)
  passed : ms.get? "passed" = some (.int (items.countP tellsPassed))
  failed : ms.get? "failed" = some (.int (items.countP fun v => !tellsPassed v))

theorem tellsPassed_toJson (r : ScenarioResult) : tellsPassed r.toJson = r.isOk := by
  cases hstatus : r.status <;>
    simp [tellsPassed, ScenarioResult.toJson, Members.get?, ScenarioResult.isOk, hstatus, Status.name]

theorem counts_toJson (s : RunSummary) : ∃ ms : Members, s.toJson = .obj ms ∧
    ms.get? "success" = some (.bool s.success) ∧
      Counts ms (s.results.map ScenarioResult.toJson) := by
  have hpassed : (s.results.map ScenarioResult.toJson).countP tellsPassed = s.passed := by
    rw [List.countP_map, RunSummary.passed]
    exact List.countP_congr fun r _ => by simp [tellsPassed_toJson]
  have hfailed : (s.results.map ScenarioResult.toJson).countP (fun v => !tellsPassed v) = s.failed := by
    rw [List.countP_map, failed_eq]
    exact List.countP_congr fun r _ => by simp [tellsPassed_toJson]
  refine ⟨_, rfl, by simp [Members.get?], ?_, ?_, ?_, ?_⟩
  · simp [Members.get?]
  · simp [Members.get?]
  · simp [Members.get?, hpassed]
  · simp [Members.get?, hfailed]

theorem line_summary (s : RunSummary) {ms : Members} (h : s.toJson = .obj ms) :
    Line (s.toJson.render false) ms where
  written := ⟨false, by rw [h]⟩
  visible := by
    rw [Json.render, String.toList_ofList]
    exact (Json.writes_chars s.toJson).visible
  read htooLong := by
    rw [Json.read_render false s.faithful_toJson, h, htooLong]

/-- What is told where no scenarios could be loaded. -/
def loadFailure (message : String) : Members :=
  [("success", .bool false), ("error", .str message), ("scenarios", .arr [])]

theorem line_loadFailure (message : String) :
    Line ((Json.obj (loadFailure message)).render true) (loadFailure message) where
  written := ⟨true, rfl⟩
  visible := by
    have hchars : (Json.obj (loadFailure message)).chars true =
        "\x7b\"success\": false, \"error\": ".toList ++ Json.stringChars true message ++
          ", \"scenarios\": []\x7d".toList := by rfl
    rw [Json.render, String.toList_ofList, hchars, List.forall_mem_append, List.forall_mem_append]
    exact ⟨⟨Json.forall_mem_of_all (by decide), Json.visible_stringChars message⟩,
      Json.forall_mem_of_all (by decide)⟩
  read htooLong := by
    have hfaithful : (Json.obj (loadFailure message)).Faithful :=
      ⟨by simp [loadFailure, Members.keys], trivial, trivial, trivial, trivial⟩
    rw [Json.read_render true hfaithful, htooLong]

theorem summaryTexts_line (s : RunSummary) : ∃ line ms,
    (summaryTexts true s).getLast? = some line ∧ Line line ms ∧
      ms.get? "success" = some (.bool s.success) ∧
        Counts ms (s.results.map ScenarioResult.toJson) := by
  obtain ⟨ms, hms, hsuccess, hcounts⟩ := counts_toJson s
  exact ⟨_, ms, by rw [summaryTexts_json]; rfl, line_summary s hms, hsuccess, hcounts⟩

theorem summaryTexts_entries (s : RunSummary) : ∃ entries passed failed,
    Entries s.results entries passed failed ∧
      summaryTexts false s = entries ++ [s!"{passed} passed, {failed} failed"] := by
  refine ⟨_, _, _, entries_results s.results, ?_⟩
  rw [summaryTexts, if_neg (by decide), failed_eq]
  rfl

theorem loadFailureTexts_line (message : String) : ∃ line ms,
    (loadFailureTexts true message).getLast? = some line ∧ Line line ms ∧
      ms.get? "success" = some (.bool false) :=
  ⟨_, loadFailure message, rfl, line_loadFailure message, rfl⟩

theorem statusOf_cases (s : RunSummary) :
    s.success = true ∧ statusOf s = .passed ∧ (∀ r ∈ s.results, r.status = .passed) ∨
      s.success = false ∧ statusOf s = .failed ∧ ∃ r ∈ s.results, r.status ≠ .passed := by
  unfold statusOf
  cases hsuccess : s.success with
  | true => exact .inl ⟨rfl, rfl, (success_iff s).mp hsuccess⟩
  | false =>
    refine .inr ⟨rfl, rfl, ?_⟩
    by_contra hnone
    push Not at hnone
    rw [(success_iff s).mpr hnone] at hsuccess
    cases hsuccess

/-! Commands. -/

variable {texts : List String} {status : ExitStatus} {printed : List String}

/-- A command that was understood looks for scenarios. It ends with the code 2 just where these cannot
be loaded, and then nothing else is done. Otherwise it runs the scenarios of its source that are enabled
and match the pattern, each of them once and in order, and ends with 0 if all of them passed and with 1
if not. What it prints says the same: one document on a line, or an entry for each result and the
numbers of entries. A directory has one entry for each name at most. -/
theorem run_done (hproper : S.desk.disk.Proper)
    (h : (Command.run at_ texts S).result = .ok (.done status printed)) :
    ∃ a settings T results, Arguments.read texts = .ok a ∧ Prepared at_ a S T settings ∧
      (status.code = 2 ↔ ∃ e, (chooseScenarios at_ a settings T).result = .error (.load e)) ∧
      (status.code = 2 →
        (Command.run at_ texts S).trace = [] ∧ (Command.run at_ texts S).state = T) ∧
      (status.code ≠ 2 → ∃ all pattern,
        Scenario.Offers T.desk.disk at_.environment settings.scenarioDir a.scenariosFile all ∧
        Scenario.Asks a.grep pattern ∧
        Runs at_ settings T (all.filter (Scenario.isWanted pattern)) results
          (Command.run at_ texts S) ∧
        (status.code = 0 ∧ (∀ r ∈ results, r.status = .passed) ∨
          status.code = 1 ∧ ∃ r ∈ results, r.status ≠ .passed) ∧
        (a.json = false → ∃ entries passed failed, Entries results entries passed failed ∧
          printed = entries ++ [s!"{passed} passed, {failed} failed"])) ∧
      (a.json = true → ∃ line ms, printed.getLast? = some line ∧ Line line ms ∧
        ms.get? "success" = some (.bool (status.code == 0)) ∧
        (status.code ≠ 2 → Counts ms (results.map ScenarioResult.toJson))) := by
  unfold Command.run at h ⊢
  cases hread : Arguments.read texts with
  | error e =>
    rw [hread] at h
    cases e <;> cases h
  | ok a =>
    rw [hread] at h
    dsimp only at h ⊢
    obtain ⟨settings, T, hprepared, hkept, logs, hperform⟩ := perform_ok h
    rw [hperform] at h ⊢
    cases hchoice : (chooseScenarios at_ a settings T).result with
    | error e =>
      rw [hchoice] at h
      cases e with
      | load e =>
        cases h
        refine ⟨a, settings, T, [], rfl, hprepared, ⟨fun _ => ⟨e, hchoice⟩, fun _ => rfl⟩,
          fun _ => ⟨rfl, rfl⟩, fun hne => (hne rfl).elim, fun hjson => ?_⟩
        obtain ⟨line, ms, hlast, hline, hsuccess⟩ := loadFailureTexts_line e.message
        rw [← hjson] at hlast
        exact ⟨line, ms, hlast, hline, hsuccess, fun hne => (hne rfl).elim⟩
      | _ => cases h
    | ok chosen =>
      obtain ⟨all, pattern, hoffers, hasks, rfl⟩ := Scenario.select_ok (hkept hproper) hchoice
      rw [hchoice] at h
      obtain ⟨summary, hreply, hruns⟩ := runChosen_ok (Outcome.after_result _ _ ▸ h)
      cases hreply
      have hstatus := statusOf_cases summary
      have hne : (statusOf summary).code ≠ 2 := by
        obtain ⟨-, h, -⟩ | ⟨-, h, -⟩ := hstatus <;> rw [h] <;> decide
      refine ⟨a, settings, T, summary.results, rfl, hprepared, ⟨fun htwo => (hne htwo).elim, ?_⟩,
        fun htwo => (hne htwo).elim, fun _ => ⟨all, pattern, hoffers, hasks, hruns.after T logs, ?_, ?_⟩,
        ?_⟩
      · rintro ⟨e, he⟩
        cases hchoice.symm.trans he
      · obtain ⟨-, h, hpassed⟩ | ⟨-, h, hfailed⟩ := hstatus
        · exact .inl ⟨congrArg ExitStatus.code h, hpassed⟩
        · exact .inr ⟨congrArg ExitStatus.code h, hfailed⟩
      · intro hjson
        rw [hjson]
        exact summaryTexts_entries summary
      · intro hjson
        obtain ⟨line, ms, hlast, hline, hsuccess, hcounts⟩ := summaryTexts_line summary
        have hcode : ((statusOf summary).code == 0) = summary.success := by
          obtain ⟨hs, h, -⟩ | ⟨hs, h, -⟩ := hstatus <;> rw [hs, h] <;> rfl
        refine ⟨line, ms, ?_, hline, ?_, fun _ => hcounts⟩
        · rw [hjson]
          exact hlast
        · rw [← hcode] at hsuccess
          exact hsuccess

/-- Two scenarios in a variable, one of them not enabled, and nothing else. -/
def bareSurroundings : Surroundings where
  environment :=
    { vars := [("SCENARIOS_JSON",
        "[\x7b\"description\": \"off\", \"enabled\": false\x7d, \x7b\"description\": \"on\"\x7d]")] }
  registrations := []
  modules _ := default
  runId := "run"
  today := ⟨2024, 1, 2⟩

theorem run_done_of_disabled :
    let o := Command.run bareSurroundings [] {}
    o.result = .ok (.done .passed ["[PASS] Run scenario: on (0 ms)", "1 passed, 0 failed"]) ∧
      ∃ settings T scenarios results, Runs bareSurroundings settings T scenarios results o ∧
        ∀ r ∈ results, r.status = .passed := by
  intro o
  have hdone : o.result =
      .ok (.done .passed ["[PASS] Run scenario: on (0 ms)", "1 passed, 0 failed"]) :=
    toOption_eq_some.mp (by decide +kernel)
  have hproper : ({} : Session).desk.disk.Proper := List.nodup_nil
  obtain ⟨a, settings, T, results, -, -, -, -, hran, -⟩ := run_done hproper hdone
  obtain ⟨all, pattern, -, -, hruns, hstatus, -⟩ := hran (by decide)
  obtain ⟨-, hpassed⟩ := hstatus.resolve_right fun h => absurd h.1 (by decide)
  exact ⟨hdone, settings, T, _, results, hruns, hpassed⟩

end Command
end Walkthrough
