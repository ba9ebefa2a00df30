import Walkthrough.Proofs.Ledger
import Walkthrough.Proofs.Reports

/-!
What a whole run leaves in its files: the event log with the lines of all its scenarios, and a report
for each of them.
-/
namespace Walkthrough

/-- A result whose scenario began at some time tells where its report is. If no later result has a
report of the same path, the file holds what the result tells, unless it cannot be a file: because a
directory stands there or the name is too long. -/
structure ScenarioResult.Filed (dir : Path) (d : Desk) (started : Int) (later : List ScenarioResult)
    (result : ScenarioResult) : Prop where
  report : result.report = some (Desk.reportPath dir result.title started)
  shows : (∀ r ∈ later, r.report ≠ result.report) →
    (d.Shows (Desk.reportPath dir result.title started) (result.account started) ↔
      d.disk.isDirectory d.cwd (Desk.reportPath dir result.title started) = .ok false)

theorem ScenarioResult.Filed.closeJournal {dir : Path} {d : Desk} {started : Int}
    {later : List ScenarioResult} {result : ScenarioResult} (h : result.Filed dir d started later)
    (slot : Nat) : result.Filed dir (d.closeJournal slot) started later :=
  ⟨h.report, h.shows⟩

/-- An event log that is named like one stands elsewhere than all reports. -/
theorem Desk.logElsewhere_of_hasLogName {d : Desk} {slot : Nat} {j : Journal}
    (hj : d.journals[slot]? = some j) (hname : j.HasLogName) (dir : Path) (title : String)
    (now : Int) : d.LogElsewhere (reportPath dir title now) (some slot) := by
  rintro n ⟨⟩ x hx
  rw [logs, List.getElem?_map, hj] at hx
  cases hx
  obtain ⟨front, hfront⟩ := hname
  exact (apart_of_jsonl hfront dir title now).symm

/-- A scenario whose report and event log can be written: reports are wanted, the log is open and named
like one, the directory of the report can be made, and the report can be a file in it. -/
structure Scenario.Setup.CanWrite (setup : Setup) (s : Scenario) (slot : Nat) (j : Journal)
    (old : Content) (w : Walk) : Prop where
  wanted : setup.writeReports = true
  logged : setup.journal = some slot
  journal : w.desk.journals[slot]? = some j
  isOpen : j.isOpen = true
  named : ∃ dir stem, j.path = Path.child dir (stem ++ ".jsonl")
  log : w.desk.disk.read w.desk.cwd j.path = .ok old
  report : ∃ disk, w.desk.disk.ensurePath w.desk.cwd setup.engine.settings.reportDir = .ok disk ∧
    disk.Writable w.desk.cwd
      (Desk.reportPath setup.engine.settings.reportDir s.title w.scene.clock)

namespace Scenario

variable {setup : Setup} {s : Scenario} {slot : Nat} {j : Journal} {old : Content} {w : Walk}

theorem Setup.CanWrite.hasLogName (h : setup.CanWrite s slot j old w) : j.HasLogName := by
  obtain ⟨dir, stem, hpath⟩ := h.named
  unfold Journal.HasLogName
  rw [hpath]
  exact Path.child_endsIn (by decide) (by decide) dir stem

theorem Setup.CanWrite.ready (h : setup.CanWrite s slot j old w) : setup.Ready w.desk := by
  obtain ⟨disk, hdisk, -⟩ := h.report
  refine ⟨fun _ => ⟨disk, hdisk⟩, fun n hn j' hj' => ?_⟩
  rw [h.logged] at hn
  cases hn
  cases h.journal.symm.trans hj'
  obtain ⟨key, hl, -⟩ := Disk.read_iff.mp h.log
  exact ⟨Disk.hasNull_of_locate hl, h.isOpen⟩

/-- A scenario that can write gives a result. Its report shows the account whenever the other listeners
have been told of something, and in the end what the result tells. -/
theorem Setup.CanWrite.reports (h : setup.CanWrite s slot j old w) :
    let path := Desk.reportPath setup.engine.settings.reportDir s.title w.scene.clock
    let o := s.run setup w
    ∃ result, o.result = .ok result ∧ result.report = some path ∧
      o.state.desk.Shows path (result.account w.scene.clock) ∧
      ∀ watch : Listener, watch.Agrees path → (s.runWatched setup watch w).result = .ok result ∧
        (s.runWatched setup watch w).state = o.state.alsoTelling watch := by
  intro path o
  obtain ⟨result, hresult⟩ := run_returns_iff.mpr h.ready
  obtain ⟨disk, hdisk, hwrite⟩ := h.report
  have hlog := Desk.logElsewhere_of_hasLogName h.journal h.hasLogName
    setup.engine.settings.reportDir s.title w.scene.clock
  rw [← h.logged] at hlog
  obtain ⟨hstart, -, hkeep⟩ := startReport_keeping h.wanted hdisk rfl hwrite hlog
  have hreport := run_report h.wanted hresult
  rw [run_title hresult] at hreport
  refine ⟨result, hresult, hreport, run_shows hstart hkeep hresult, fun watch hwatch => ?_⟩
  rw [← hresult]
  exact runWatched_of_agrees hstart hkeep hwatch

theorem Setup.CanWrite.inOrder (h : setup.CanWrite s slot j old w) :
    w.desk.Logged slot j old none [] := by
  refine ⟨h.journal, ?_, by simp⟩
  show _ = Except.ok (Disk.appended "" (some old))
  rw [Disk.appended_empty]
  exact h.log

end Scenario

namespace Session

variable {S : Session} {setup : Scenario.Setup} {s : Scenario} {scenarios : List Scenario}
  {results : List ScenarioResult}

theorem call_state (c : BrowserCall) (S : Session) : (call c S).state = S := by
  unfold call
  simp only [Act.bind_eq, Act.bind, Act.mark, Act.get]
  cases namedValue? S.refusals c.name <;> rfl

/-- A tour fails at the desk where it begins, or it ends as stated. -/
def Ends {α : Type} (S : Session) (P : Except Failure α → Session → Prop) (x : Tour α) : Prop :=
  (∃ e, (x S).result = .error e) ∧ (x S).state.desk = S.desk ∨ P (x S).result (x S).state

theorem Ends.bind {α β : Type} {x : Tour α} {f : α → Tour β} {P : Except Failure β → Session → Prop}
    (h : S.Ends (fun r T => ∃ a, r = .ok a ∧ T.desk = S.desk ∧ T.Ends P (f a)) x) :
    S.Ends P (Act.bind x f) := by
  unfold Ends
  obtain ⟨⟨e, he⟩, hdesk⟩ | ⟨a, ha, hdesk, hrest⟩ := h
  · rw [Act.bind_of_error he]
    exact Or.inl ⟨⟨e, rfl⟩, hdesk⟩
  · rw [Act.bind_of_ok ha, Outcome.after_result, Outcome.after_state, ← hdesk]
    exact hrest

theorem ends_call {α : Type} {P : Except Failure α → Session → Prop} {c : BrowserCall}
    {f : Unit → Tour α} (h : S.Ends P (f ())) : S.Ends P (Act.bind (call c) f) := by
  refine Ends.bind ?_
  cases hc : (call c S).result with
  | error e => exact Or.inl ⟨⟨e, hc⟩, by rw [call_state]⟩
  | ok _ => exact Or.inr ⟨(), hc, by rw [call_state], by rwa [call_state]⟩

/-- A scenario on a page of its own does nothing but run, if it gets so far. -/
theorem runOnNewPage_ends (setup : Scenario.Setup) (s : Scenario) (S : Session) :
    S.Ends (fun r T => r = (s.run setup S.nextWalk).result ∧
      T = S.behind (s.run setup S.nextWalk).state) (runOnNewPage setup s) := by
  unfold runOnNewPage
  refine Ends.bind (ends_call (Or.inr ⟨S.nextWalk.scene.page, rfl, rfl, ?_⟩))
  exact ends_call (ends_call (Or.inr ⟨rfl, rfl⟩))

/-- A scenario in a context of its own does nothing but run on the next page, if it gets so far. -/
theorem runInContext_ends (setup : Scenario.Setup) (s : Scenario) (S : Session) :
    S.Ends (fun r T => (∀ result, r = .ok result → (s.run setup S.nextWalk).result = .ok result) ∧
      T = S.behind (s.run setup S.nextWalk).state) (runInContext setup s) := by
  unfold runInContext
  simp only [Act.bind_eq]
  refine ends_call ?_
  obtain ⟨hstate, hresult⟩ := Act.thenAlways_cases (runOnNewPage setup s) (call .closeContext) S
  rw [call_state] at hstate
  obtain ⟨⟨e, he⟩, hdesk⟩ | ⟨hresult', hbehind⟩ := runOnNewPage_ends setup s S
  · refine Or.inl ⟨?_, hstate ▸ hdesk⟩
    cases hr : (Act.thenAlways (runOnNewPage setup s) (call .closeContext) S).result with
    | error e' => exact ⟨e', rfl⟩
    | ok result => cases he.symm.trans (hresult result hr)
  · exact Or.inr ⟨fun result hr => hresult' ▸ hresult result hr, hstate.trans hbehind⟩

theorem allResults_ok {rs : List (Except Failure ScenarioResult)} (h : allResults rs = .ok results) :
    rs = results.map .ok := by
  have hall : List.Forall₂ (fun r result => r = .ok result) rs results := forall₂_of_mapM h
  rw [← List.forall₂_eq_eq_eq, List.forall₂_map_right_iff]
  exact hall

/-- A browser that gets so far runs all scenarios. -/
theorem runInBrowser_ends (setup : Scenario.Setup) (scenarios : List Scenario) (S : Session) :
    S.Ends (fun r T => T.desk = (attemptAll setup scenarios S).state.desk ∧
      ∀ results, r = .ok results →
        (attemptAll setup scenarios S).result = .ok (results.map .ok))
      (runInBrowser setup scenarios) := by
  unfold runInBrowser
  dsimp only
  split
  · refine ends_call (Or.inr ?_)
    let runAll : Tour (List ScenarioResult) :=
      Act.bind (attemptAll setup scenarios) fun rs => Act.ofExcept (allResults rs)
    obtain ⟨hstate, hresult⟩ := Act.thenAlways_cases runAll (call .closeBrowser) S
    rw [call_state] at hstate
    refine ⟨?_, fun results hr => ?_⟩
    · have hall : (runAll S).state = (attemptAll setup scenarios S).state := by
        obtain ⟨e, -, -, hs⟩ | ⟨rs, -, hs⟩ := Act.bind_cases (attemptAll setup scenarios)
          (fun rs => Act.ofExcept (allResults rs)) S
        · exact hs
        · show (Act.bind _ _ S).state = _
          rw [hs, Act.ofExcept_eq]
          rfl
      exact congrArg Session.desk (hstate.trans hall)
    · obtain ⟨rs, hrs, hok⟩ := Act.ok_of_bind (hresult results hr)
      rw [Act.ofExcept_eq] at hok
      rw [hrs, allResults_ok hok]
  · exact Or.inl ⟨⟨_, rfl⟩, rfl⟩

/-- If all scenarios give results, so does the first one and then the others. -/
theorem attemptAll_results (h : (attemptAll setup (s :: scenarios) S).result = .ok (results.map .ok)) :
    ∃ result rest, results = result :: rest ∧ (runInContext setup s S).result = .ok result ∧
      (attemptAll setup scenarios (runInContext setup s S).state).result = .ok (rest.map .ok) := by
  obtain ⟨hresult, -⟩ := attemptAll_cons setup s scenarios S
  rw [hresult] at h
  cases hothers : (attemptAll setup scenarios (runInContext setup s S).state).result with
  | error e =>
    rw [hothers] at h
    cases h
  | ok rs =>
    rw [hothers] at h
    cases results with
    | nil => cases h
    | cons result rest =>
      obtain ⟨hfirst, hrest⟩ := List.cons.inj (Except.ok.inj h)
      exact ⟨result, rest, rfl, hfirst, congrArg Except.ok hrest⟩

section Logged

variable {slot : Nat} {j : Journal} {old : Content} {before : List (Desk.LogEntry × Int)}

/-- Whatever becomes of the scenarios, the event log stays in order. If all give results, it got what
each of them logs. -/
theorem attemptAll_logged (setup : Scenario.Setup) (scenarios : List Scenario)
    (hjournal : setup.journal = some slot) (hname : j.HasLogName) (hopen : j.isOpen = true)
    (h : S.desk.Logged slot j old none before) :
    ∃ events, (attemptAll setup scenarios S).state.desk.Logged slot j old none (before ++ events) ∧
      ∀ results : List ScenarioResult,
        (attemptAll setup scenarios S).result = .ok (results.map .ok) →
        events.map Prod.fst = results.flatMap ScenarioResult.logEntries := by
  induction scenarios generalizing S before with
  | nil =>
    refine ⟨[], by rwa [List.append_nil], fun results hr => ?_⟩
    rw [List.map_eq_nil_iff.mp (Except.ok.inj hr).symm]
    rfl
  | cons s rest ih =>
    rw [(attemptAll_cons setup s rest S).2]
    obtain ⟨⟨e, he⟩, hdesk⟩ | ⟨hran, hbehind⟩ := runInContext_ends setup s S
    · obtain ⟨events, hlogged, -⟩ := ih (hdesk ▸ h)
      refine ⟨events, hlogged, fun results hr => ?_⟩
      obtain ⟨result, -, -, hfirst, -⟩ := attemptAll_results hr
      cases he.symm.trans hfirst
    · obtain ⟨first, hfirst, hentries⟩ := Scenario.run_logged (s := s) hjournal hname
        (w := S.nextWalk) h hopen
      have hdesk : (runInContext setup s S).state.desk = (s.run setup S.nextWalk).state.desk :=
        congrArg Session.desk hbehind
      obtain ⟨events, hlogged, hall⟩ := ih (hdesk ▸ hfirst)
      refine ⟨first ++ events, by rwa [← List.append_assoc], fun results hr => ?_⟩
      obtain ⟨result, more, rfl, hresult, hmore⟩ := attemptAll_results hr
      rw [List.map_append, hentries result (hran result hresult), hall more hmore]
      rfl

/-- An event log that was just opened is in order. -/
theorem openJournal_logged {d desk : Desk} {runId : String} {path : Path}
    (h : d.openJournal runId path = .ok (desk, slot)) :
    ∃ old, desk.disk.read desk.cwd path = .ok old ∧
      desk.Logged slot { runId, path } old none [] := by
  unfold Desk.openJournal at h
  cases hdisk : d.disk.ensurePath d.cwd path.parent with
  | error e =>
    rw [hdisk] at h
    cases h
  | ok disk =>
    rw [hdisk] at h
    change Except.bind ((disk.append d.cwd path "").mapError Failure.disk) _ = _ at h
    cases happend : disk.append d.cwd path "" with
    | error e =>
      rw [happend] at h
      cases h
    | ok disk' =>
      rw [happend] at h
      cases h
      obtain ⟨held, hread, -⟩ := Disk.read_change happend
      refine ⟨_, hread, List.getElem?_concat_length, ?_, by simp⟩
      show disk'.read d.cwd path = .ok (Disk.appended "" _)
      rw [Disk.appended_empty]
      exact hread

end Logged

theorem logPath_hasName (engine : Engine) (runId : String) :
    ({ runId, path := logPath engine runId } : Journal).HasLogName :=
  Path.child_endsIn (by decide) (by decide) _ runId

/-- If all scenarios give results, the first one has run on the next page, and the others behind it. -/
theorem attemptAll_first (h : (attemptAll setup (s :: scenarios) S).result = .ok (results.map .ok)) :
    let o := s.run setup S.nextWalk
    ∃ result rest, results = result :: rest ∧ o.result = .ok result ∧
      (S.behind o.state).clock = S.clock + result.duration ∧
      (attemptAll setup scenarios (S.behind o.state)).result = .ok (rest.map .ok) ∧
      (attemptAll setup (s :: scenarios) S).state =
        (attemptAll setup scenarios (S.behind o.state)).state := by
  intro o
  obtain ⟨result, rest, rfl, hfirst, hrest⟩ := attemptAll_results h
  have hstate := (attemptAll_cons setup s scenarios S).2
  obtain ⟨⟨e, he⟩, -⟩ | ⟨hran, hbehind⟩ := runInContext_ends setup s S
  · cases he.symm.trans hfirst
  · have hresult : o.result = .ok result := hran result hfirst
    obtain ⟨result', hresult', -, hclock⟩ :=
      Scenario.run_ready (s := s) (Scenario.run_returns_iff.mp ⟨result, hresult⟩)
    cases hresult.symm.trans hresult'
    rw [hbehind] at hrest hstate
    exact ⟨result, rest, rfl, hresult, hclock, hrest, hstate⟩

theorem attemptAll_within {Q : Desk → Desk → Prop} [IsPreorder Desk Q]
    (hQ : ∀ (s : Scenario) w, Q w.desk (s.run setup w).state.desk) (scenarios : List Scenario)
    (S : Session) : Q S.desk (attemptAll setup scenarios S).state.desk := by
  induction scenarios generalizing S with
  | nil => exact refl_of Q S.desk
  | cons s rest ih =>
    rw [(attemptAll_cons setup s rest S).2]
    refine trans_of Q ?_ (ih _)
    obtain ⟨-, hdesk⟩ | ⟨-, hbehind⟩ := runInContext_ends setup s S
    · rw [hdesk]
      exact refl_of Q S.desk
    · rw [hbehind]
      exact hQ s S.nextWalk

section Reports

variable {path : Path} {a : Account} {title : String} {now : Int}

/-- Scenarios that report elsewhere leave a report as it is. -/
theorem attemptAll_leaves (hwanted : setup.writeReports = true)
    (h : (attemptAll setup scenarios S).result = .ok (results.map .ok))
    (hpath : path = Desk.reportPath setup.engine.settings.reportDir title now)
    (hshows : S.desk.Shows path a) (hlog : S.desk.LogElsewhere path setup.journal)
    (hother : ∀ r ∈ results, r.report ≠ some path) :
    (attemptAll setup scenarios S).state.desk.Shows path a := by
  induction scenarios generalizing S results with
  | nil => exact hshows
  | cons s rest ih =>
    obtain ⟨result, more, rfl, hresult, -, hmore, hstate⟩ := attemptAll_first h
    have hne := hother result List.mem_cons_self
    rw [Scenario.run_report hwanted hresult, Scenario.run_title hresult, hpath] at hne
    have hapart : path.Apart
        (Desk.reportPath setup.engine.settings.reportDir s.title S.nextWalk.scene.clock) := by
      rw [hpath]
      exact Desk.apart_of_ne fun heq => hne (congrArg some heq.symm)
    have hleft := Scenario.run_leaves (s := s) (w := S.nextWalk) hshows hlog hapart
    have hlog' := hlog.of_sameLogs (Scenario.run_sameLogs setup s S.nextWalk)
    rw [hstate]
    exact ih hmore hleft hlog' fun r hr => hother r (List.mem_cons_of_mem result hr)

theorem attemptAll_titles (h : (attemptAll setup scenarios S).result = .ok (results.map .ok)) :
    results.map ScenarioResult.title = scenarios.map Scenario.title := by
  induction scenarios generalizing S results with
  | nil =>
    rw [List.map_eq_nil_iff.mp (Except.ok.inj h).symm]
    rfl
  | cons s rest ih =>
    obtain ⟨result, more, rfl, hresult, -, hmore, -⟩ := attemptAll_first h
    rw [List.map_cons, List.map_cons, ih hmore, Scenario.run_title hresult]

/-- Each result of a run has a report, which is the one that its file shows unless a later scenario
reports to the same file. -/
theorem attemptAll_filed (h : (attemptAll setup scenarios S).result = .ok (results.map .ok))
    (hwanted : setup.writeReports = true)
    (hlog : ∀ title now, S.desk.LogElsewhere
      (Desk.reportPath setup.engine.settings.reportDir title now) setup.journal) {i : Nat}
    {result : ScenarioResult} (hi : results[i]? = some result) :
    result.Filed setup.engine.settings.reportDir (attemptAll setup scenarios S).state.desk
      (ScenarioResult.endOf S.clock (results.take i)) (results.drop (i + 1)) := by
  induction scenarios generalizing S results i with
  | nil =>
    rw [List.map_eq_nil_iff.mp (Except.ok.inj h).symm] at hi
    cases hi
  | cons s rest ih =>
    obtain ⟨first, more, rfl, hresult, hclock, hmore, hstate⟩ := attemptAll_first h
    have hlog' : ∀ title now, (S.behind (s.run setup S.nextWalk).state).desk.LogElsewhere
        (Desk.reportPath setup.engine.settings.reportDir title now) setup.journal := fun title now =>
      (hlog title now).of_sameLogs (Scenario.run_sameLogs setup s S.nextWalk)
    rw [hstate]
    cases i with
    | succ i =>
      have hlater := ih hmore hlog' (i := i) hi
      rwa [hclock] at hlater
    | zero =>
      cases hi
      have hreport := Scenario.run_report hwanted hresult
      refine ⟨hreport, fun hother => ⟨Disk.not_directory_of_read, fun hfree => ?_⟩⟩
      have hretains := attemptAll_within (Q := Desk.Retaining) (Scenario.run_retains setup) rest
        (S.behind (s.run setup S.nextWalk).state)
      have hshows := Scenario.run_shows_of_free hwanted rfl (hlog _ _) hresult hretains hfree
      exact attemptAll_leaves hwanted hmore rfl hshows (hlog' _ _) fun r hr heq =>
        hother r hr (heq.trans hreport.symm)

end Reports

section Run

variable {engine : Engine} {runId : String} {desk : Desk} {slot : Nat}

/-- A run whose event log can be opened does nothing but run its scenarios, if it gets so far, and
close the log. -/
theorem run_of_openJournal (scenarios : List Scenario)
    (h : S.desk.openJournal runId (logPath engine runId) = .ok (desk, slot)) :
    let setup : Scenario.Setup := { engine, runId, writeReports := true, journal := some slot }
    let all := attemptAll setup scenarios { S with desk }
    let o := run engine runId true scenarios S
    (∃ e, o.result = .error e) ∧ o.state.desk = desk.closeJournal slot ∨
      o.state.desk = all.state.desk.closeJournal slot ∧
        ∀ summary, o.result = .ok summary → all.result = .ok (summary.results.map .ok) := by
  intro setup all o
  let closed := Act.thenAlways (runInBrowser setup scenarios) (closeJournal (some slot))
  let summed : List ScenarioResult → Tour RunSummary := fun results => Act.bind Act.get fun T =>
    Act.pure { runId, env := engine.settings.env, results, duration := T.clock - S.clock }
  have ho : o.result = (Act.bind closed summed { S with desk }).result ∧
      o.state = (Act.bind closed summed { S with desk }).state := by
    have hget : ∀ (T : Session) (f : Session → Tour RunSummary), Act.bind Act.get f T = f T T :=
      fun _ _ => rfl
    show (run engine runId true scenarios S).result = _ ∧
      (run engine runId true scenarios S).state = _
    unfold run
    simp only [Act.bind_eq]
    rw [hget, Act.bind_of_ok (congrArg Outcome.result (openJournal_eq h)), openJournal_eq h]
    exact ⟨rfl, rfl⟩
  have hstate : o.state = (closed { S with desk }).state := by
    rw [ho.2]
    obtain ⟨e, -, -, hs⟩ | ⟨results, -, hs⟩ := Act.bind_cases closed summed { S with desk }
    · exact hs
    · rw [hs]
      rfl
  have hresult : ∀ summary, o.result = .ok summary →
      (closed { S with desk }).result = .ok summary.results := by
    intro summary hsummary
    obtain ⟨results, hresults, hsum⟩ := Act.ok_of_bind (ho.1.symm.trans hsummary)
    cases hsum
    exact hresults
  obtain ⟨hclosed, hran⟩ := Act.thenAlways_cases (runInBrowser setup scenarios)
    (closeJournal (some slot)) { S with desk }
  have hdesk : o.state.desk =
      (runInBrowser setup scenarios { S with desk }).state.desk.closeJournal slot := by
    rw [hstate, show (closed { S with desk }).state = _ from hclosed]
    rfl
  obtain ⟨⟨e, he⟩, hsame⟩ | ⟨hsame, hall⟩ := runInBrowser_ends setup scenarios { S with desk }
  · refine Or.inl ⟨?_, by rw [hdesk, hsame]⟩
    cases hr : o.result with
    | error e' => exact ⟨e', rfl⟩
    | ok summary => cases he.symm.trans (hran _ (hresult summary hr))
  · refine Or.inr ⟨by rw [hdesk, hsame], fun summary hr => ?_⟩
    exact hall _ (hran _ (hresult summary hr))

/-- Whatever becomes of a run, its event log is in order. -/
theorem run_logs (h : S.desk.openJournal runId (logPath engine runId) = .ok (desk, slot)) :
    ∃ old events, desk.disk.read desk.cwd (logPath engine runId) = .ok old ∧
      (run engine runId true scenarios S).state.desk.disk.read
          (run engine runId true scenarios S).state.desk.cwd (logPath engine runId) =
        .ok (Disk.appended (String.join (Desk.logLines runId 0 events)) (some old)) ∧
      ∀ summary, (run engine runId true scenarios S).result = .ok summary →
        events.map Prod.fst = summary.results.flatMap ScenarioResult.logEntries := by
  obtain ⟨old, hold, hlogged⟩ := openJournal_logged h
  obtain ⟨⟨e, he⟩, hdesk⟩ | ⟨hdesk, hran⟩ := run_of_openJournal scenarios h
  · refine ⟨old, [], hold, ?_, fun summary hr => by cases he.symm.trans hr⟩
    rw [hdesk]
    exact hlogged.text
  · obtain ⟨events, hlater, hentries⟩ := attemptAll_logged
      { engine, runId, writeReports := true, journal := some slot } scenarios
      rfl (logPath_hasName engine runId) rfl (S := { S with desk }) hlogged
    refine ⟨old, events, hold, ?_, fun summary hr => hentries _ (hran summary hr)⟩
    rw [hdesk]
    exact hlater.text

/-- A run with a result has opened its event log, and all its scenarios have given results. -/
theorem run_ok {summary : RunSummary} (h : (run engine runId true scenarios S).result = .ok summary) :
    ∃ desk slot, S.desk.openJournal runId (logPath engine runId) = .ok (desk, slot) ∧
      let setup : Scenario.Setup := { engine, runId, writeReports := true, journal := some slot }
      let all := attemptAll setup scenarios { S with desk }
      all.result = .ok (summary.results.map .ok) ∧
        (run engine runId true scenarios S).state.desk = all.state.desk.closeJournal slot := by
  cases hopen : S.desk.openJournal runId (logPath engine runId) with
  | error e =>
    unfold logPath at hopen
    unfold run openJournal at h
    simp only [Act.bind_eq, Act.bind, Act.get, if_true, hopen, Act.ofExcept] at h
    cases h
  | ok opened =>
    obtain ⟨desk, slot⟩ := opened
    refine ⟨desk, slot, rfl, ?_⟩
    obtain ⟨⟨e, he⟩, -⟩ | ⟨hdesk, hall⟩ := run_of_openJournal scenarios hopen
    · cases h.symm.trans he
    · exact ⟨hall summary h, hdesk⟩

/-- A run tells where the report of each scenario is, in a file that is named after the time at which the
scenario began and the safe letters of its title. Two scenarios of which these are the same share a
file, and it shows the report of the last one that has it. -/
theorem run_reports {summary : RunSummary}
    (h : (run engine runId true scenarios S).result = .ok summary) :
    let final := (run engine runId true scenarios S).state.desk
    let start := fun i => ScenarioResult.endOf S.clock (summary.results.take i)
    summary.results.map ScenarioResult.title = scenarios.map Scenario.title ∧
    (∀ (i : Nat) (result : ScenarioResult), summary.results[i]? = some result →
      result.Filed engine.settings.reportDir final (start i) (summary.results.drop (i + 1))) ∧
    ∀ (i k : Nat) (result other : ScenarioResult),
      summary.results[i]? = some result → summary.results[k]? = some other →
      0 ≤ start i → 0 ≤ start k →
      (result.report = other.report ↔
        Desk.safeName result.title = Desk.safeName other.title ∧ start i = start k) := by
  intro final start
  obtain ⟨desk, slot, hopen, hall, hdesk⟩ := run_ok h
  obtain ⟨old, -, hlogged⟩ := openJournal_logged hopen
  have hfinal : final = (attemptAll _ scenarios { S with desk }).state.desk.closeJournal slot := hdesk
  have helsewhere : ∀ title now, desk.LogElsewhere
      (Desk.reportPath engine.settings.reportDir title now) (some slot) :=
    Desk.logElsewhere_of_hasLogName hlogged.journal (logPath_hasName engine runId) _
  have hfiled : ∀ (i : Nat) (result : ScenarioResult), summary.results[i]? = some result →
      result.Filed engine.settings.reportDir final (start i) (summary.results.drop (i + 1)) := by
    intro i result hi
    rw [hfinal]
    exact (attemptAll_filed hall rfl helsewhere hi).closeJournal slot
  refine ⟨attemptAll_titles hall, hfiled, fun i k result other hi hk hstart hstart' => ?_⟩
  rw [(hfiled i result hi).report, (hfiled k other hk).report, Option.some.injEq]
  exact Desk.reportPath_eq_iff hstart hstart'

/-- Two scenarios of one title of which the second begins later than the first have each a report of
their own. -/
theorem run_reports_of_waiting :
    let engine : Engine := { settings := { uploadBaseDir := ⟨.slash, []⟩ }, plugins := {} }
    let same : Scenario :=
      { description := "Same", steps := [{ action := .wait, waitTime := some 5 }] }
    let o := run engine "r" true [same, same] {}
    ∃ summary first second, o.result = .ok summary ∧ summary.results = [first, second] ∧
      first.report ≠ second.report ∧
      first.Filed engine.settings.reportDir o.state.desk 1000 [second] ∧
      second.Filed engine.settings.reportDir o.state.desk 1005 [] := by
  intro engine same o
  have htold : o.result.toOption.map (fun x => x.results.map ScenarioResult.duration) =
      some [5, 5] := by decide +kernel
  cases hrun : o.result with
  | error e =>
    rw [hrun] at htold
    cases htold
  | ok summary =>
    rw [hrun] at htold
    obtain ⟨first, more, hresults, hfirst, hmore⟩ := List.map_eq_cons_iff.mp (Option.some.inj htold)
    obtain ⟨second, rfl, -⟩ := List.map_eq_singleton_iff.mp hmore
    obtain ⟨-, hfiled, hshared⟩ := run_reports hrun
    rw [hresults] at hfiled hshared
    have hstart : ScenarioResult.endOf 1000 [first] = 1005 := congrArg (1000 + ·) hfirst
    refine ⟨summary, first, second, rfl, hresults, fun hsame => ?_, hfiled 0 first rfl, ?_⟩
    · have hlater : (0 : Int) ≤ ScenarioResult.endOf 1000 [first] := by
        rw [hstart]
        decide
      have htimes : (1000 : Int) = ScenarioResult.endOf 1000 [first] :=
        ((hshared 0 1 first second rfl rfl (by decide : (0 : Int) ≤ 1000) hlater).mp hsame).2
      rw [hstart] at htimes
      cases htimes
    · have hsecond := hfiled 1 second rfl
      change second.Filed _ _ (ScenarioResult.endOf 1000 [first]) [] at hsecond
      rwa [hstart] at hsecond

/-- Of two scenarios of one title that begin at the same time, the second overwrites the report of the
first. -/
theorem run_reports_shared :
    let engine : Engine := { settings := { uploadBaseDir := ⟨.slash, []⟩ }, plugins := {} }
    let o := run engine "r" true [{ description := "Same" },
      { description := "Same", steps := [{ action := .wait, waitTime := some 5 }] }] {}
    ∃ summary first second path, o.result = .ok summary ∧ summary.results = [first, second] ∧
      first.report = some path ∧ second.report = some path ∧
      o.state.desk.Shows path (second.account 1000) ∧ ¬ o.state.desk.Shows path (first.account 1000) := by
  intro engine o
  let path := Desk.reportPath engine.settings.reportDir "Run scenario: Same" 1000
  have htold : o.result.toOption.map (fun x => x.results.map fun r =>
      (r.report, decide (o.state.desk.Shows path (r.account 1000)))) =
        some [(some path, false), (some path, true)] := by
    decide +kernel
  cases hrun : o.result with
  | error e =>
    rw [hrun] at htold
    cases htold
  | ok summary =>
    rw [hrun] at htold
    obtain ⟨first, more, hresults, hfirst, hmore⟩ := List.map_eq_cons_iff.mp (Option.some.inj htold)
    obtain ⟨second, rfl, hsecond⟩ := List.map_eq_singleton_iff.mp hmore
    obtain ⟨hreport, hshown⟩ := Prod.mk.inj hfirst
    obtain ⟨hreport', hshown'⟩ := Prod.mk.inj hsecond
    exact ⟨summary, first, second, path, rfl, hresults, hreport, hreport',
      of_decide_eq_true hshown', of_decide_eq_false hshown⟩

end Run

end Session
end Walkthrough
