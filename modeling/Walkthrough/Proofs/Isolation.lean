import Walkthrough.Proofs.Alike
import Walkthrough.Proofs.Directories
import Walkthrough.Proofs.ScenarioRun
import Walkthrough.Session.Browser

/-!
Scenarios that run one after the other in a browser. Each gives the result that it gives when it runs
alone, whatever becomes of the others, but for the times in it and the file of its report.
-/
namespace Walkthrough

/-- The result with its times moved, and with another report. -/
def ScenarioResult.later (d : Int) (report : Option Path) (r : ScenarioResult) : ScenarioResult :=
  { r with steps := r.steps.map (StepRecord.later d), report }

/-- The time when scenarios have ended that ran from some time on. -/
def ScenarioResult.endOf (now : Int) (results : List ScenarioResult) : Int :=
  results.foldl (fun now result => now + result.duration) now

namespace Scenario

variable {setup : Setup} {s : Scenario} {w : Walk} {d : Int}

/-- Where the report of a scenario is kept that begins at some time, if reports are wanted. -/
def reportAt (engine : Engine) (wanted : Bool) (s : Scenario) (now : Int) : Option Path :=
  if wanted then some (Desk.reportPath engine.settings.reportDir s.title now) else none

/-- A desk at which a scenario can begin. -/
def Setup.Ready (setup : Setup) (d : Desk) : Prop :=
  d.Ready setup.engine.settings.reportDir setup.writeReports setup.journal

/-- From a desk that is ready a scenario opens its report, and its listeners are quiet from then
on. -/
theorem startReport_ready (hd : setup.Ready w.desk) :
    ∃ report slot, (startReport setup s w).result = .ok report ∧
      report.map (·.2) = reportAt setup.engine setup.writeReports s w.scene.clock ∧
      (∀ d : Desk, d.Serves setup.engine.settings.reportDir slot setup.journal → setup.Ready d) ∧
      (startReport setup s w).state.desk.Serves setup.engine.settings.reportDir slot setup.journal ∧
      ∀ l ∈ listeners setup report,
        l.QuietAt (Desk.Serves setup.engine.settings.reportDir slot setup.journal) := by
  have hjournal : ∀ (slot : Option Nat), ∀ l ∈ (setup.journal.map Desk.keepJournal).toList,
      l.QuietAt (Desk.Serves setup.engine.settings.reportDir slot setup.journal) := by
    intro slot l hl
    obtain ⟨n, hn, rfl⟩ := Option.map_eq_some_iff.mp (Option.mem_toList.mp hl)
    exact Desk.keepJournal_serves hn
  unfold Setup.Ready at hd ⊢
  rw [startReport_eq]
  unfold reportAt
  cases hwanted : setup.writeReports with
  | false =>
    rw [if_neg Bool.false_ne_true]
    exact ⟨none, none, rfl, rfl, fun d h => h.ready, Desk.serves_of_unwanted hd, hjournal none⟩
  | true =>
    rw [hwanted] at hd
    obtain ⟨d', hopen, hserves⟩ := Desk.openReport_serves hd s.title w.scene.clock
    rw [if_pos rfl, if_pos rfl, hopen]
    refine ⟨_, some w.desk.reports.length, rfl, ?_, fun d h => h.ready, hserves, ?_⟩
    · rw [Option.map_some]
    · intro l hl
      rcases List.mem_append.mp hl with hl | hl
      · cases List.mem_singleton.mp hl
        exact Desk.keepReport_serves rfl
      · exact hjournal _ l hl

/-- From a desk that is ready a scenario gives a result, whatever its steps do. The desk is ready for
the next one, and the clock has gone on by the duration of this one. -/
theorem run_ready (hd : setup.Ready w.desk) :
    ∃ result, (s.run setup w).result = .ok result ∧ setup.Ready (s.run setup w).state.desk ∧
      (s.run setup w).state.scene.clock = w.scene.clock + result.duration := by
  obtain ⟨report, slot, hreport, -, hready, hserves, hlisteners⟩ := startReport_ready (s := s) hd
  obtain ⟨-, -, hr⟩ := opening_quietBy hreport hserves hlisteners
  obtain ⟨r, hr', -⟩ := Walk.extends_drive setup.engine s.steps (context setup s) _ _ hr
  obtain ⟨hquiet, hscene, hresult⟩ := run_of_quietBy hreport hserves hlisteners hr'
  refine ⟨_, hresult, hready _ hquiet.1, ?_⟩
  rw [hscene]
  have hsum : ∀ first last : Int, last = first + (last - first) := by omega
  exact hsum _ _

theorem resultOf_later (s : Scenario) (report report' : Option Path) (error : Option Failure)
    (a : Account) (duration : Int) :
    s.resultOf report' error (a.later d) duration =
      (s.resultOf report error a duration).later d report' := by
  unfold resultOf ScenarioResult.later
  rw [Account.later_softFailures]
  rfl

theorem context_journal (setup : Setup) (journal : Option Nat) (s : Scenario) :
    context { setup with journal } s = context setup s := rfl

/-- A scenario that runs later, on the same page, gives the same result but for the times in it and
the file of its report. Neither the desk nor the event log matters. -/
theorem run_later {w' : Walk} {journal : Option Nat} {result : ScenarioResult}
    (hplugins : setup.engine.plugins.All (Handler.SameLater d) (Handler.SameLater d))
    (hscene : w'.scene = w.scene.later d) (hd : setup.Ready w.desk)
    (hd' : Setup.Ready { setup with journal } w'.desk)
    (hresult : (s.run setup w).result = .ok result) :
    result.report = reportAt setup.engine setup.writeReports s w.scene.clock ∧
      (s.run { setup with journal } w').result = .ok
        (result.later d (reportAt setup.engine setup.writeReports s w'.scene.clock)) := by
  obtain ⟨report, slot, hreport, hpath, -, hserves, hlisteners⟩ := startReport_ready (s := s) hd
  obtain ⟨report', slot', hreport', hpath', -, hserves', hlisteners'⟩ :=
    startReport_ready (s := s) hd'
  obtain ⟨hquiet, hpage, hr⟩ := opening_quietBy hreport hserves hlisteners
  obtain ⟨hquiet', hpage', hr'⟩ := opening_quietBy hreport' hserves' hlisteners'
  -- The steps begin on the same page and with no records, in the second run by `d` later.
  have hbegun : Walk.Alike d (opening setup s w).state
      (opening { setup with journal } s w').state := by
    refine ⟨?_, ⟨_, _, hr, hr', ?_, rfl⟩, ⟨_, hquiet⟩, ⟨_, hquiet'⟩⟩
    · rw [hpage, hpage', hscene]
    · rw [hscene]
      rfl
  obtain ⟨hsame, hended⟩ := Walk.alike_drive hplugins s.steps (context setup s) _ _ hbegun
  obtain ⟨r, r', hrec, hrec', halike⟩ := hended.recorder
  have hrun := (run_of_quietBy hreport hserves hlisteners hrec).2.2
  have hrun' := (run_of_quietBy hreport' hserves' hlisteners' hrec').2.2
  simp only [context_journal] at hrun'
  rw [hrun] at hresult
  cases hresult
  refine ⟨hpath, ?_⟩
  -- What is left compares the two ends: the same failure, and accounts and clocks `d` apart.
  generalize drive setup.engine s.steps (context setup s) (opening setup s w).state = o at *
  generalize drive setup.engine s.steps (context setup s)
    (opening { setup with journal } s w').state = o' at *
  have hclock : o'.state.scene.clock = o.state.scene.clock + d := by rw [hended.scene]; rfl
  have hstart : w'.scene.clock = w.scene.clock + d := by rw [hscene]; rfl
  have hduration : o'.state.scene.clock - w'.scene.clock = o.state.scene.clock - w.scene.clock := by
    omega
  rw [hrun', hsame, hduration, hclock, halike.account, Account.later_finished, hpath',
    resultOf_later s (report.map (·.2))]

end Scenario

namespace Session

variable {S : Session} {setup : Scenario.Setup} {s : Scenario} {scenarios : List Scenario}
  {α : Type}

/-- No call on the browser is refused. -/
def Accepts (S : Session) : Prop := ∀ c : BrowserCall, namedValue? S.refusals c.name = none

/-- What a scenario finds that runs next: a page of its own, the time and the desk. -/
def nextWalk (S : Session) : Walk where
  scene := ⟨S.pages.head?.getD {}, S.clock⟩
  desk := S.desk

/-- The session behind a scenario that ran next. -/
def behind (S : Session) (w : Walk) : Session :=
  { S with pages := S.pages.drop 1, clock := w.scene.clock, desk := w.desk }

theorem call_of_accepts (h : S.Accepts) (c : BrowserCall) :
    call c S = ⟨.ok (), S, [.browser c], []⟩ := by
  unfold call
  simp only [Act.bind_eq, Act.bind, Act.mark, Act.get, h c]
  rfl

theorem call_bind (h : S.Accepts) (c : BrowserCall) (f : Unit → Tour α) :
    Act.bind (call c) f S = (f () S).after (⟨.ok (), S, [.browser c], []⟩ : Outcome Session Unit) := by
  rw [Act.bind_of_ok (by rw [call_of_accepts h]), call_of_accepts h]

theorem openPage_of_accepts (h : S.Accepts) :
    (openPage S).result = .ok S.nextWalk.scene.page ∧
      (openPage S).state = { S with pages := S.pages.drop 1 } := by
  unfold openPage
  rw [Act.bind_eq, call_bind h]
  exact ⟨rfl, rfl⟩

theorem runOnNewPage_of_accepts (h : S.Accepts) (setup : Scenario.Setup) (s : Scenario) :
    let o := s.run setup S.nextWalk
    (runOnNewPage setup s S).result = o.result ∧
      (runOnNewPage setup s S).state = S.behind o.state := by
  obtain ⟨hpage, hopened⟩ := openPage_of_accepts h
  have hnext : Accepts { S with pages := S.pages.drop 1 } := h
  unfold runOnNewPage
  simp only [Act.bind_eq]
  rw [Act.bind_of_ok hpage, hopened, call_bind hnext, call_bind hnext]
  exact ⟨rfl, rfl⟩

/-- A scenario in a context of its own does nothing but run on the next page. -/
theorem runInContext_of_accepts (h : S.Accepts) (setup : Scenario.Setup) (s : Scenario) :
    let o := s.run setup S.nextWalk
    (runInContext setup s S).result = o.result ∧
      (runInContext setup s S).state = S.behind o.state := by
  intro o
  obtain ⟨hresult, hstate⟩ := runOnNewPage_of_accepts h setup s
  have hbehind : Accepts (S.behind o.state) := h
  have hlast : (call .closeContext (runOnNewPage setup s S).state) =
      ⟨.ok (), S.behind o.state, [.browser .closeContext], []⟩ := by
    rw [hstate]
    exact call_of_accepts hbehind _
  obtain ⟨hresult', hstate'⟩ := Act.thenAlways_of_ok (congrArg Outcome.result hlast)
  unfold runInContext
  simp only [Act.bind_eq]
  rw [call_bind h, Outcome.after_result, Outcome.after_state, hresult', hstate', hlast]
  exact ⟨hresult, rfl⟩

theorem attemptAll_cons (setup : Scenario.Setup) (s : Scenario) (rest : List Scenario)
    (S : Session) :
    let first := runInContext setup s S
    let others := attemptAll setup rest first.state
    (attemptAll setup (s :: rest) S).result = others.result.map (first.result :: ·) ∧
      (attemptAll setup (s :: rest) S).state = others.state := by
  intro first others
  have hcons : attemptAll setup (s :: rest) S =
      (Act.bind (attemptAll setup rest) (fun rs => Act.pure (first.result :: rs)) first.state).after
        first := rfl
  rw [hcons, Outcome.after_result, Outcome.after_state]
  cases ho : others.result with
  | error e =>
    rw [Act.bind_of_error ho]
    exact ⟨rfl, rfl⟩
  | ok rs =>
    rw [Act.bind_of_ok ho]
    exact ⟨rfl, rfl⟩

/-- All scenarios give results: each runs on its own page, at the time and from the desk that those
in front of it leave. -/
theorem attemptAll_ready (h : S.Accepts) (hd : setup.Ready S.desk) (scenarios : List Scenario) :
    ∃ results : List ScenarioResult,
      (attemptAll setup scenarios S).result = .ok (results.map .ok) ∧
      (attemptAll setup scenarios S).state.Accepts ∧
      results.length = scenarios.length ∧
      ∀ i s, scenarios[i]? = some s →
        let before := (attemptAll setup (scenarios.take i) S).state
        setup.Ready before.desk ∧ before.pages = S.pages.drop i ∧
          before.clock = ScenarioResult.endOf S.clock (results.take i) ∧
          ∃ result, results[i]? = some result ∧ (s.run setup before.nextWalk).result = .ok result := by
  -- On the list, for all sessions: the first scenario leaves one in which the rest runs.
  induction scenarios generalizing S with
  | nil => exact ⟨[], rfl, h, rfl, by simp⟩
  | cons s rest ih =>
    obtain ⟨result, hresult, hready, hclock⟩ := Scenario.run_ready (s := s) (w := S.nextWalk) hd
    obtain ⟨hrun, hstate⟩ := runInContext_of_accepts h setup s
    have hnext : (runInContext setup s S).state.Accepts := by rw [hstate]; exact h
    have hdesk : setup.Ready (runInContext setup s S).state.desk := by rw [hstate]; exact hready
    have hpages : (runInContext setup s S).state.pages = S.pages.drop 1 := by rw [hstate]; rfl
    have htime : (runInContext setup s S).state.clock = S.clock + result.duration := by
      rw [hstate]
      exact hclock
    obtain ⟨results, hall, haccepts, hlength, hat⟩ := ih hnext hdesk
    obtain ⟨hresults, hlast⟩ := attemptAll_cons setup s rest S
    refine ⟨result :: results, ?_, hlast ▸ haccepts, by simp [hlength], fun i t ht => ?_⟩
    · rw [hresults, hall, hrun, hresult]
      rfl
    · cases i with
      | zero =>
        cases ht
        exact ⟨hd, rfl, rfl, result, rfl, hresult⟩
      | succ i =>
        obtain ⟨hdesk', hpages', hclock', result', hresult', hrun'⟩ := hat i t ht
        rw [List.take_succ_cons, (attemptAll_cons setup s (rest.take i) S).2]
        refine ⟨hdesk', ?_, ?_, result', hresult', hrun'⟩
        · rw [hpages', hpages, List.drop_drop, Nat.add_comm]
        · rw [hclock', htime]
          rfl

theorem allResults_of_ok (results : List ScenarioResult) :
    allResults (results.map .ok) = .ok results := by
  unfold allResults
  induction results with
  | nil => rfl
  | cons r rest ih =>
    rw [List.map_cons, List.mapM_cons, ih]
    rfl

/-- In a browser that accepts all calls, the results of all scenarios come back. -/
theorem runInBrowser_ready
    (hknown : browsers.contains setup.engine.settings.browser = true) (h : S.Accepts)
    (hd : setup.Ready S.desk) (scenarios : List Scenario) :
    ∃ results : List ScenarioResult,
      (attemptAll setup scenarios S).result = .ok (results.map .ok) ∧
        (runInBrowser setup scenarios S).result = .ok results := by
  obtain ⟨results, hall, haccepts, -, -⟩ := attemptAll_ready h hd scenarios
  refine ⟨results, hall, ?_⟩
  have hrunAll : (Act.bind (attemptAll setup scenarios) fun rs => Act.ofExcept (allResults rs)) S =
      (⟨.ok results, (attemptAll setup scenarios S).state, [], []⟩ :
        Outcome Session (List ScenarioResult)).after (attemptAll setup scenarios S) := by
    rw [Act.bind_of_ok hall, Act.ofExcept_eq, allResults_of_ok]
  have hlast : (call .closeBrowser ((Act.bind (attemptAll setup scenarios) fun rs =>
      Act.ofExcept (allResults rs)) S).state).result = .ok () := by
    rw [hrunAll, Outcome.after_state, call_of_accepts haccepts]
  unfold runInBrowser
  simp only [hknown, if_true, Act.bind_eq]
  rw [call_bind h, Outcome.after_result, (Act.thenAlways_of_ok hlast).1, hrunAll]
  rfl

/-- Where the event log of a run is kept. -/
def logPath (engine : Engine) (runId : String) : Path :=
  (engine.settings.logDir.child "events").child (runId ++ ".jsonl")

/-- A session in which a run meets no obstacle: there is such a browser and it accepts all calls,
and if reports are wanted, the event log can be opened and then the directory of reports made. -/
structure Works (engine : Engine) (runId : String) (wanted : Bool) (S : Session) : Prop where
  known : browsers.contains engine.settings.browser = true
  accepts : S.Accepts
  writable : wanted = true → ∃ desk slot,
    S.desk.openJournal runId (logPath engine runId) = .ok (desk, slot) ∧
      ∃ disk, desk.disk.ensurePath desk.cwd engine.settings.reportDir = .ok disk

variable {engine : Engine} {runId : String} {wanted : Bool}

theorem openJournal_eq {desk : Desk} {slot : Nat}
    (h : S.desk.openJournal runId (logPath engine runId) = .ok (desk, slot)) :
    openJournal engine.settings runId true S = ⟨.ok (some slot), { S with desk }, [], []⟩ := by
  unfold openJournal
  unfold logPath at h
  simp only [if_true, Act.bind_eq, Act.bind, Act.get, h]
  rfl

theorem openJournal_of_works (h : S.Works engine runId wanted) :
    ∃ desk journal, openJournal engine.settings runId wanted S =
        ⟨.ok journal, { S with desk }, [], []⟩ ∧
      Scenario.Setup.Ready { engine, runId, writeReports := wanted, journal } desk := by
  cases hwanted : wanted with
  | false => exact ⟨S.desk, none, rfl, by simp, by simp⟩
  | true =>
    obtain ⟨desk, slot, hopen, hdir⟩ := h.writable hwanted
    exact ⟨desk, some slot, openJournal_eq hopen, Desk.openJournal_ready hopen hdir⟩

theorem closeJournal_ok (journal : Option Nat) (S : Session) :
    (closeJournal journal S).result = .ok () := by
  cases journal <;> rfl

/-- Such a session gives a result for each scenario: that of running it behind those in front of
it. -/
theorem run_of_works (h : S.Works engine runId wanted) (scenarios : List Scenario) :
    ∃ desk journal summary,
      let setup : Scenario.Setup := { engine, runId, writeReports := wanted, journal }
      (run engine runId wanted scenarios S).result = .ok summary ∧
      summary.results.length = scenarios.length ∧
      ∀ i s, scenarios[i]? = some s →
        let before := (attemptAll setup (scenarios.take i) { S with desk }).state
        setup.Ready before.desk ∧ before.pages = S.pages.drop i ∧
          before.clock = ScenarioResult.endOf S.clock (summary.results.take i) ∧
          ∃ result, summary.results[i]? = some result ∧
            (s.run setup before.nextWalk).result = .ok result := by
  obtain ⟨desk, journal, hopen, hready⟩ := openJournal_of_works h
  have haccepts : Accepts { S with desk } := h.accepts
  obtain ⟨results, hall, hrun⟩ := runInBrowser_ready h.known haccepts hready scenarios
  obtain ⟨results', hall', -, hlength, hat⟩ := attemptAll_ready haccepts hready scenarios
  have hresults : results' = results := by
    rw [hall] at hall'
    exact (List.map_injective_iff.mpr (fun _ _ => Except.ok.inj) (Except.ok.inj hall')).symm
  rw [hresults] at hlength hat
  obtain ⟨hresult, -⟩ := Act.thenAlways_of_ok (closeJournal_ok journal (runInBrowser
    { engine, runId, writeReports := wanted, journal } scenarios { S with desk }).state)
  rw [hrun] at hresult
  have hsummary : ∃ duration, (run engine runId wanted scenarios S).result =
      .ok { runId, env := engine.settings.env, results, duration } := by
    have hget : ∀ (T : Session) (f : Session → Tour RunSummary),
        Act.bind Act.get f T = f T T := fun _ _ => rfl
    unfold run
    simp only [Act.bind_eq]
    rw [hget, Act.bind_of_ok (congrArg Outcome.result hopen), Outcome.after_result, hopen,
      Act.bind_of_ok hresult, Outcome.after_result, hget]
    exact ⟨_, rfl⟩
  obtain ⟨duration, hsummary⟩ := hsummary
  exact ⟨desk, journal, _, hsummary, hlength, hat⟩

end Session
end Walkthrough
