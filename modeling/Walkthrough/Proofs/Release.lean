import Walkthrough.Proofs.Archive
import Walkthrough.Proofs.Observers

/-!
What a run opens it closes. Whatever calls on the browser are refused and whatever becomes of the
scenarios, each context is closed before the next one is opened, and in the end the browser and the
event log are closed.
-/
namespace Walkthrough

namespace Act

variable {σ α : Type}

/-- What is done last leaves its marks behind the others, whatever has failed. -/
theorem thenAlways_trace (x : Act σ α) (last : Act σ Unit) (s : σ) :
    (thenAlways x last s).trace = (x s).trace ++ (last (x s).state).trace := by
  have hx : thenAlways x last s =
      (bind last (fun _ => ofExcept (x s).result) (x s).state).after (x s) := rfl
  have hlast : (bind last (fun _ => ofExcept (x s).result) (x s).state).trace =
      (last (x s).state).trace := by
    cases hr : (last (x s).state).result with
    | error e => rw [bind_of_error hr]
    | ok _ =>
      rw [bind_of_ok hr, ofExcept_eq]
      exact List.append_nil _
  rw [hx]
  exact congrArg ((x s).trace ++ ·) hlast

end Act

/-- A play that does not call on the browser itself. -/
def OffBrowser {α : Type} (x : Play α) : Prop := Act.Leaves (·.browserCall? = none) x

/-- Handlers that do not call on the browser themselves. -/
def Plugins.OffBrowser (p : Plugins) : Prop :=
  p.All (Handler.Has Walkthrough.OffBrowser) (Handler.Has Walkthrough.OffBrowser)

theorem offBrowser_closed : Play.Closed (fun _ => True) (fun {_} x => OffBrowser x) where
  toClosedFor := (Act.closed_leaves _).closedFor
  supported _ _ := trivial
  mark _ hoff _ m hm := by
    cases List.mem_singleton.mp hm
    exact hoff
  change _ _ _ hm := nomatch hm
  pass _ _ _ hm := nomatch hm
  look _ hs s := hs s s

/-- The handlers of an engine leave the browser alone if those of its modules do. -/
theorem Bundled.offBrowser_build {modules : Plugins.Modules} {names : List String} {p : Plugins}
    (hmodules : ∀ name rs, modules name = some (.offers rs) →
      ∀ r ∈ rs, Plugins.Registers (Handler.Has OffBrowser) (Handler.Has OffBrowser) r)
    (h : Plugins.build registrations modules names = .ok p) : p.OffBrowser :=
  all_build offBrowser_closed hmodules h

/-- The calls on the browser among some marks. -/
def browserCalls (trace : List Mark) : List BrowserCall := trace.filterMap Mark.browserCall?

namespace Scenario

variable {setup : Setup} {s : Scenario}

theorem offBrowser_change (f : Recorder → Int → Recorder) (event : RecorderEvent)
    (record : Recorder → Option StepRecord) :
    Act.Leaves (·.browserCall? = none) (Recorder.change f event record) := by
  intro w m hm
  have hrecorder := Recorder.change_trace f event record w m hm
  cases m with
  | browser c => cases hrecorder
  | _ => rfl

/-- A scenario whose handlers leave the browser alone does so. -/
theorem offBrowser_run (h : setup.engine.plugins.OffBrowser) (s : Scenario) :
    Act.Leaves (·.browserCall? = none) (s.run setup) := by
  have hP := Act.closed_leaves (σ := Walk) (·.browserCall? = none)
  have htouches : setup.engine.Touches (Act.Leaves (·.browserCall? = none)) :=
    Engine.touches_of_handlers offBrowser_closed h fun hx w => hx w.scene
  have hdrive : Act.Leaves (·.browserCall? = none) (drive setup.engine s.steps (context setup s)) :=
    closed_drive_of_deaf hP htouches (fun _ => offBrowser_change _ _ _)
      (fun _ _ hm => nomatch hm) s.steps (context setup s)
  have hsilent : ∀ {α : Type} {x : Run α}, (∀ w, (x w).trace = []) →
      Act.Leaves (·.browserCall? = none) x := by
    intro α x hx w m hm
    rw [hx] at hm
    cases hm
  have hrecorded : ∀ report, Act.Leaves (·.browserCall? = none) (recorded setup s report) := by
    intro report
    apply hP.bind (offBrowser_change _ _ _)
    intro _
    apply hP.bind (hsilent fun _ => rfl)
    intro started
    apply hP.bind (hP.attempt hdrive)
    intro r
    apply hP.bind (offBrowser_change _ _ _)
    intro _
    exact hP.bind (hsilent fun _ => rfl) fun a => hP.bind (hsilent fun _ => rfl) fun _ => hP.pure _
  have hrun : ∀ ls report, Act.Leaves (·.browserCall? = none) (runRecorded setup s ls report) := by
    intro ls report w m hm
    obtain ⟨-, -, htrace⟩ := runRecorded_recorded setup s ls report w
    rw [htrace] at hm
    exact hrecorded report _ m hm
  apply hP.bind (hsilent fun w => (startReport_desk setup s w).2)
  intro report
  exact hrun _ _

end Scenario

/-- What a run does with a browser, one thing after the other: it calls on the browser, or it visits
a page with a scenario, which leaves marks of its own. -/
inductive Passage where
  | call (c : BrowserCall)
  | visit (marks : List Mark)

namespace Passage

def marks : Passage → List Mark
  | call c => [.browser c]
  | visit marks => marks

def call? : Passage → Option BrowserCall
  | call c => some c
  | visit _ => none

/-- The calls of a run, without what scenarios leave. -/
def calls (passages : List Passage) : List BrowserCall := passages.filterMap call?

theorem calls_append (ps qs : List Passage) : calls (ps ++ qs) = calls ps ++ calls qs :=
  List.filterMap_append

/-- Where scenarios leave the browser alone, the calls on it are those of the run. -/
theorem browserCalls_marks {passages : List Passage}
    (h : ∀ ms, visit ms ∈ passages → ∀ m ∈ ms, m.browserCall? = none) :
    browserCalls (passages.flatMap marks) = calls passages := by
  induction passages with
  | nil => rfl
  | cons p rest ih =>
    have hrest := ih fun ms hms => h ms (List.mem_cons_of_mem p hms)
    rw [List.flatMap_cons, browserCalls, List.filterMap_append]
    cases p with
    | call c => exact congrArg (c :: ·) hrest
    | visit ms =>
      have hnone : (visit ms).marks.filterMap Mark.browserCall? = [] :=
        List.filterMap_eq_nil_iff.mpr (h ms List.mem_cons_self)
      rw [hnone]
      exact hrest

end Passage

namespace Session

variable {S : Session} {α β : Type}

/-- The browser does not refuse such calls. -/
def Grants (S : Session) (c : BrowserCall) : Prop := namedValue? S.refusals c.name = none

theorem call_cases (c : BrowserCall) (S : Session) :
    S.Grants c ∧ call c S = ⟨.ok (), S, [.browser c], []⟩ ∨
      ¬ S.Grants c ∧ ∃ e, call c S = ⟨.error e, S, [.browser c], []⟩ := by
  unfold Grants call
  simp only [Act.bind_eq, Act.bind, Act.mark, Act.get]
  cases h : namedValue? S.refusals c.name with
  | none => exact Or.inl ⟨rfl, rfl⟩
  | some message => exact Or.inr ⟨Option.some_ne_none message, .page message, rfl⟩

/-- What an act of a session does with the browser: these things, of which the visits leave marks of
a kind. What the browser refuses is the same afterwards. -/
structure Tours (visits : List Mark → Prop) (x : Tour α) (S : Session) (passages : List Passage) :
    Prop where
  trace : (x S).trace = passages.flatMap Passage.marks
  refusals : (x S).state.refusals = S.refusals
  visits : ∀ ms, .visit ms ∈ passages → visits ms

section Tours

variable {visits : List Mark → Prop} {x : Tour α} {f : α → Tour β} {ps qs : List Passage}

/-- An act that leaves no marks and has nothing to do with refusals. -/
theorem tours_nil (htrace : (x S).trace = []) (hrefusals : (x S).state.refusals = S.refusals) :
    Tours visits x S [] :=
  ⟨htrace, hrefusals, nofun⟩

theorem Tours.bind_of_error {e : Failure} (h : Tours visits x S ps) (he : (x S).result = .error e) :
    Tours visits (Act.bind x f) S ps := by
  have hbind : Act.bind x f S = _ := Act.bind_of_error he
  refine ⟨?_, ?_, h.visits⟩
  · rw [hbind]
    exact h.trace
  · rw [hbind]
    exact h.refusals

theorem Tours.bind_of_ok {a : α} (h : Tours visits x S ps) (ha : (x S).result = .ok a)
    (hf : Tours visits (f a) (x S).state qs) : Tours visits (Act.bind x f) S (ps ++ qs) := by
  have hbind : Act.bind x f S = _ := Act.bind_of_ok ha
  refine ⟨?_, ?_, ?_⟩
  · rw [hbind, List.flatMap_append, ← h.trace, ← hf.trace]
    rfl
  · rw [hbind]
    exact hf.refusals.trans h.refusals
  · intro ms hms
    rcases List.mem_append.mp hms with hms | hms
    · exact h.visits ms hms
    · exact hf.visits ms hms

theorem Tours.thenAlways {last : Tour Unit} (h : Tours visits x S ps)
    (hlast : Tours visits last (x S).state qs) :
    Tours visits (Act.thenAlways x last) S (ps ++ qs) := by
  refine ⟨?_, ?_, ?_⟩
  · rw [Act.thenAlways_trace, h.trace, hlast.trace, List.flatMap_append]
  · rw [(Act.thenAlways_cases x last S).1]
    exact hlast.refusals.trans h.refusals
  · intro ms hms
    rcases List.mem_append.mp hms with hms | hms
    · exact h.visits ms hms
    · exact hlast.visits ms hms

theorem tours_call (c : BrowserCall) (S : Session) : Tours visits (call c) S [.call c] := by
  have hvisits : ∀ ms, Passage.visit ms ∈ [Passage.call c] → visits ms := by
    intro ms hms
    cases List.mem_singleton.mp hms
  obtain ⟨-, hcall⟩ | ⟨-, e, hcall⟩ := call_cases c S
  · exact ⟨by rw [hcall]; rfl, by rw [hcall], hvisits⟩
  · exact ⟨by rw [hcall]; rfl, by rw [hcall], hvisits⟩

/-- What follows does not matter for the browser. -/
theorem Tours.bind_silent (h : Tours visits x S ps)
    (hf : ∀ a T, (f a T).trace = [] ∧ (f a T).state.refusals = T.refusals) :
    Tours visits (Act.bind x f) S ps := by
  cases hr : (x S).result with
  | error e => exact h.bind_of_error hr
  | ok a =>
    obtain ⟨htrace, hrefusals⟩ := hf a (x S).state
    have hbind := h.bind_of_ok hr (tours_nil htrace hrefusals)
    rwa [List.append_nil] at hbind

/-- What follows a call follows it where the call is granted. -/
theorem tours_call_bind {c : BrowserCall} {f : Unit → Tour α} {Q : List Passage → Prop}
    (h : S.Grants c → ∃ ps, Tours visits (f ()) S ps ∧ Q ps) :
    ∃ ps, Tours visits (Act.bind (call c) f) S (.call c :: ps) ∧
      (¬ S.Grants c ∧ ps = [] ∨ S.Grants c ∧ Q ps) := by
  have hc : Tours visits (call c) S [.call c] := tours_call c S
  obtain ⟨hgrants, hcall⟩ | ⟨hrefuses, e, hcall⟩ := call_cases c S
  · obtain ⟨ps, hps, hQ⟩ := h hgrants
    have hok : (call c S).result = .ok () := by rw [hcall]
    have hstate : (call c S).state = S := by rw [hcall]
    refine ⟨ps, hc.bind_of_ok hok ?_, Or.inr ⟨hgrants, hQ⟩⟩
    rw [hstate]
    exact hps
  · have herror : (call c S).result = .error e := by rw [hcall]
    exact ⟨[], hc.bind_of_error herror, Or.inl ⟨hrefuses, rfl⟩⟩

/-- An act that makes these calls on the browser, or only the first ones of them. -/
def MakesSome (visits : List Mark → Prop) (x : Tour α) (S : Session) (cs : List BrowserCall) :
    Prop :=
  ∃ ps, Tours visits x S ps ∧ Passage.calls ps <+: cs

theorem makesSome_call_bind {c : BrowserCall} {cs : List BrowserCall} {f : Unit → Tour α}
    (h : MakesSome visits (f ()) S cs) : MakesSome visits (Act.bind (call c) f) S (c :: cs) := by
  obtain ⟨ps, hps, hcalls⟩ := tours_call_bind fun _ => h
  refine ⟨_, hps, ?_⟩
  rcases hcalls with ⟨-, rfl⟩ | ⟨-, hprefix⟩
  · exact List.prefix_append [c] cs
  · exact List.cons_prefix_cons.mpr ⟨rfl, hprefix⟩

end Tours

/-- The calls by which a scenario gets a page. -/
def pageCalls (settings : Settings) : List BrowserCall :=
  [.newPage, .setTimeout settings.actionTimeout, .setNavigationTimeout settings.navigationTimeout]

/-- The calls for scenarios that run one after the other: for each one a context that is refused, or
one that is opened, perhaps gets a page, and is closed. -/
inductive Stays (grants : BrowserCall → Prop) (settings : Settings) : List BrowserCall → Prop
  | ended : Stays grants settings []
  | refused {base calls} (hrefused : ¬ grants (.newContext base))
      (hrest : Stays grants settings calls) : Stays grants settings (.newContext base :: calls)
  | held {base front calls} (hgranted : grants (.newContext base))
      (hfront : front <+: pageCalls settings) (hrest : Stays grants settings calls) :
      Stays grants settings (.newContext base :: (front ++ .closeContext :: calls))

/-- The calls of a run: none, only a launch that is refused, or those for its scenarios in a browser
that is launched and closed. -/
inductive Conducts (grants : BrowserCall → Prop) (settings : Settings) : List BrowserCall → Prop
  | nothing : Conducts grants settings []
  | refused {headless} (hrefused : ¬ grants (.launch headless)) :
      Conducts grants settings [.launch headless]
  | launched {headless calls} (hgranted : grants (.launch headless))
      (hstays : Stays grants settings calls) :
      Conducts grants settings (.launch headless :: (calls ++ [.closeBrowser]))

section Visits

variable {setup : Scenario.Setup} {s : Scenario} {scenarios : List Scenario}
  {visits : List Mark → Prop}

theorem makesSome_onPage (hs : ∀ w, visits (s.run setup w).trace) (page : Page) (S : Session) :
    MakesSome visits (onPage page (s.run setup)) S [] := by
  refine ⟨[.visit (s.run setup ⟨⟨page, S.clock⟩, none, S.desk⟩).trace], ?_, List.nil_prefix⟩
  refine ⟨(List.append_nil _).symm, rfl, ?_⟩
  intro ms hms
  cases List.mem_singleton.mp hms
  exact hs _

theorem makesSome_runOnNewPage (hs : ∀ w, visits (s.run setup w).trace) (S : Session) :
    MakesSome visits (runOnNewPage setup s) S (pageCalls setup.engine.settings) := by
  have hpage : ∀ (page : Page) (T : Session), MakesSome visits
      (Act.bind (call (.setTimeout setup.engine.settings.actionTimeout)) fun _ =>
        Act.bind (call (.setNavigationTimeout setup.engine.settings.navigationTimeout)) fun _ =>
          onPage page (s.run setup)) T _ := fun page T =>
    makesSome_call_bind (makesSome_call_bind (makesSome_onPage hs page T))
  unfold runOnNewPage openPage
  simp only [Act.bind_eq, Act.bind_assoc]
  apply makesSome_call_bind
  obtain ⟨ps, hps, hcalls⟩ := hpage (S.pages.head?.getD {}) { S with pages := S.pages.drop 1 }
  exact ⟨ps, ⟨hps.trace, hps.refusals, hps.visits⟩, hcalls⟩

/-- A context that is opened for a scenario is closed behind it. -/
theorem tours_runInContext (hs : ∀ w, visits (s.run setup w).trace) (S : Session) :
    ∃ ps, Tours visits (runInContext setup s) S ps ∧
      ∀ calls, Stays S.Grants setup.engine.settings calls →
        Stays S.Grants setup.engine.settings (Passage.calls ps ++ calls) := by
  obtain ⟨front, hfront, hprefix⟩ := makesSome_runOnNewPage hs S
  have hclosed : Tours visits (Act.thenAlways (runOnNewPage setup s) (call .closeContext)) S
      (front ++ [.call .closeContext]) := hfront.thenAlways (tours_call _ _)
  obtain ⟨ps, hps, hcalls⟩ := tours_call_bind
    (c := .newContext (if setup.engine.settings.baseUrl = "" then none
      else some setup.engine.settings.baseUrl))
    (f := fun _ => Act.thenAlways (runOnNewPage setup s) (call .closeContext))
    (Q := fun ps => ps = front ++ [.call .closeContext])
    fun _ => ⟨_, hclosed, rfl⟩
  refine ⟨_, hps, ?_⟩
  intro calls hcalls'
  rcases hcalls with ⟨hrefused, rfl⟩ | ⟨hgranted, rfl⟩
  · exact .refused hrefused hcalls'
  · have hheld := Stays.held hgranted hprefix hcalls'
    have hsame : Passage.calls (front ++ [.call .closeContext]) ++ calls =
        Passage.calls front ++ .closeContext :: calls := by
      rw [Passage.calls_append, List.append_assoc]
      rfl
    rw [← hsame] at hheld
    exact hheld

theorem tours_attemptAll (hs : ∀ s ∈ scenarios, ∀ w, visits (s.run setup w).trace) (S : Session) :
    ∃ ps, Tours visits (attemptAll setup scenarios) S ps ∧
      Stays S.Grants setup.engine.settings (Passage.calls ps) := by
  induction scenarios generalizing S with
  | nil => exact ⟨[], tours_nil rfl rfl, .ended⟩
  | cons s rest ih =>
    obtain ⟨ps, hps, hstays⟩ := tours_runInContext (hs s List.mem_cons_self) S
    obtain ⟨qs, hqs, hrest⟩ := ih (fun t ht => hs t (List.mem_cons_of_mem s ht))
      (runInContext setup s S).state
    have hgrants : (runInContext setup s S).state.Grants = S.Grants := by
      unfold Grants
      rw [hps.refusals]
    rw [hgrants] at hrest
    refine ⟨ps ++ qs, ?_, ?_⟩
    · have hattempt : Tours visits (Act.attempt (runInContext setup s)) S ps :=
        ⟨hps.trace, hps.refusals, hps.visits⟩
      have hothers : Tours visits (Act.bind (attemptAll setup rest) fun others =>
          Act.pure ((runInContext setup s S).result :: others)) (runInContext setup s S).state qs :=
        hqs.bind_silent fun _ _ => ⟨rfl, rfl⟩
      exact hattempt.bind_of_ok (f := fun r => Act.bind (attemptAll setup rest) fun others =>
        Act.pure (r :: others)) rfl hothers
    · rw [Passage.calls_append]
      exact hstays _ hrest

/-- A browser that is launched is closed behind all scenarios. -/
theorem tours_runInBrowser (hs : ∀ s ∈ scenarios, ∀ w, visits (s.run setup w).trace)
    (S : Session) : ∃ ps, Tours visits (runInBrowser setup scenarios) S ps ∧
      Conducts S.Grants setup.engine.settings (Passage.calls ps) := by
  obtain ⟨ps, hps, hstays⟩ := tours_attemptAll hs S
  let runAll : Tour (List ScenarioResult) :=
    Act.bind (attemptAll setup scenarios) fun rs => Act.ofExcept (allResults rs)
  have hall : Tours visits runAll S ps :=
    hps.bind_silent fun _ _ => by rw [Act.ofExcept_eq]; exact ⟨rfl, rfl⟩
  unfold runInBrowser
  dsimp only
  split
  · obtain ⟨qs, hqs, hcalls⟩ := tours_call_bind
      (c := .launch setup.engine.settings.headless)
      (f := fun _ => Act.thenAlways runAll (call .closeBrowser))
      (Q := fun qs => qs = ps ++ [.call .closeBrowser])
      fun _ => ⟨_, hall.thenAlways (tours_call .closeBrowser _), rfl⟩
    refine ⟨_, hqs, ?_⟩
    rcases hcalls with ⟨hrefused, rfl⟩ | ⟨hgranted, rfl⟩
    · exact .refused hrefused
    · have hlaunched := Conducts.launched hgranted hstays
      have hsame : Passage.calls (ps ++ [.call .closeBrowser]) =
          Passage.calls ps ++ [.closeBrowser] := Passage.calls_append ps [.call .closeBrowser]
      rw [← hsame] at hlaunched
      exact hlaunched
  · exact ⟨[], tours_nil rfl rfl, .nothing⟩

variable {engine : Engine} {runId : String} {wanted : Bool}

theorem tours_openJournal (settings : Settings) (runId : String) (wanted : Bool) (S : Session) :
    Tours visits (openJournal settings runId wanted) S [] := by
  unfold openJournal
  cases wanted with
  | false => exact tours_nil rfl rfl
  | true =>
    simp only [if_true, Act.bind_eq]
    cases h : S.desk.openJournal runId
        ((settings.logDir.child "events").child (runId ++ ".jsonl")) with
    | error e => apply tours_nil <;> simp only [Act.bind, Act.get, Act.ofExcept, h] <;> rfl
    | ok opened => apply tours_nil <;> simp only [Act.bind, Act.get, Act.ofExcept, h] <;> rfl

theorem tours_closeJournal (journal : Option Nat) (S : Session) :
    Tours visits (closeJournal journal) S [] := by
  cases journal with
  | none => exact tours_nil rfl rfl
  | some slot => exact tours_nil rfl rfl

theorem tours_run (hs : ∀ s ∈ scenarios, ∀ journal w,
      visits (s.run { engine, runId, writeReports := wanted, journal } w).trace) (S : Session) :
    ∃ ps, Tours visits (run engine runId wanted scenarios) S ps ∧
      Conducts S.Grants engine.settings (Passage.calls ps) := by
  have hopen : Tours visits (openJournal engine.settings runId wanted) S [] :=
    tours_openJournal engine.settings runId wanted S
  -- What stands behind the opening of the event log, from the session that it leaves.
  let rest : Option Nat → Tour RunSummary := fun journal =>
    Act.bind (Act.thenAlways
      (runInBrowser { engine, runId, writeReports := wanted, journal } scenarios)
      (closeJournal journal)) fun results => Act.bind Act.get fun T =>
        Act.pure { runId, env := engine.settings.env, results, duration := T.clock - S.clock }
  have hrun : run engine runId wanted scenarios S =
      Act.bind (openJournal engine.settings runId wanted) rest S := rfl
  suffices h : ∃ ps, Tours visits (Act.bind (openJournal engine.settings runId wanted) rest) S ps ∧
      Conducts S.Grants engine.settings (Passage.calls ps) by
    obtain ⟨ps, hps, hconducts⟩ := h
    exact ⟨ps, ⟨hrun ▸ hps.trace, hrun ▸ hps.refusals, hps.visits⟩, hconducts⟩
  cases hr : (openJournal engine.settings runId wanted S).result with
  | error e => exact ⟨[], hopen.bind_of_error hr, .nothing⟩
  | ok journal =>
    obtain ⟨ps, hps, hconducts⟩ := tours_runInBrowser (fun s hs' => hs s hs' journal)
      (openJournal engine.settings runId wanted S).state
    have hgrants : (openJournal engine.settings runId wanted S).state.Grants = S.Grants := by
      unfold Grants
      rw [hopen.refusals]
    rw [hgrants] at hconducts
    have hclosed := hps.thenAlways (tours_closeJournal journal _)
    rw [List.append_nil] at hclosed
    have hrest : Tours visits (rest journal)
        (openJournal engine.settings runId wanted S).state ps :=
      hclosed.bind_silent fun _ _ => ⟨rfl, rfl⟩
    exact ⟨ps, hopen.bind_of_ok hr hrest, hconducts⟩

end Visits

end Session

def BrowserCall.isNewContext : BrowserCall → Bool
  | newContext _ => true
  | _ => false

namespace Session

/-- How many calls close a context before the next one is opened. -/
def closings (calls : List BrowserCall) : Nat :=
  (calls.takeWhile fun c => !c.isNewContext).count .closeContext

/-- Calls that leave nothing open: behind each context that is opened there is one call that closes
it before the next context, behind one that is refused there is none, and the last call of all
closes the browser if it was launched. -/
structure Released (grants : BrowserCall → Prop) (calls : List BrowserCall) : Prop where
  opened : ∀ before base after, calls = before ++ .newContext base :: after →
    grants (.newContext base) → closings after = 1
  refused : ∀ before base after, calls = before ++ .newContext base :: after →
    ¬ grants (.newContext base) → closings after = 0
  launched : ∀ headless, .launch headless ∈ calls → grants (.launch headless) →
    ∃ front, calls = front ++ [.closeBrowser] ∧ .closeBrowser ∉ front
  unlaunched : (∀ headless, .launch headless ∈ calls → ¬ grants (.launch headless)) →
    .closeBrowser ∉ calls

variable {grants : BrowserCall → Prop} {settings : Settings} {calls : List BrowserCall}

theorem exists_of_append_eq {α : Type} {xs ys before after : List α} {x : α}
    (h : xs ++ ys = before ++ x :: after) (hx : x ∉ xs) :
    ∃ before', ys = before' ++ x :: after := by
  rcases List.append_eq_append_iff.mp h with ⟨between, -, hys⟩ | ⟨between, hxs, hrest⟩
  · exact ⟨between, hys⟩
  · cases between with
    | nil => exact ⟨[], hrest.symm⟩
    | cons y between =>
      cases hrest
      exact absurd (hxs ▸ List.mem_append_right before List.mem_cons_self) hx

theorem mem_pageCalls {front : List BrowserCall} (h : front <+: pageCalls settings)
    {c : BrowserCall} (hc : c ∈ front) :
    c.isNewContext = false ∧ c ≠ .closeContext ∧ c ≠ .closeBrowser := by
  have hmem := h.subset hc
  simp only [pageCalls, List.mem_cons, List.not_mem_nil, or_false] at hmem
  rcases hmem with rfl | rfl | rfl <;> exact ⟨rfl, nofun, nofun⟩

theorem Stays.no_closeBrowser (h : Stays grants settings calls) :
    BrowserCall.closeBrowser ∉ calls := by
  induction h with
  | ended => exact nofun
  | refused _ _ ih => simpa using ih
  | held _ hfront _ ih =>
    have hnone : BrowserCall.closeBrowser ∉ _ := fun hc => (mem_pageCalls hfront hc).2.2 rfl
    simp [hnone, ih]

theorem Stays.closings_next (h : Stays grants settings calls) :
    closings (calls ++ [.closeBrowser]) = 0 := by
  cases h <;> rfl

theorem Stays.closings_held {front : List BrowserCall} (hfront : front <+: pageCalls settings)
    (h : Stays grants settings calls) :
    closings (front ++ .closeContext :: calls ++ [.closeBrowser]) = 1 := by
  have hpass : ∀ c ∈ front, (!c.isNewContext) = true := by
    intro c hc
    rw [(mem_pageCalls hfront hc).1]
    rfl
  have hnone : front.count .closeContext = 0 :=
    List.count_eq_zero.mpr fun hc => (mem_pageCalls hfront hc).2.1 rfl
  have hnext := h.closings_next
  unfold closings at hnext ⊢
  rw [List.append_assoc, List.takeWhile_append_of_pos hpass, List.count_append, hnone, Nat.zero_add]
  exact (List.count_cons_self).trans (congrArg (· + 1) hnext)

/-- A context is closed once before the next one if it was opened, and else not at all. -/
theorem Stays.closings (h : Stays grants settings calls) (before : List BrowserCall)
    {base : Option String} {after : List BrowserCall}
    (heq : calls ++ [.closeBrowser] = before ++ .newContext base :: after) :
    grants (.newContext base) ∧ closings after = 1 ∨
      ¬ grants (.newContext base) ∧ closings after = 0 := by
  induction h generalizing before with
  | ended =>
    cases before with
    | nil => cases heq
    | cons c before => cases before <;> cases heq
  | refused hrefused hrest ih =>
    cases before with
    | nil =>
      cases heq
      exact Or.inr ⟨hrefused, hrest.closings_next⟩
    | cons c before => exact ih before (List.cons.inj heq).2
  | @held _ front calls hgranted hfront hrest ih =>
    cases before with
    | nil =>
      cases heq
      exact Or.inl ⟨hgranted, Stays.closings_held hfront hrest⟩
    | cons c before =>
      have hrest : (front ++ [.closeContext]) ++ (calls ++ [.closeBrowser]) =
          before ++ .newContext base :: after := by
        refine Eq.trans ?_ (List.cons.inj heq).2
        simp
      -- The calls for this stay open no other context, so the next one is among those behind them.
      have hnone : .newContext base ∉ front ++ [.closeContext] := by
        intro hc
        rcases List.mem_append.mp hc with hc | hc
        · cases (mem_pageCalls hfront hc).1
        · cases List.mem_singleton.mp hc
      obtain ⟨before', hbefore'⟩ := exists_of_append_eq hrest hnone
      exact ih before' hbefore'

theorem Conducts.closings (h : Conducts grants settings calls) {before : List BrowserCall}
    {base : Option String} {after : List BrowserCall}
    (heq : calls = before ++ .newContext base :: after) :
    grants (.newContext base) ∧ closings after = 1 ∨
      ¬ grants (.newContext base) ∧ closings after = 0 := by
  cases h with
  | nothing => cases before <;> cases heq
  | refused _ =>
    cases before with
    | nil => cases heq
    | cons c before => cases before <;> cases heq
  | launched _ hstays =>
    cases before with
    | nil => cases heq
    | cons c before => exact hstays.closings before (List.cons.inj heq).2

/-- A run that conducts itself so leaves nothing open. -/
theorem Conducts.released (h : Conducts grants settings calls) : Released grants calls := by
  refine ⟨?_, ?_, ?_, ?_⟩
  · intro before base after heq hopened
    rcases h.closings heq with ⟨-, hone⟩ | ⟨hrefused, -⟩
    · exact hone
    · exact absurd hopened hrefused
  · intro before base after heq hrefused
    rcases h.closings heq with ⟨hopened, -⟩ | ⟨-, hnone⟩
    · exact absurd hopened hrefused
    · exact hnone
  · intro headless hmem hlaunched
    cases h with
    | nothing => cases hmem
    | refused hrefused =>
      cases List.mem_singleton.mp hmem
      exact absurd hlaunched hrefused
    | @launched headless' calls' _ hstays =>
      refine ⟨.launch headless' :: calls', rfl, ?_⟩
      simpa using hstays.no_closeBrowser
  · intro hrefused
    cases h with
    | nothing => exact nofun
    | refused _ => simp
    | launched hgranted _ => exact absurd hgranted (hrefused _ List.mem_cons_self)

section Run

variable {S : Session} {engine : Engine} {runId : String} {desk : Desk} {slot : Nat}

/-- A run that has opened its event log leaves it closed, whether it gives a result or fails. -/
theorem run_closes_log (scenarios : List Scenario)
    (h : S.desk.openJournal runId (logPath engine runId) = .ok (desk, slot)) :
    ∃ j, (run engine runId true scenarios S).state.desk.journals[slot]? = some j ∧
      j.path = logPath engine runId ∧ j.isOpen = false := by
  obtain ⟨old, -, hlogged⟩ := openJournal_logged h
  have hclosed : ∀ d : Desk, desk.SameLogs d →
      ∃ j, (d.closeJournal slot).journals[slot]? = some j ∧
        j.path = logPath engine runId ∧ j.isOpen = false := by
    intro d hd
    obtain ⟨j, hj, hpath, -⟩ := hd.journal hlogged.journal
    dsimp only at hpath
    unfold Desk.closeJournal
    rw [List.getElem?_modify_eq, hj]
    exact ⟨_, rfl, hpath, rfl⟩
  obtain ⟨-, hdesk⟩ | ⟨hdesk, -⟩ := run_of_openJournal scenarios h
  · rw [hdesk]
    exact hclosed desk rfl
  · rw [hdesk]
    apply hclosed
    exact attemptAll_within (Scenario.run_sameLogs _) scenarios { S with desk }

end Run

end Session
end Walkthrough
