import Walkthrough.Proofs.Loaded
import Walkthrough.Proofs.Places
import Walkthrough.Proofs.Plays
import Walkthrough.Proofs.Registry
import Walkthrough.Proofs.ScenarioRun

/-!
Loaded scenarios name nothing that the engine does not know: their runs fail for want of support only
if a handler of a plugin fails so itself.
-/
namespace Walkthrough

/-- The handler of a custom step among some steps fails with a failure, in some context, on some
element of some page. -/
def Engine.RaisedByAction (engine : Engine) (steps : List Step) (e : Failure) : Prop :=
  ∃ s ∈ steps, ∃ name data h, s.action = .custom name data ∧
    engine.plugins.action (some name) = .ok h ∧
    ∃ ctx element scene, (h.run s ctx element scene).result = .error e

/-- Somebody who is told of what is recorded fails with a failure. -/
def Walk.RaisedByListener (w : Walk) (e : Failure) : Prop :=
  ∃ r ∈ w.recorder, ∃ l ∈ r.listeners, ∃ n d, (l n d).2 = .error e

/-- The listeners of a walk are still those of another one. -/
def Walk.SameListeners (w v : Walk) : Prop :=
  v.recorder.map Recorder.listeners = w.recorder.map Recorder.listeners

namespace Act

variable {σ α : Type} {I : σ → Prop} {E : Failure → Prop}

theorem failsBy_unlogged {x : Act σ α} : FailsBy I E (unlogged x) ↔ FailsBy I E x := Iff.rfl

end Act

/-- Failures on the page alone are those of plays that only fail in the allowed ways. -/
theorem Play.closed_failsBy {E : Failure → Prop} (hE : ∀ e, ¬ e.Unsupported → E e) :
    Play.Closed E (Act.FailsBy (fun _ => True) E) where
  toClosedFor := Act.closedFor_failsBy _ E
  supported := hE
  mark _ _ _ _ := ⟨trivial, fun _ he => by cases he⟩
  change _ _ _ := ⟨trivial, fun _ he => by cases he⟩
  pass _ _ _ := ⟨trivial, fun _ he => by cases he⟩
  look _ hf s _ := hf s s trivial

namespace Recorder

variable {E : Failure → Prop} {f : Recorder → Int → Recorder} {event : RecorderEvent}
  {record : Recorder → Option StepRecord}

theorem each_tell_error {ls : List Listener} {n : Notice} {d : Desk} {e : Failure}
    (h : (Act.each ls (tell n) d).result = .error e) :
    ∃ l ∈ ls, ∃ n d, (l n d).2 = .error e := by
  have htell : ∀ l ∈ ls, Act.FailsBy (fun _ => True)
      (fun e => ∃ l ∈ ls, ∃ n d, (l n d).2 = .error e) (tell n l) := by
    intro l hl d _
    refine ⟨trivial, fun e he => ⟨l, hl, n, d, ?_⟩⟩
    unfold tell at he
    split at he
    · cases he
    · rename_i d' e' hraised
      split at he
      · cases he
      · cases he
        rw [hraised]
  exact ((Act.closedFor_failsBy _ _).each htell d trivial).2 e h

/-- Recording fails only where a listener does. -/
theorem failsBy_change (hf : Deaf f record) {w : Walk}
    (hE : ∀ e, w.RaisedByListener e → E e) :
    Act.FailsBy w.SameListeners E (change f event record) := by
  intro v hv
  cases hr : v.recorder with
  | none =>
    rw [change_of_none hr]
    exact ⟨hv, fun _ he => by cases he⟩
  | some r =>
    rw [change_of_some hr, emit_eq]
    have hsame : w.recorder.map Recorder.listeners = some r.listeners := by
      rw [← hv, hr]
      rfl
    refine ⟨?_, fun e he => hE e ?_⟩
    · show some (f r v.scene.clock).listeners = _
      rw [hf.listeners, hsame]
    · obtain ⟨r', hr', hlisteners⟩ := Option.map_eq_some_iff.mp hsame
      obtain ⟨l, hl, n, d, hraised⟩ := each_tell_error he
      rw [hf.listeners, ← hlisteners] at hl
      exact ⟨r', hr', l, hl, n, d, hraised⟩

theorem failsBy_skip {w : Walk} (hE : ∀ e, w.RaisedByListener e → E e) (title : String) :
    Act.FailsBy w.SameListeners E (skip title) :=
  failsBy_change (deaf_skipping title) hE

end Recorder

/-- Whatever a handler of a check fails with, the check does not fail for want of support. -/
theorem Check.supported_ofHandler (c : Check) (e : Failure) : ¬ (c.ofHandler e).Unsupported := by
  have hreport : ∀ details, ¬ (c.failedReport e details).Unsupported := fun details =>
    Failure.supported_engineError (by decide) _ _
  unfold ofHandler
  split
  · rename_i x
    split
    · rename_i hasIs
      rintro (hfault | hfault) <;> simp [hfault, isReportedAsIs] at hasIs
    · exact hreport _
  · exact hreport _

theorem Context.supported_suffix (c : Context) : Supported c.suffix := by
  unfold suffix
  split
  · refine Supported.map ?_ _
    unfold next
    split
    · exact supported_ok _
    · exact supported_ok _
    · exact supported_ok _
    · exact supported_error id
    · exact supported_error id
    · exact supported_error id
  · exact supported_ok ""

section Running

variable {engine : Engine} {steps : List Step} {ctx : Context} {I : Walk → Prop}
  {E : Failure → Prop} {w : Walk}

theorem Run.failsBy_onScene {α : Type} {x : Play α} (hx : Act.FailsBy (fun _ => True) E x) :
    Act.FailsBy w.SameListeners E (Run.onScene x) :=
  fun v hv => ⟨hv, (hx v.scene trivial).2⟩

/-- A run of steps fails only as the steps do, each on the element of its own selector, or for want
of elements or in recording steps that are skipped. -/
theorem Scenario.failsBy_drive (hfew : ∀ e : Failure, e.TooFew → E e)
    (hskip : ∀ title, Act.FailsBy I E (Recorder.skip title))
    (honce : ∀ s ∈ steps, ∀ index c,
      Act.FailsBy I E (s.runOnce engine (Query.ofStep? s index) c)) :
    Act.FailsBy I E (drive engine steps ctx) := by
  have hI := Act.closedFor_failsBy I E
  have hgiveUp : ∀ behind e, E e → Act.FailsBy I E (giveUp behind e : Run Unit) := fun behind e he =>
    hI.bind (Act.failsBy_unlogged.mpr (hI.each fun s _ => hskip s.title)) fun _ => hI.fail he
  have hvisit : ∀ v : Visit, v.step ∈ steps → (∃ index, v.query = Query.ofStep? v.step index) →
      Act.FailsBy I E (v.run (Visit.doneBy (Step.runOnce engine))) := by
    rintro v hv ⟨index, hq⟩
    refine hI.bind (fun w hw => ?_) fun _ => Act.failsBy_unlogged.mpr ?_
    · rw [v.ready_state]
      exact ⟨hw, fun e he => hfew e (v.ready_error w e he)⟩
    · rw [hq]
      exact honce v.step hv index v.ctx
  rw [← Act.failsBy_unlogged, drive, driveBy_eq]
  refine hI.each fun p hp => hI.handle ?_ (hgiveUp p.behind)
  refine hI.bind (fun w hw => ⟨hw, fun _ he => by cases he⟩) fun page => hI.each fun v hv => ?_
  obtain ⟨-, hstep⟩ := planned_agenda hp hv
  rw [StepRun.flatMap_ofSteps] at hstep
  exact hvisit v (List.mem_of_getElem? hstep) (query_agenda hp hv)

/-- A step with an action, on an element of its own selector, fails for want of support only if the
handler of its action does, or in recording. -/
theorem Step.failsBy_runOnce {s : Step} (hE : ∀ e, ¬ e.Unsupported → E e)
    (hlistener : ∀ e, w.RaisedByListener e → E e)
    (haction : s.action = .unspecified → E s.unsupported)
    (hcustom : ∀ name data h, s.action = .custom name data →
      engine.plugins.action (some name) = .ok h → ∀ ctx element scene e,
        (h.run s ctx element scene).result = .error e → E e)
    (index : Option Int) (ctx : Context) :
    Act.FailsBy w.SameListeners E (s.runOnce engine (Query.ofStep? s index) ctx) := by
  have hplay := Play.closed_failsBy hE
  have hquery : ∀ q ∈ Query.ofStep? s index, q.Allowed E := fun q hq =>
    Or.inl ⟨s.selectorKind, Query.kind_ofStep? hq⟩
  have hchange : ∀ {f : Recorder → Int → Recorder} {event record}, Recorder.Deaf f record →
      Act.FailsBy w.SameListeners E (Recorder.change f event record) :=
    fun hf => Recorder.failsBy_change hf hlistener
  refine closedFor_runOnce (Act.closedFor_failsBy w.SameListeners E) (fun message => ?_) ?_ ?_ ?_ ?_
    ?_ ?_ ?_ ?_
  · exact hchange (Recorder.deaf_softening message)
  · exact Run.failsBy_onScene
      (Query.steady_locateOptional hplay.steady fun q hq => (hquery q hq).asks)
  · refine fun element => Run.failsBy_onScene ?_
    refine closed_perform hplay element haction fun name data h hname hfound => ?_
    exact fun scene _ => ⟨trivial, hcustom name data h hname hfound ctx element scene⟩
  · exact Run.failsBy_onScene (closed_postWait hplay s)
  · refine fun c _ => Run.failsBy_onScene ?_
    refine Check.closed_run hplay c ctx hquery fun h element _ => ?_
    refine Act.failsBy_handle (F := fun _ => True) (fun _ _ => ⟨trivial, fun _ _ => trivial⟩) ?_
    exact fun e _ => hplay.fail (hE _ (c.supported_ofHandler e))
  · exact fun e he => hE e (ctx.supported_suffix e he)
  · exact fun v hv => ⟨hv, fun _ he => by cases he⟩
  · exact fun title => hchange (Recorder.deaf_opening title)
  · exact fun position error => hchange (Recorder.deaf_closing position _)

/-- Steps that all have an action fail for want of support only if a handler or a listener does. -/
theorem Scenario.drive_unsupported (hsteps : ∀ s ∈ steps, s.action ≠ .unspecified) {e : Failure}
    (he : (drive engine steps ctx w).result = .error e) (hu : e.Unsupported) :
    engine.RaisedByAction steps e ∨ w.RaisedByListener e := by
  let Allowed (e : Failure) : Prop :=
    e.Unsupported → engine.RaisedByAction steps e ∨ w.RaisedByListener e
  have hE : ∀ e : Failure, ¬ e.Unsupported → Allowed e := fun _ hn hu => absurd hu hn
  have hlistener : ∀ e, w.RaisedByListener e → Allowed e := fun _ hl _ => Or.inr hl
  have hdrive : Act.FailsBy w.SameListeners Allowed (drive engine steps ctx) := by
    refine failsBy_drive ?_ (Recorder.failsBy_skip hlistener) ?_
    · rintro e ⟨message, facts, rfl⟩
      exact hE _ (Failure.supported_engineError (by decide) _ _)
    · refine fun s hs index c => Step.failsBy_runOnce hE hlistener (fun h => absurd h (hsteps s hs))
        (fun name data h hname hfound ctx element scene e hraised _ => Or.inl ?_) index c
      exact ⟨s, hs, name, data, h, hname, hfound, ctx, element, scene, hraised⟩
  exact (hdrive w rfl).2 e he hu

/-- Whatever becomes of steps, their listeners stay. -/
theorem Scenario.drive_listeners (engine : Engine) (steps : List Step) (ctx : Context) (w : Walk) :
    Act.FailsBy w.SameListeners (fun _ => True) (drive engine steps ctx) :=
  failsBy_drive (fun _ _ => trivial)
    (Recorder.failsBy_skip fun _ _ => trivial)
    fun _ _ index c => Step.failsBy_runOnce (fun _ _ => trivial) (fun _ _ => trivial)
      (fun _ => trivial) (fun _ _ _ _ _ _ _ _ _ _ => trivial) index c

end Running

namespace Desk

theorem supported_tryDisk (d : Desk) (r : Except Disk.Error Disk) : Supported (d.tryDisk r).2 := by
  unfold tryDisk
  split
  · exact supported_ok ()
  · exact supported_error id

theorem supported_keepReport (slot : Nat) (n : Notice) (d : Desk) :
    Supported (keepReport slot n d).2 := by
  unfold keepReport
  split
  · exact supported_ok ()
  · exact supported_ok ()
  · exact supported_tryDisk _ _

theorem supported_keepJournal (slot : Nat) (n : Notice) (d : Desk) :
    Supported (keepJournal slot n d).2 := by
  unfold keepJournal
  split
  · unfold logEvent
    split
    · exact supported_ok ()
    · dsimp only
      split
      · exact supported_tryDisk _ _
      · exact supported_error id
  · exact supported_ok ()

theorem supported_openReport (d : Desk) (dir : Path) (title : String) (now : Int) :
    Supported (d.openReport dir title now) :=
  (supported_mapError (fun _ => id) _).bind fun _ => supported_ok _

end Desk

namespace Scenario

variable {setup : Setup} {s : Scenario} {w : Walk} {report : Option (Listener × Path)}

theorem supported_startReport (setup : Setup) (s : Scenario) (w : Walk) :
    Supported (startReport setup s w).result := by
  rw [startReport_eq]
  split
  · split
    · exact supported_ok _
    · rename_i e hopen
      exact supported_error (Desk.supported_openReport _ _ _ _ e hopen)
  · exact supported_ok _

/-- The report and the event log do not fail for want of support. -/
theorem supported_listeners (h : (startReport setup s w).result = .ok report) :
    ∀ l ∈ listeners setup report, ∀ n d, Supported (l n d).2 := by
  intro l hl n d
  rcases List.mem_append.mp hl with hl | hl
  · obtain ⟨x, hx, rfl⟩ := Option.map_eq_some_iff.mp (Option.mem_toList.mp hl)
    rw [startReport_eq] at h
    split at h
    · split at h
      · cases h
        cases hx
        exact Desk.supported_keepReport _ n d
      · cases h
    · cases h
      cases hx
  · obtain ⟨slot, -, rfl⟩ := Option.map_eq_some_iff.mp (Option.mem_toList.mp hl)
    exact Desk.supported_keepJournal slot n d

/-- While a scenario runs, nobody who is told of it fails for want of support. -/
theorem supported_opening {path : Option Path} (h : (opening setup s w).result = .ok path)
    {e : Failure} (hraised : (opening setup s w).state.RaisedByListener e) : ¬ e.Unsupported := by
  obtain ⟨report, hreport, -⟩ := Act.ok_of_bind h
  obtain ⟨r, hr, l, hl, n, d, he⟩ := hraised
  rw [opening_state hreport, begin_recorder] at hr
  cases hr
  exact supported_listeners hreport l hl n d e he

/-- Once its report is opened, a scenario fails for want of support only if somebody does who is
told of it: what becomes of its steps is told in its result. -/
theorem supported_recorded {ls : List Listener} (hl : ∀ l ∈ ls, ∀ n d, Supported (l n d).2)
    (setup : Setup) (s : Scenario) (path : Option Path) (w : Walk) :
    Supported (Act.bind (begin s ls) (fun _ => going setup s path) w).result := by
  let begun : Walk := s.recordedBy ls w
  have hlistener : ∀ e, begun.RaisedByListener e → ¬ e.Unsupported := by
    rintro e ⟨r, hr, l, hmem, n, d, he⟩
    cases hr
    exact hl l hmem n d e he
  have hI := Act.closedFor_failsBy begun.SameListeners fun e => ¬ e.Unsupported
  have hchange : ∀ {f : Recorder → Int → Recorder} {event record}, Recorder.Deaf f record →
      Act.FailsBy begun.SameListeners (fun e => ¬ e.Unsupported)
        (Recorder.change f event record) := fun hf => Recorder.failsBy_change hf hlistener
  have hlook : ∀ {α : Type} (f : Walk → α), Act.FailsBy begun.SameListeners
      (fun e => ¬ e.Unsupported) (fun w => ⟨.ok (f w), w, [], []⟩ : Run α) :=
    fun f v hv => ⟨hv, fun _ he => by cases he⟩
  have hattempt : Act.FailsBy begun.SameListeners (fun e => ¬ e.Unsupported)
      (Act.attempt (drive setup.engine s.steps (context setup s))) := fun v hv =>
    ⟨(drive_listeners setup.engine s.steps (context setup s) begun v hv).1,
      fun _ he => by cases he⟩
  have hrest : Act.FailsBy begun.SameListeners (fun e => ¬ e.Unsupported)
      (Act.bind Recorder.beginScenario fun _ => going setup s path) := by
    refine hI.bind (hchange Recorder.deaf_beginning) fun _ => hI.bind (hlook _) fun started => ?_
    refine hI.bind hattempt fun r => hI.bind (hchange (Recorder.deaf_finishing _)) fun _ => ?_
    exact hI.bind (hlook _) fun a => hI.bind (hlook _) fun now => hI.pure _
  exact (hrest begun rfl).2

theorem supported_run (setup : Setup) (s : Scenario) (w : Walk) :
    Supported (s.run setup w).result := by
  cases hreport : (startReport setup s w).result with
  | error e =>
    rw [(run_of_unreported hreport).1]
    exact supported_error (supported_startReport setup s w e hreport)
  | ok report =>
    rw [(run_of_startReport hreport).1]
    exact supported_recorded (supported_listeners hreport) setup s _ _

/-- Every step of a loaded scenario fits. Its runs fail for want of support, because of the kind of
a selector or the action of a step, only if the handler of one of its steps fails so itself, or else
somebody does who is told of the run; its report and the event log do not. -/
theorem loaded_supported {source : String} {v : Json} {scenarios : List Scenario}
    (h : ofValue source v = .ok scenarios) {s : Scenario} (hs : s ∈ scenarios) :
    (∀ step ∈ s.steps, Step.Fits step.toJson) ∧
    (∀ engine ctx w e, (drive engine s.steps ctx w).result = .error e → e.Unsupported →
      engine.RaisedByAction s.steps e ∨ w.RaisedByListener e) ∧
    ∀ setup w, Supported (s.run setup w).result ∧
      ∀ path e, (opening setup s w).result = .ok path →
        (drive setup.engine s.steps (context setup s) (opening setup s w).state).result = .error e →
        e.Unsupported → setup.engine.RaisedByAction s.steps e := by
  obtain ⟨document, hread⟩ := read_of_ofValue h hs
  have hactions : ∀ step ∈ s.steps, step.action ≠ .unspecified := by
    intro step hstep
    obtain ⟨part, hpart⟩ := steps_of_read hread hstep
    exact Step.action_of_read hpart
  refine ⟨fun step hstep => ?_, fun engine ctx w e => drive_unsupported hactions,
    fun setup w => ⟨supported_run setup s w, fun path e hopen he hu => ?_⟩⟩
  · obtain ⟨part, hpart⟩ := steps_of_read hread hstep
    exact Step.fits_of_read hpart
  · obtain hhandler | hlistener := drive_unsupported hactions he hu
    · exact hhandler
    · exact absurd hu (supported_opening hopen hlistener)

/-- A handler that knows no action fails the run of a step that asks for it. -/
theorem loaded_supported_of_raising_handler :
    let raised := Failure.engineError .unsupportedAction "no such action" []
    let handler : Handler Step := ⟨"refuse", fun _ _ _ => Act.fail raised⟩
    let engine : Engine := { settings := default, plugins := { actions := [("refuse", handler)] } }
    let document : Json := .obj [("description", .str "refused"),
      ("testSteps", .arr [.obj [("action", .str "custom"), ("customName", .str "refuse")]])]
    ∃ s, ofValue "inline" document = .ok [s] ∧ (∀ step ∈ s.steps, Step.Fits step.toJson) ∧
      (drive engine s.steps {} {}).result = .error raised ∧ raised.Unsupported ∧
      engine.RaisedByAction s.steps raised := by
  intro raised handler engine document
  let s : Scenario := {
    description := "refused"
    steps := [{ action := .custom "refuse" .null }]
    source := some "inline" }
  have hload : ofValue "inline" document = .ok [s] := by rfl
  have hrun : (drive engine s.steps {} {}).result = .error raised := by rfl
  obtain ⟨hfits, hdrive, -⟩ := loaded_supported hload List.mem_cons_self
  refine ⟨s, hload, hfits, hrun, Or.inr rfl, ?_⟩
  obtain hhandler | ⟨r, hr, -⟩ := hdrive engine {} {} raised hrun (Or.inr rfl)
  · exact hhandler
  · cases hr

end Scenario

end Walkthrough
