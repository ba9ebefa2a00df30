import Walkthrough.Proofs.Handlers

/-!
Between the steps of a run a recorder differs from the one at the beginning by its records alone: no
step is open, and no soft failure stands outside of the records. They follow one another in time,
unless the handler of a plugin turns the clock back.
-/
namespace Walkthrough

variable {α : Type}

/-- The second state is not earlier than the first one. -/
def Scene.Before (s s' : Scene) : Prop := s.clock ≤ s'.clock

instance : IsPreorder Scene Scene.Before where
  refl _ := Int.le_refl _
  trans _ _ _ := Int.le_trans

/-- What does not turn the clock back. -/
def OnTime (x : Play α) : Prop := Act.Within Scene.Before x

/-- Handlers that do not turn the clock back. -/
def Plugins.OnTime (p : Plugins) : Prop :=
  p.All (Handler.Has Walkthrough.OnTime) (Handler.Has Walkthrough.OnTime)

/-- What is built of acts that do not turn the clock back does not do it either. -/
theorem onTime_closed : Play.Closed (fun _ => True) OnTime where
  toClosedFor := (Act.closed_within Scene.Before).closedFor
  supported _ _ := trivial
  mark _ _ _ := Int.le_refl _
  change _ _ := Int.le_refl _
  pass ms _ := Int.le_add_of_nonneg_right (Int.natCast_nonneg ms)
  look _ hs s := hs s s

/-- The handlers of an engine do not turn the clock back if those of its modules do not do it. -/
theorem Bundled.onTime_build {modules : Plugins.Modules} {names : List String} {p : Plugins}
    (hmodules : ∀ name rs, modules name = some (.offers rs) →
      ∀ r ∈ rs, Plugins.Registers (Handler.Has OnTime) (Handler.Has OnTime) r)
    (h : Plugins.build registrations modules names = .ok p) : p.OnTime :=
  all_build onTime_closed hmodules h

theorem StepRecord.closed_startTime (x : StepRecord) (now : Int) (error : Option String) :
    (x.closed now error).startTime = x.startTime := by
  unfold closed
  cases error with
  | some e => rfl
  | none =>
    split
    rfl

theorem StepRecord.closed_endTime (x : StepRecord) (now : Int) (error : Option String) :
    (x.closed now error).endTime = some now := by
  unfold closed
  cases error with
  | some e => rfl
  | none =>
    split
    rfl

/-- Records of which each ended before the next one began, and all by now. -/
structure Chronological (records : List StepRecord) (now : Int) : Prop where
  ended : ∀ x ∈ records, ∃ last, x.endTime = some last ∧ x.startTime ≤ last ∧ last ≤ now
  apart : records.Pairwise fun x y => ∀ last ∈ x.endTime, last ≤ y.startTime

section Chronological

variable {records : List StepRecord} {x : StepRecord} {now last : Int}

theorem chronological_nil (now : Int) : Chronological [] now := ⟨by simp, .nil⟩

theorem Chronological.mono (h : Chronological records now) (hnow : now ≤ last) :
    Chronological records last := by
  refine ⟨fun x hx => ?_, h.apart⟩
  obtain ⟨ended, hended, hstart, hbefore⟩ := h.ended x hx
  exact ⟨ended, hended, hstart, Int.le_trans hbefore hnow⟩

theorem Chronological.concat (h : Chronological records now) (hstart : now ≤ x.startTime)
    (hended : x.endTime = some last) (hlast : x.startTime ≤ last) :
    Chronological (records ++ [x]) last := by
  refine ⟨fun y hy => ?_, List.pairwise_append.mpr ⟨h.apart, List.pairwise_singleton _ _, ?_⟩⟩
  · rcases List.mem_append.mp hy with hy | hy
    · exact (h.mono (Int.le_trans hstart hlast)).ended y hy
    · cases List.mem_singleton.mp hy
      exact ⟨last, hended, hlast, Int.le_refl last⟩
  · intro y hy z hz ended hy'
    cases List.mem_singleton.mp hz
    obtain ⟨ended', hended', -, hbefore⟩ := h.ended y hy
    cases hended'.symm.trans hy'
    exact Int.le_trans hbefore hstart

/-- A record that begins behind the others and is closed goes on with them. -/
theorem Chronological.closed (h : Chronological records now) (hstart : now ≤ x.startTime)
    (hlast : x.startTime ≤ last) (error : Option String) :
    Chronological (records ++ [x.closed last error]) last := by
  have hsame := x.closed_startTime last error
  refine h.concat ?_ (x.closed_endTime last error) ?_
  · rwa [hsame]
  · rwa [hsame]

end Chronological

namespace Recorder

variable {r : Recorder} {title : String} {before : List StepRecord}

/-- The recorder with other records. -/
def withSteps (r : Recorder) (steps : List StepRecord) : Recorder :=
  { r with account := { r.account with steps } }

/-- The recorder when its only open step has the given record, behind all others. -/
def during (r : Recorder) (x : StepRecord) : Recorder :=
  { r.addRecord x with opened := [r.account.steps.length] }

theorem opening_settled (h : r.opened = []) (title : String) (now : Int) :
    r.opening title now = r.during { title, startTime := now } := by
  unfold opening during
  rw [h]
  rfl

theorem during_softening (r : Recorder) (x : StepRecord) (message : String) :
    (r.during x).softening message =
      r.during { x with softFailures := x.softFailures ++ [message] } := by
  unfold softening during changeRecord addRecord
  simp only [List.getLast?_singleton, modify_last]

theorem during_foldl_softening (r : Recorder) (x : StepRecord) (ms : List String) :
    ms.foldl softening (r.during x) = r.during { x with softFailures := x.softFailures ++ ms } := by
  induction ms generalizing x with
  | nil => simp
  | cons m ms ih => simp [during_softening, ih]

theorem during_closing (h : r.opened = []) (x : StepRecord) (now : Int) (error : Option String) :
    (r.during x).closing r.account.steps.length now error = r.addRecord (x.closed now error) := by
  unfold closing dropping during changeRecord addRecord
  simp [modify_last, h]

/-- With quiet listeners a recorded act is done between the beginning and the end of its step. -/
theorem withStep_quietBy {w : Walk} {body : Run Unit} {order : Desk → Prop}
    (hw : w.QuietBy order) (hr : w.recorder = some r)
    (hquiet : Act.Within (Walk.StaysQuietBy order) body) (title : String) :
    let done := body (openStep title w).state
    let o := withStep title body w
    o.result = done.result ∧ o.state.QuietBy order ∧
      o.state = (closeStep r.account.steps.length (failure? done.result) done.state).state := by
  intro done o
  obtain ⟨hbegun, hquiet'⟩ : (openStep title w).result = .ok () ∧
      (openStep title w).state.QuietBy order := change_quietBy (fun _ _ => rfl) hw
  obtain ⟨hended, hquiet''⟩ : (closeStep r.account.steps.length (failure? done.result)
      done.state).result = .ok () ∧ (closeStep r.account.steps.length (failure? done.result)
      done.state).state.QuietBy order := change_quietBy (fun _ _ => rfl) (hquiet _ hquiet')
  obtain ⟨e, herror, -⟩ | ⟨-, hstate, ⟨e, herror, -⟩ | ⟨-, hresult⟩⟩ := withStep_cases hr title body
  · rw [hbegun] at herror
    cases herror
  · exact absurd (hended.symm.trans herror) (by simp)
  · have ho : o.state = _ := hstate
    exact ⟨hresult, ho ▸ hquiet'', ho⟩

/-- Where nothing is open, a recorded act adds its record: it began when the act did, holds the soft
failures of the act, and ended with it. -/
theorem withStep_settled {w : Walk} {body : Run Unit} {order : Desk → Prop}
    (hw : w.QuietBy order) (hr : w.recorder = some r) (h : r.opened = [])
    (hb : Act.Within Walk.Softened body) (hquiet : Act.Within (Walk.StaysQuietBy order) body)
    (title : String) :
    let done := body (openStep title w).state
    let o := withStep title body w
    o.result = done.result ∧ o.state.scene = done.state.scene ∧ o.state.QuietBy order ∧
      ∃ softFailures, o.state.recorder = some (r.addRecord
        (StepRecord.closed { title, startTime := w.scene.clock, softFailures }
          o.state.scene.clock ((failure? o.result).map Failure.text))) := by
  intro done o
  obtain ⟨hresult, hquiet', hstate⟩ := withStep_quietBy hw hr hquiet title
  have hopen := openStep_recorder hr title
  rw [opening_settled h] at hopen
  obtain ⟨ms, hms⟩ := hb (openStep title w).state
  rw [hopen, Option.map_some, during_foldl_softening, List.nil_append] at hms
  have hscene : o.state.scene = done.state.scene := by
    rw [show o.state = _ from hstate]
    exact change_scene _ _ _ _
  refine ⟨hresult, hscene, hquiet', ms, ?_⟩
  rw [hscene, show o.result = done.result from hresult, show o.state = _ from hstate,
    closeStep_recorder hms, during_closing h]

end Recorder

/-- The state between two steps of a run that began with a recorder: listeners are quiet by an order,
and the recorder has only got records, which follow one another if the time can be relied on. -/
def Walk.Orderly (order : Desk → Prop) (timely : Prop) (r : Recorder) (w : Walk) : Prop :=
  w.QuietBy order ∧ ∃ steps, w.recorder = some (r.withSteps steps) ∧
    (timely → Chronological steps w.scene.clock)

/-- If the time can be relied on, it does not go back on the way to another state. -/
def Walk.Advances (timely : Prop) (w v : Walk) : Prop := timely → w.scene.clock ≤ v.scene.clock

instance (timely : Prop) : IsPreorder Walk (Walk.Advances timely) where
  refl _ := fun _ => Int.le_refl _
  trans _ _ _ := fun h h' ht => Int.le_trans (h ht) (h' ht)

namespace Walk

variable {order : Desk → Prop} {timely : Prop} {engine : Engine} {r : Recorder}

/-- A skipped step is recorded between two others. -/
theorem orderly_skip (title : String) :
    Act.Within (Act.Keeps (Orderly order timely r)) (Recorder.skip title) := by
  intro w ⟨hquiet, steps, hr, htime⟩
  have hrecorder : (Recorder.skip title w).state.recorder =
      some ((r.withSteps steps).skipping title w.scene.clock) := by
    rw [Recorder.skip, Recorder.change_recorder, hr]
    rfl
  have hscene : (Recorder.skip title w).state.scene = w.scene := Recorder.change_scene _ _ _ _
  refine ⟨staysQuietBy_skip title w hquiet, _, hrecorder, fun ht => ?_⟩
  rw [hscene]
  exact (htime ht).concat (Int.le_refl _) rfl (Int.le_refl _)

section Plugins

variable (hplugins : timely → engine.plugins.OnTime)
include hplugins

theorem advances_touches : engine.Touches (Act.Within (Advances timely)) := by
  by_cases ht : timely
  · exact Engine.touches_of_handlers onTime_closed (hplugins ht) fun hx w _ => hx w.scene
  · exact engine.touches_within fun _ _ h => absurd h ht

theorem advances_body (s : Step) (query : Option Query) (ctx : Context) :
    Act.Within (Advances timely) (s.body engine query ctx) := by
  refine Step.closed_body (Act.closed_within (Advances timely)) (advances_touches hplugins)
    (fun message w _ => ?_) s query ctx
  exact Int.le_of_eq (congrArg Scene.clock (Recorder.change_scene _ _ _ w)).symm

theorem orderly_count (q : Query) :
    Act.Within (Act.Keeps (Orderly order timely r)) (Run.onScene q.count) := by
  intro w ⟨hquiet, steps, hr, htime⟩
  exact ⟨hquiet, steps, hr, fun ht => (htime ht).mono ((advances_touches hplugins).count q w ht)⟩

variable (hopened : r.opened = [])
include hopened

/-- Running a step once leads from one state between two steps to the next one. -/
theorem orderly_runOnce (s : Step) (query : Option Query) (ctx : Context) :
    Act.Within (Act.Keeps (Orderly order timely r)) (s.runOnce engine query ctx) := by
  intro w ⟨hquiet, steps, hr, htime⟩
  cases hs : ctx.suffix with
  | error e =>
    rw [Step.runOnce_of_no_suffix hs]
    exact ⟨hquiet, steps, hr, htime⟩
  | ok suffix =>
    rw [Step.runOnce_of_suffix hs]
    obtain ⟨-, hscene, hquiet', softFailures, hr'⟩ := Recorder.withStep_settled hquiet hr
      hopened (softened_body engine s query ctx) (staysQuietBy_body engine s query ctx)
      (s.title ++ suffix)
    refine ⟨hquiet', _, hr', fun ht => ?_⟩
    have hopen : (Recorder.openStep (s.title ++ suffix) w).state.scene = w.scene :=
      Recorder.change_scene _ _ _ _
    have hbody := advances_body hplugins s query ctx
      (Recorder.openStep (s.title ++ suffix) w).state ht
    rw [hopen, ← hscene] at hbody
    exact (htime ht).closed (Int.le_refl _) hbody _

/-- When the steps of a scenario have ended, however they did, the recorder has only got records. -/
theorem orderly_drive (steps : List Step) (ctx : Context) :
    Act.Within (Act.Keeps (Orderly order timely r)) (Scenario.drive engine steps ctx) :=
  Scenario.closed_driveBy (Act.closed_within (Act.Keeps (Orderly order timely r)))
    (orderly_count hplugins) (orderly_runOnce hplugins hopened) orderly_skip steps

end Plugins

end Walk
end Walkthrough
