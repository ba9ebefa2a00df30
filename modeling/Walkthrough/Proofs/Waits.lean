import Mathlib.Algebra.GroupWithZero.Nat
import Walkthrough.Proofs.Outcome
import Walkthrough.Proofs.SoftRun
import Walkthrough.Proofs.Steady

/-!
Waiting: without plugins, time passes in a step only while it waits. A step that comes to its end has
waited once, as its action or right behind it, and its record lasts as long as that.
-/
namespace Walkthrough

variable {σ α : Type}

/-- The time is the same in another state. -/
def Act.SameTime (clock : σ → Int) (s s' : σ) : Prop := clock s' = clock s

instance (clock : σ → Int) : IsPreorder σ (Act.SameTime clock) where
  refl _ := rfl
  trans _ _ _ := fun h h' => Eq.trans h' h

/-- An act during which no time passes, and which does not wait. -/
def Act.Still (clock : σ → Int) (x : Act σ α) : Prop :=
  Act.Within (Act.SameTime clock) x ∧ Act.Leaves (fun m => m.wait? = none) x

theorem Act.still_closed (clock : σ → Int) : Act.Closed (Act.Still clock) :=
  (Act.closed_within (Act.SameTime clock)).and (Act.closed_leaves _)

/-- No time passes in what is built of acts during which none passes. -/
theorem Act.still_steady : Play.Steady (fun _ => True) (Act.Still Scene.clock) where
  toClosedFor := (Act.still_closed Scene.clock).closedFor
  midway _ _ := trivial
  mark m _ hwait := ⟨fun _ => rfl, fun _ _ hm => by rwa [List.mem_singleton.mp hm]⟩
  change _ := ⟨fun _ => rfl, fun _ _ hm => nomatch hm⟩
  look _ hf := ⟨fun s => (hf s).1 s, fun s => (hf s).2 s⟩

/-- The time of a run. -/
def Walk.clock (w : Walk) : Int := w.scene.clock

theorem Act.Still.onScene {x : Play α} (hx : Act.Still Scene.clock x) :
    Act.Still Walk.clock (Run.onScene x) :=
  ⟨fun w => hx.1 w.scene, fun w => hx.2 w.scene⟩

theorem Mark.wait?_of_isRecorder {m : Mark} (h : m.isRecorder = true) : m.wait? = none := by
  cases m <;> first | rfl | cases h

theorem Recorder.still_change (f : Recorder → Int → Recorder) (event : RecorderEvent)
    (record : Recorder → Option StepRecord) :
    Act.Still Walk.clock (Recorder.change f event record) :=
  ⟨fun w => congrArg Scene.clock (change_scene f event record w),
    fun w m hm => Mark.wait?_of_isRecorder (change_trace f event record w m hm)⟩

/-- A wait that comes to its end leaves its mark, and so much time has passed. -/
theorem Page.wait_of_ok {ms : Nat} {s : Scene} (h : (wait ms s).result = .ok ()) :
    (wait ms s).state.clock = s.clock + ms ∧ (wait ms s).trace = [.page (.wait ms)] := by
  unfold wait at h ⊢
  obtain ⟨_, hcall, -⟩ := Act.ok_of_bind h
  rw [Act.bind_eq, Act.bind_of_ok hcall]
  cases herror : namedValue? s.page.errors (PageCall.wait ms).name with
  | some message =>
    simp only [call, Act.bind_eq, Act.bind, Act.mark, Act.get, herror, Act.fail] at hcall
    cases hcall
  | none =>
    simp only [call, Act.bind_eq, Act.bind, Act.mark, Act.get, herror]
    exact ⟨rfl, rfl⟩

namespace Step

variable {engine : Engine} {s : Step} {query : Option Query} {ctx : Context} {w : Walk}
  {trace : List Mark}

/-- How long a step waits. -/
def waiting (s : Step) : Nat := s.waitTime.getD 0

/-- A step that asks no plugin to act or to check. -/
structure BuiltIn (s : Step) : Prop where
  action : ∀ name data, s.action ≠ .custom name data
  checks : ∀ c ∈ s.checks, c.kind ≠ .custom

/-- What the pause behind an action leaves. -/
def pauseMarks (s : Step) : List Mark :=
  if s.waiting = 0 then [] else [.page (.wait s.waiting)]

/-- What a step has left when it has come to its end. If it waits as its action it waits just then,
otherwise right behind its action, if at all. -/
inductive Paused (engine : Engine) (s : Step) (ctx : Context) : List Mark → Prop
  | acting {before after : List Mark} (action : s.action = .wait)
      (still : ∀ m ∈ before ++ after, m.wait? = none) :
      Paused engine s ctx (before ++ (.page (.wait s.waiting) :: after))
  | behind {before after : List Mark} {element : Option Locator} {scene : Scene}
      (action : s.action ≠ .wait)
      (acted : (s.perform engine element ctx scene).result = .ok ())
      (still : ∀ m ∈ before ++ (s.perform engine element ctx scene).trace ++ after, m.wait? = none) :
      Paused engine s ctx
        (before ++ ((s.perform engine element ctx scene).trace ++ (s.pauseMarks ++ after)))

theorem isWait_iff : s.isWait = true ↔ s.action = .wait := by
  unfold isWait
  cases s.action <;> simp [Action.kind?]

theorem perform_wait (h : s.action = .wait) (element : Option Locator) :
    s.perform engine element ctx = Page.wait s.waiting := by
  unfold perform
  rw [h]
  rfl

theorem postWait_of_wait (h : s.action = .wait) : s.postWait = Act.pure () := by
  unfold postWait
  rw [if_pos (isWait_iff.mpr h)]

theorem postWait_of_action (h : s.action ≠ .wait) :
    s.postWait = if s.waiting = 0 then Act.pure () else Page.wait s.waiting := by
  unfold postWait waiting
  rw [if_neg (mt isWait_iff.mp h)]
  match s.waitTime with
  | none | some 0 => rfl
  | some (n + 1) => rfl

/-- The pause behind an action that comes to its end. -/
theorem postWait_of_ok (h : s.action ≠ .wait) {scene : Scene}
    (hok : (s.postWait scene).result = .ok ()) :
    (s.postWait scene).state.clock = scene.clock + s.waiting ∧
      (s.postWait scene).trace = s.pauseMarks := by
  rw [postWait_of_action h] at hok ⊢
  unfold pauseMarks
  by_cases hnone : s.waiting = 0
  · rw [if_pos hnone, if_pos hnone, hnone]
    exact ⟨(Int.add_zero _).symm, rfl⟩
  · rw [if_neg hnone] at hok
    rw [if_neg hnone, if_neg hnone]
    exact Page.wait_of_ok hok

/-- A step that comes to its end has found its element, acted, paused and checked. -/
theorem body_ok (h : (s.body engine query ctx w).result = .ok ()) : ∃ element,
    let found := Query.locateOptional query w.scene
    let acted := s.perform engine element ctx found.state
    let paused := s.postWait acted.state
    let checked := Act.each s.checks (runCheck engine query ctx) { w with scene := paused.state }
    acted.result = .ok () ∧ paused.result = .ok () ∧
    (s.body engine query ctx w).state = checked.state ∧
    (s.body engine query ctx w).trace =
      found.trace ++ (acted.trace ++ (paused.trace ++ checked.trace)) := by
  unfold body at h ⊢
  simp only [Act.bind_eq] at h ⊢
  obtain ⟨element, hfound, h⟩ := Act.ok_of_bind h
  obtain ⟨_, hacted, h⟩ := Act.ok_of_bind h
  obtain ⟨_, hpaused, -⟩ := Act.ok_of_bind h
  rw [Act.bind_of_ok hfound, Act.bind_of_ok hacted, Act.bind_of_ok hpaused]
  exact ⟨element, hacted, hpaused, rfl, rfl⟩

section BuiltIn

variable (hs : s.BuiltIn)
include hs

/-- No time passes in an action other than a wait. -/
theorem BuiltIn.still_perform (h : s.action ≠ .wait) (engine : Engine) (element : Option Locator)
    (ctx : Context) : Act.Still Scene.clock (s.perform engine element ctx) :=
  steady_perform Act.still_steady element (fun _ _ => trivial) (fun hwait => absurd hwait h)
    (fun _ => trivial) fun name data _ hcustom _ => absurd hcustom (hs.action name data)

theorem BuiltIn.still_checks (engine : Engine) (query : Option Query) (ctx : Context) :
    Act.Still Walk.clock (Act.each s.checks (runCheck engine query ctx)) := by
  refine (Act.still_closed Walk.clock).each fun c hc => ?_
  refine closedFor_runCheck (Act.still_closed Walk.clock).closedFor
    (fun message => Recorder.still_change _ _ _) (Act.Still.onScene ?_)
  exact Check.steady_run Act.still_steady (fun _ _ => Or.inr fun _ _ => trivial)
    (fun _ _ => trivial) (fun _ _ _ => trivial) fun _ _ hkind _ => absurd hkind (hs.checks c hc)

/-- A step that comes to its end has waited once, and so much time has passed. -/
theorem BuiltIn.body_paused (h : (s.body engine query ctx w).result = .ok ()) :
    (s.body engine query ctx w).state.clock = w.clock + s.waiting ∧
      s.Paused engine ctx (s.body engine query ctx w).trace := by
  obtain ⟨hfinds, hbefore⟩ : Act.Still Scene.clock (Query.locateOptional query) :=
    Query.steady_locateOptional Act.still_steady fun _ _ => Or.inr fun _ _ => trivial
  obtain ⟨hchecks, hafter⟩ := hs.still_checks engine query ctx
  obtain ⟨element, hacted, hpaused, hstate, htrace⟩ := body_ok h
  rw [hstate, htrace]
  have hfound : (Query.locateOptional query w.scene).state.clock = w.clock := hfinds w.scene
  by_cases haction : s.action = .wait
  · rw [perform_wait haction] at hacted ⊢
    rw [postWait_of_wait haction]
    obtain ⟨hclock, hmarks⟩ := Page.wait_of_ok hacted
    rw [hfound] at hclock
    refine ⟨(hchecks _).trans hclock, ?_⟩
    rw [hmarks]
    exact .acting haction (List.forall_mem_append.mpr ⟨hbefore w.scene, hafter _⟩)
  · obtain ⟨hacts, hduring⟩ := hs.still_perform haction engine element ctx
    obtain ⟨hclock, hmarks⟩ := postWait_of_ok haction hpaused
    rw [hacts _, hfound] at hclock
    refine ⟨(hchecks _).trans hclock, ?_⟩
    rw [hmarks]
    refine .behind haction hacted ?_
    simp only [List.forall_mem_append]
    exact ⟨⟨hbefore w.scene, hduring _⟩, hafter _⟩

end BuiltIn

/-- What is left before and behind may be anything but waits. -/
theorem Paused.between (h : s.Paused engine ctx trace) {front rest : List Mark}
    (hfront : ∀ m ∈ front, m.wait? = none) (hrest : ∀ m ∈ rest, m.wait? = none) :
    s.Paused engine ctx (front ++ (trace ++ rest)) := by
  cases h with
  | @acting before after action still =>
    have hmarks : front ++ ((before ++ (.page (.wait s.waiting) :: after)) ++ rest) =
        (front ++ before) ++ (.page (.wait s.waiting) :: (after ++ rest)) := by simp
    rw [hmarks]
    simp only [List.forall_mem_append] at still
    refine .acting action ?_
    simp only [List.forall_mem_append]
    exact ⟨⟨hfront, still.1⟩, still.2, hrest⟩
  | @behind before after element scene action acted still =>
    have hmarks : ∀ done : List Mark,
        front ++ ((before ++ (done ++ (s.pauseMarks ++ after))) ++ rest) =
          (front ++ before) ++ (done ++ (s.pauseMarks ++ (after ++ rest))) := by simp
    rw [hmarks]
    simp only [List.forall_mem_append] at still
    refine .behind action acted ?_
    simp only [List.forall_mem_append]
    exact ⟨⟨⟨hfront, still.1.1⟩, still.1.2⟩, still.2, hrest⟩

end Step

namespace Visit

variable {engine : Engine} {v : Visit} {w : Walk}

/-- A visit that comes to its end has waited once, and so much time has passed. -/
theorem doneBy_paused (hs : v.step.BuiltIn)
    (h : (v.doneBy (Step.runOnce engine) w).result = .ok ()) :
    let o := v.doneBy (Step.runOnce engine) w
    o.state.clock = w.clock + v.step.waiting ∧ v.step.Paused engine v.ctx o.trace := by
  obtain ⟨suffix, hsuffix, hopen, hbody⟩ := body_of_ok h
  obtain ⟨hclock, hpaused⟩ := hs.body_paused hbody
  obtain ⟨hopens, hfront⟩ : Act.Still Walk.clock (Recorder.openStep (v.step.title ++ suffix)) :=
    Recorder.still_change _ _ _
  have hclose : ∀ error, Act.Still Walk.clock (Recorder.closeStep (Recorder.position w) error) :=
    fun error => Recorder.still_change _ _ _
  obtain ⟨-, hstate, htrace⟩ := Recorder.withStep_of_begun hopen (v.step.body engine v.query v.ctx)
  rw [hopens w] at hclock
  rw [doneBy_of_suffix engine hsuffix]
  refine ⟨?_, ?_⟩
  · calc (Recorder.withStep (v.step.title ++ suffix) (v.step.body engine v.query v.ctx) w).state.clock
        = _ := congrArg Walk.clock hstate
      _ = _ := (hclose _).1 _
      _ = _ := hclock
  · show v.step.Paused engine v.ctx (Recorder.withStep _ _ w).trace
    rw [htrace]
    exact hpaused.between (hfront w) ((hclose _).2 _)

end Visit

/-- A record tells how long its visit lasted, if that came to its end: as long as its step waits. -/
structure StepRecord.Lasts (x : Visit × Option Failure) (record : StepRecord) : Prop
    extends record.Tells x where
  passed : record.status = .passed → x.2 = none
  duration : x.2 = none → record.duration = some (x.1.step.waiting : Int)

/-- The record of a visit that is closed as late as its step says, if it comes to its end. -/
theorem StepRecord.lasts_closed {v : Visit} {suffix : String} (hs : v.ctx.suffix = .ok suffix)
    {start now : Int} (error : Option Failure)
    (hnow : error = none → now = start + v.step.waiting) (softFailures : List String) :
    Lasts (v, error)
      (closed { title := v.step.title ++ suffix, startTime := start, softFailures } now
        (error.map Failure.text)) := by
  have hended := closed_endedWith (v.step.title ++ suffix) start now softFailures
    (error.map Failure.text)
  refine ⟨⟨⟨suffix, hs, ?_⟩, hended⟩, fun hpassed => ?_, fun hok => ?_⟩
  · cases error with
    | some e => rfl
    | none => cases softFailures <;> rfl
  · cases error with
    | none => rfl
    | some e => exact absurd (hpassed.symm.trans hended.failed.1) (by decide)
  · rw [duration, closed_endTime, closed_startTime, hnow hok, Option.map_some]
    exact congrArg some (Int.sub_eq_iff_eq_add'.mpr rfl)

/-- The state between two visits: listeners are quiet by an order, and no step is open. -/
def Walk.Between (order : Desk → Prop) (w : Walk) : Prop :=
  w.QuietBy order ∧ ∀ r ∈ w.recorder, r.opened = []

/-- The records of visits without plugins tell how long these lasted. -/
theorem Visit.records_lasts (engine : Engine) (order : Desk → Prop) :
    Records (doneBy (Step.runOnce engine)) (Walk.Between order)
      (fun v => v.step.BuiltIn ∧ ∃ suffix, v.ctx.suffix = .ok suffix) StepRecord.Lasts where
  quiet _ hw := ⟨order, hw.1⟩
  act v w r hv hw hr := by
    obtain ⟨hs, suffix, hsuffix⟩ := hv
    obtain ⟨hquiet, hopened⟩ := hw
    obtain ⟨-, -, hquiet', softFailures, hr'⟩ := Recorder.withStep_settled hquiet hr
      (hopened r hr) (Walk.softened_body engine v.step v.query v.ctx)
      (Walk.staysQuietBy_body engine v.step v.query v.ctx) (v.step.title ++ suffix)
    have hpaused : ((v.doneBy (Step.runOnce engine)) w).result = .ok () → _ := doneBy_paused hs
    rw [doneBy_of_suffix engine hsuffix] at hpaused ⊢
    refine ⟨⟨hquiet', fun r'' hr'' => ?_⟩, _, _, hr', rfl, fun hok => ?_, fun e he => ?_⟩
    · cases hr'.symm.trans hr''
      exact hopened r hr
    · rw [show (Recorder.withStep _ _ w).result = .ok () from hok]
      exact StepRecord.lasts_closed hsuffix none (fun _ => (hpaused hok).1) softFailures
    · rw [show (Recorder.withStep _ _ w).result = .error e from he]
      exact StepRecord.lasts_closed hsuffix (some e) (fun h => nomatch h) softFailures

/-- Where each visit takes its time and a run comes to its end, it takes as long as all of them. -/
theorem Course.clock_run {act : Visit → Run Unit} {st : Stage} {w : Walk}
    {past : List (Visit × Walk)} (h : Course act st w past none) (time : Visit → Nat)
    (hact : ∀ x ∈ past, (act x.1 x.2).state.clock = x.2.clock + time x.1) :
    (st.run act w).state.clock = w.clock + (past.map fun x => time x.1).sum := by
  generalize hhalt : (none : Option Halt) = halt at h
  induction h with
  | done => exact (Int.add_zero _).symm
  | next _ ih =>
    rw [Stage.run_next]
    exact ih hact hhalt
  | @passed v vs behind ps w past halt hready hdone _ ih =>
    rw [Stage.run_passed hready hdone, Outcome.after_state,
      ih (fun y hy => hact y (List.mem_cons_of_mem _ hy)) hhalt, hact (v, w) List.mem_cons_self,
      List.map_cons, List.sum_cons, Int.natCast_add, Int.add_assoc]
  | refused _ => cases hhalt
  | failed _ _ => cases hhalt

section BuiltIn

variable {engine : Engine} {steps : List Step} {ctx : Context} {w : Walk}
  {past : List (Visit × Walk)} {halt : Option Halt}

theorem Course.planned_begun
    (h : Course (Visit.doneBy (Step.runOnce engine)) (Scenario.stage steps ctx) w past halt) :
    ∀ x ∈ begun past halt, x.1.Planned steps 0 :=
  of_begun (P := fun v => v.Planned steps 0) h.planned.1 h.planned.2

variable (hsteps : ∀ step ∈ steps, step.BuiltIn)
include hsteps

theorem Visit.Planned.builtIn {v : Visit} (hv : v.Planned steps 0) : v.step.BuiltIn :=
  hsteps v.step (List.mem_of_getElem? hv.step)

/-- Each visit of a course that came to its end has waited once, and so much time has passed. -/
theorem Course.paused
    (h : Course (Visit.doneBy (Step.runOnce engine)) (Scenario.stage steps ctx) w past halt) :
    ∀ x ∈ past,
      let o := x.1.doneBy (Step.runOnce engine) x.2
      o.state.clock = x.2.clock + x.1.step.waiting ∧ x.1.step.Paused engine x.1.ctx o.trace :=
  fun x hx => Visit.doneBy_paused ((h.planned.1 x hx).builtIn hsteps) (h.ended x hx)

/-- Steps that all come to their end take as long as the visits of them wait. -/
theorem Scenario.clock_drive
    (h : Course (Visit.doneBy (Step.runOnce engine)) (stage steps ctx) w past none) :
    (drive engine steps ctx w).state.clock =
      w.clock + (past.map fun x => x.1.step.waiting).sum := by
  have hrun := congrArg (fun o => Walk.clock o.state) (congrFun (drive_eq engine steps ctx) w)
  exact hrun.trans (h.clock_run (fun v => v.step.waiting) fun x hx => (h.paused hsteps x hx).1)

end BuiltIn

namespace Scenario

variable {setup : Setup} {s : Scenario} {w : Walk} {result : ScenarioResult}

/-- Whatever comes of a scenario without plugins, each visit that came to its end has a record that
lasts as long as its step waits, and has waited just once, as its action or right behind that. If all
of them did so, the scenario takes as long as their steps wait together. -/
theorem run_waits (hsteps : ∀ step ∈ s.steps, step.BuiltIn)
    (h : (s.run setup w).result = .ok result) :
    let act := Visit.doneBy (Step.runOnce setup.engine)
    let begun := (opening setup s w).state
    let driven := drive setup.engine s.steps (context setup s) begun
    ∃ past halt records,
      Course act (stage s.steps (context setup s)) begun past halt ∧
      (∀ x ∈ Course.begun past halt, x.1.Planned s.steps 0) ∧
      result.steps = records ++ (Course.skipped halt).map (Step.skipRecord driven.state.clock) ∧
      List.Forall₂ StepRecord.Lasts (Course.begun past halt) records ∧
      (∀ x ∈ past, x.1.step.Paused setup.engine x.1.ctx (act x.1 x.2).trace) ∧
      (driven.result = .ok () → halt = none ∧
        (s.run setup w).state.clock = w.clock + (past.map fun x => x.1.step.waiting).sum ∧
        result.duration = (past.map fun x => x.1.step.waiting).sum) := by
  intro act begun driven
  obtain ⟨report, slot, hreport, -, -, hserves, hlisteners⟩ :=
    startReport_ready (s := s) (run_returns_iff.mp ⟨result, h⟩)
  obtain ⟨hquiet, hscene, hr⟩ := opening_quietBy hreport hserves hlisteners
  have hopened : ∀ r ∈ begun.recorder, r.opened = [] := fun r' hr' => by
    cases hr.symm.trans hr'
    rfl
  obtain ⟨r, past, halt, records, -, hresult, hcourse, herror, hrecords, hall⟩ :=
    run_recorded hreport hserves hlisteners (Visit.records_lasts setup.engine _) ⟨hquiet, hopened⟩
      fun past halt hcourse x hx => by
        obtain ⟨hpast, hhalt⟩ := hcourse.suffix ⟨_, suffix_context setup s⟩
        exact ⟨(hcourse.planned_begun x hx).builtIn hsteps,
          Course.of_begun (P := fun v => ∃ suffix, v.ctx.suffix = .ok suffix) hpast hhalt x hx⟩
  rw [h] at hresult
  obtain rfl := Except.ok.inj hresult
  have hsame := r.account.finished_steps driven.state.clock
    ((Recorder.failure? driven.result).map Failure.text)
  refine ⟨past, halt, records, hcourse, hcourse.planned_begun, hsame.trans hrecords, hall,
    fun x hx => (hcourse.paused hsteps x hx).2, fun hok => ?_⟩
  have hnone : halt = none := by
    rw [Recorder.failure?_eq_none.mpr hok] at herror
    exact Option.map_eq_none_iff.mp herror.symm
  subst hnone
  have hclock : driven.state.clock = w.clock + (past.map fun x => x.1.step.waiting).sum := by
    rw [clock_drive hsteps hcourse, Walk.clock, hscene]
    rfl
  refine ⟨rfl, ?_, Int.sub_eq_iff_eq_add'.mpr hclock⟩
  rw [run_state hreport hserves hlisteners]
  exact ((Recorder.still_change _ _ _).1 driven.state).trans hclock

/-- A step that waits, one for each of two elements, and a group of two steps that is repeated for
each of these. -/
theorem run_waits_of_repetitions :
    let engine : Engine := { settings := default, plugins := {} }
    let s : Scenario :=
      { description := "Waits"
        steps := [
          { action := .wait, waitTime := some 7 },
          { action := .click, selector := some "li", iterate := true, waitTime := some 5 },
          { action := .hover, selector := some "li", group := some "rows", waitTime := some 3 },
          { action := .click, selector := some "li", group := some "rows" }] }
    let setup : Setup := { engine, runId := "", writeReports := false }
    let w : Walk := { scene := { page := { elements := [("li", [default, default])] } } }
    let act := Visit.doneBy (Step.runOnce engine)
    ∃ result past, (s.run setup w).result = .ok result ∧
      Course act (stage s.steps (context setup s)) (opening setup s w).state past none ∧
      (∀ x ∈ past, x.1.step.Paused engine x.1.ctx (act x.1 x.2).trace) ∧
      (past.map fun x => x.1.step.waiting).sum = 23 ∧
      (result.duration, result.steps.map StepRecord.duration) =
        (23, [some 7, some 5, some 5, some 3, some 0, some 3, some 0]) := by
  intro engine s setup w act
  have hsteps : ∀ step ∈ s.steps, step.BuiltIn := by
    simp only [s, List.forall_mem_cons]
    exact ⟨⟨by simp, by simp⟩, ⟨by simp, by simp⟩, ⟨by simp, by simp⟩, ⟨by simp, by simp⟩, by simp⟩
  obtain ⟨result, hresult⟩ : ∃ result, (s.run setup w).result = .ok result :=
    run_returns_iff.mpr ⟨by simp, by simp⟩
  have htold : (s.run setup w).result.toOption.map
      (fun x => (x.duration, x.steps.map StepRecord.duration)) =
        some (23, [some 7, some 5, some 5, some 3, some 0, some 3, some 0]) := by
    decide +kernel
  have hend : (drive engine s.steps (context setup s) (opening setup s w).state).result.toOption =
      some () := by
    decide +kernel
  have hok : (drive engine s.steps (context setup s) (opening setup s w).state).result = .ok () := by
    cases hr : (drive engine s.steps (context setup s) (opening setup s w).state).result with
    | ok _ => rfl
    | error e =>
      rw [hr] at hend
      cases hend
  rw [hresult] at htold
  have htimes := Option.some.inj htold
  obtain ⟨past, halt, records, hcourse, -, -, -, hpaused, hdone⟩ := run_waits hsteps hresult
  obtain ⟨rfl, -, hduration⟩ := hdone hok
  refine ⟨result, past, hresult, hcourse, hpaused, ?_, htimes⟩
  have hsum := hduration.symm.trans (congrArg Prod.fst htimes)
  exact Int.ofNat.inj hsum

end Scenario
end Walkthrough
