import Walkthrough.Engine.Group
import Walkthrough.Proofs.Context
import Walkthrough.Proofs.Recording

/-! Properties that steps and scenarios have because each of their single acts has them. -/
namespace Walkthrough

/-- The failure of a repetition for which the page holds too few elements. -/
def Failure.TooFew (e : Failure) : Prop :=
  ∃ message facts, e = engineError .precondition message facts

/-- What steps do on the page has a property, each of its parts by itself. -/
structure Engine.Touches (engine : Engine) (P : ∀ {α : Type}, Run α → Prop) : Prop where
  locate : ∀ query, P (Run.onScene (Query.locateOptional query))
  count : ∀ q : Query, P (Run.onScene q.count)
  perform : ∀ (s : Step) element ctx, P (Run.onScene (s.perform engine element ctx))
  pause : ∀ s : Step, P (Run.onScene s.postWait)
  check : ∀ (c : Check) query ctx, P (Run.onScene (c.run engine query ctx))

section ClosedFor

variable {E : Failure → Prop} {P : ∀ {α : Type}, Run α → Prop} {engine : Engine} {s : Step}
  {query : Option Query} {ctx : Context} (hP : Act.ClosedFor E P)
  (hsoft : ∀ message, P (Recorder.softFailure message))
include hP hsoft

theorem Step.closedFor_runCheck {c : Check} (hcheck : P (Run.onScene (c.run engine query ctx))) :
    P (runCheck engine query ctx c) := by
  refine hP.bind hcheck fun found => ?_
  cases found with
  | none => exact hP.pure ()
  | some message => exact hsoft message

variable (hlocate : P (Run.onScene (Query.locateOptional query)))
  (hperform : ∀ element, P (Run.onScene (s.perform engine element ctx)))
  (hpause : P (Run.onScene s.postWait))
  (hchecks : ∀ c ∈ s.checks, P (Run.onScene (c.run engine query ctx)))
include hlocate hperform hpause hchecks

theorem Step.closedFor_body : P (s.body engine query ctx) := by
  unfold body
  refine hP.bind hlocate fun element => hP.bind (hperform element) fun _ => ?_
  exact hP.bind hpause fun _ => hP.each fun c hc => closedFor_runCheck hP hsoft (hchecks c hc)

theorem Step.closedFor_runOnce (hsuffix : ∀ e, ctx.suffix = .error e → E e)
    (hcount : P Recorder.count) (hopen : ∀ title, P (Recorder.openStep title))
    (hclose : ∀ position error, P (Recorder.closeStep position error)) :
    P (s.runOnce engine query ctx) := by
  unfold runOnce
  refine hP.bind (hP.ofExcept hsuffix) fun suffix => ?_
  exact Recorder.closed_withStep hP hcount (hopen _) hclose
    (closedFor_body hP hsoft hlocate hperform hpause hchecks)

end ClosedFor

section Closed

variable {P : ∀ {α : Type}, Run α → Prop} {engine : Engine} {once : Runner} {ctx : Context}
  (hP : Act.Closed P)
include hP

theorem Step.closed_body (ht : engine.Touches P)
    (hsoft : ∀ message, P (Recorder.softFailure message)) (s : Step) (query : Option Query)
    (ctx : Context) : P (s.body engine query ctx) :=
  closedFor_body hP.closedFor hsoft (ht.locate query) (fun element => ht.perform s element ctx)
    (ht.pause s) fun c _ => ht.check c query ctx

theorem Step.closed_runOnce (ht : engine.Touches P)
    (hsoft : ∀ message, P (Recorder.softFailure message)) (hcount : P Recorder.count)
    (hopen : ∀ title, P (Recorder.openStep title))
    (hclose : ∀ position error, P (Recorder.closeStep position error)) (s : Step)
    (query : Option Query) (ctx : Context) : P (s.runOnce engine query ctx) :=
  closedFor_runOnce hP.closedFor hsoft (ht.locate query) (fun element => ht.perform s element ctx)
    (ht.pause s) (fun c _ => ht.check c query ctx) (fun _ _ => trivial) hcount hopen hclose

variable (hcount : ∀ q : Query, P (Run.onScene q.count))
include hcount

theorem Step.closed_ensureAvailable (q : Query) (index : Nat) (label : String)
    (details : Members) : P (ensureAvailable q index label details) := by
  unfold ensureAvailable
  refine hP.bind (hcount _) fun available => ?_
  split
  · exact hP.fail _
  · exact hP.pure ()

variable (honce : ∀ s query c, P (once s query c))
include honce

theorem Step.closed_runBy (s : Step) : P (s.runBy once ctx) := by
  unfold runBy
  split
  · refine hP.bind (hcount _) fun total => ?_
    split
    · exact hP.log _ _ _
    · refine hP.each fun index _ => ?_
      unfold repetition
      dsimp only
      split
      · exact hP.bind (hP.pure ()) fun _ => honce _ _ _
      · exact hP.bind (closed_ensureAvailable hP hcount _ _ _ _) fun _ => honce _ _ _
  · exact honce _ _ _

theorem StepRun.closed_passStep (r : StepRun) (total index : Nat) (s : Step) :
    P (r.passStep once ctx total index s) := by
  refine hP.bind ?_ fun _ => honce _ _ _
  unfold scopedQuery
  split
  · exact hP.pure none
  · dsimp only
    split
    · exact hP.bind (hP.pure ()) fun _ => hP.pure _
    · exact hP.bind (Step.closed_ensureAvailable hP hcount _ _ _ _) fun _ => hP.pure _

theorem StepRun.closed_runBy (r : StepRun) : P (r.runBy once ctx) := by
  unfold runBy
  split
  · exact hP.pure 0
  · split
    · refine hP.bind (hP.log _ _ _) fun _ => ?_
      refine hP.bind (hP.each fun s _ => ?_) fun _ => hP.pure 0
      exact Step.closed_runBy hP hcount honce s
    · refine hP.bind (hcount _) fun total => ?_
      split
      · exact hP.bind (hP.log _ _ _) fun _ => hP.pure 0
      · refine hP.bind (hP.each fun index _ => ?_) fun _ => hP.pure _
        exact hP.each fun s _ => closed_passStep hP hcount honce r total index s

theorem Scenario.closed_runPart (r : StepRun) : P (runPart once ctx r) := by
  unfold runPart
  split
  · exact hP.bind (StepRun.closed_runBy hP hcount honce r) fun _ => hP.pure ()
  · exact hP.each fun s _ => Step.closed_runBy hP hcount honce s

theorem Scenario.closed_driveBy (hskip : ∀ title, P (Recorder.skip title)) (steps : List Step) :
    P (driveBy once steps ctx) := by
  unfold driveBy
  generalize StepRun.ofSteps steps = runs
  induction runs with
  | nil => exact hP.pure ()
  | cons r rest ih =>
    refine hP.bind (hP.handle (closed_runPart hP hcount honce r) fun e => ?_) fun _ => ih
    exact hP.bind (hP.each fun s _ => hskip _) fun _ => hP.fail e

end Closed

section Deaf

open Recorder

variable {P : ∀ {α : Type}, Run α → Prop} {engine : Engine} (hP : Act.Closed P)
  (ht : engine.Touches P)
  (hchange : ∀ {f event record}, Deaf f record → P (Recorder.change f event record))
include hP ht hchange

theorem Step.closed_body_of_deaf (s : Step) (query : Option Query) (ctx : Context) :
    P (s.body engine query ctx) :=
  closed_body hP ht (fun message => hchange (deaf_softening message)) s query ctx

variable (hcount : P Recorder.count)
include hcount

theorem Step.closed_runOnce_of_deaf (s : Step) (query : Option Query) (ctx : Context) :
    P (s.runOnce engine query ctx) :=
  closed_runOnce hP ht (fun message => hchange (deaf_softening message)) hcount
    (fun title => hchange (deaf_opening title))
    (fun position _ => hchange (deaf_closing position _)) s query ctx

/-- The steps of a scenario have a property that every change of the recorder has which has nothing to
do with who listens. -/
theorem Scenario.closed_drive_of_deaf (steps : List Step) (ctx : Context) :
    P (drive engine steps ctx) :=
  closed_driveBy hP ht.count (Step.closed_runOnce_of_deaf hP ht hchange hcount)
    (fun title => hchange (deaf_skipping title)) steps

end Deaf

/-- A relation that a change of the page keeps is kept by everything that is done on the page. -/
theorem Engine.touches_within {R : Walk → Walk → Prop} (hscene : ∀ w scene, R w { w with scene })
    (engine : Engine) : engine.Touches (Act.Within R) where
  locate _ w := hscene w _
  count _ w := hscene w _
  perform _ _ _ w := hscene w _
  pause _ w := hscene w _
  check _ _ _ w := hscene w _

/-! What soft failures and quiet listeners ask of the single acts. -/

namespace Walk

theorem softened_touches (engine : Engine) : engine.Touches (Act.Within Softened) :=
  engine.touches_within fun w _ => refl_of Softened w

theorem softened_softFailure (message : String) :
    Act.Within Softened (Recorder.softFailure message) := by
  intro w
  exact ⟨[message], Recorder.softFailure_recorder message w⟩

theorem softened_runCheck (engine : Engine) (query : Option Query) (ctx : Context) (c : Check) :
    Act.Within Softened (Step.runCheck engine query ctx c) :=
  Step.closedFor_runCheck (Act.closed_within Softened).closedFor softened_softFailure
    ((softened_touches engine).check c query ctx)

theorem softened_body (engine : Engine) (s : Step) (query : Option Query) (ctx : Context) :
    Act.Within Softened (s.body engine query ctx) :=
  Step.closed_body (Act.closed_within Softened) (softened_touches engine) softened_softFailure s
    query ctx

section StaysQuiet

variable {order : Desk → Prop}

theorem staysQuietBy_touches (engine : Engine) :
    engine.Touches (Act.Within (StaysQuietBy order)) :=
  engine.touches_within fun _ _ h => h

theorem staysQuietBy_change {f : Recorder → Int → Recorder} {event : RecorderEvent}
    {record : Recorder → Option StepRecord} (hf : Recorder.Deaf f record) :
    Act.Within (StaysQuietBy order) (Recorder.change f event record) :=
  fun _ hw => (Recorder.change_quietBy hf.listeners hw).2

theorem staysQuietBy_skip (title : String) :
    Act.Within (StaysQuietBy order) (Recorder.skip title) :=
  staysQuietBy_change (Recorder.deaf_skipping title)

theorem staysQuietBy_body (engine : Engine) (s : Step) (query : Option Query) (ctx : Context) :
    Act.Within (StaysQuietBy order) (s.body engine query ctx) :=
  Step.closed_body_of_deaf (Act.closed_within (StaysQuietBy order)) (staysQuietBy_touches engine)
    staysQuietBy_change s query ctx

theorem staysQuietBy_runOnce (engine : Engine) (s : Step) (query : Option Query) (ctx : Context) :
    Act.Within (StaysQuietBy order) (s.runOnce engine query ctx) :=
  Step.closed_runOnce_of_deaf (Act.closed_within (StaysQuietBy order)) (staysQuietBy_touches engine)
    staysQuietBy_change (fun w => refl_of (StaysQuietBy order) w) s query ctx

theorem staysQuietBy_drive (engine : Engine) (steps : List Step) (ctx : Context) :
    Act.Within (StaysQuietBy order) (Scenario.drive engine steps ctx) :=
  Scenario.closed_drive_of_deaf (Act.closed_within (StaysQuietBy order)) (staysQuietBy_touches engine)
    staysQuietBy_change (fun w => refl_of (StaysQuietBy order) w) steps ctx

end StaysQuiet

/-- Whatever keeps every order that listeners can be quiet by keeps them quiet. -/
theorem staysQuiet_of_by {α : Type} {x : Run α}
    (hx : ∀ order, Act.Within (StaysQuietBy order) x) : Act.Within StaysQuiet x :=
  fun w ⟨order, hw⟩ => ⟨order, hx order w hw⟩

theorem staysQuiet_body (engine : Engine) (s : Step) (query : Option Query) (ctx : Context) :
    Act.Within StaysQuiet (s.body engine query ctx) :=
  staysQuiet_of_by fun _ => staysQuietBy_body engine s query ctx

theorem staysQuiet_runOnce (engine : Engine) (s : Step) (query : Option Query) (ctx : Context) :
    Act.Within StaysQuiet (s.runOnce engine query ctx) :=
  staysQuiet_of_by fun _ => staysQuietBy_runOnce engine s query ctx

theorem staysQuiet_runPart {once : Runner} {ctx : Context}
    (honce : ∀ s q c, Act.Within StaysQuiet (once s q c)) (r : StepRun) :
    Act.Within StaysQuiet (Scenario.runPart once ctx r) :=
  Scenario.closed_runPart (Act.closed_within StaysQuiet) (fun _ _ h => h) honce r

end Walk

theorem Step.runOnce_of_suffix {ctx : Context} {suffix : String} (hs : ctx.suffix = .ok suffix)
    (engine : Engine) (s : Step) (query : Option Query) : s.runOnce engine query ctx =
      Recorder.withStep (s.title ++ suffix) (s.body engine query ctx) := by
  unfold runOnce
  rw [hs]
  rfl

theorem Step.runOnce_of_no_suffix {ctx : Context} {e : Failure} (hs : ctx.suffix = .error e)
    (engine : Engine) (s : Step) (query : Option Query) :
    s.runOnce engine query ctx = Act.fail e := by
  unfold runOnce
  rw [hs]
  rfl

/-- One execution of a step adds one record with the step's title. The record has ended if the
execution came to its end, and with quiet listeners in any case. -/
theorem Step.runOnce_records {w : Walk} {r : Recorder} (hr : w.recorder = some r)
    (engine : Engine) (s : Step) (query : Option Query) {ctx : Context} {suffix : String}
    (hs : ctx.suffix = .ok suffix) :
    let o := s.runOnce engine query ctx w
    ∃ r' x, o.state.recorder = some r' ∧ r'.account.steps = r.account.steps ++ [x] ∧
      x.title = s.title ++ suffix ∧ (o.result = .ok () → x.EndedWith none) ∧
      (w.Quiet → ∀ e, o.result = .error e → x.EndedWith (some e.text)) := by
  rw [runOnce_of_suffix hs]
  obtain ⟨r', x, h, hsteps, htitle, hok, herr⟩ :=
    Recorder.withStep_record hr (Walk.softened_body engine s query ctx)
  exact ⟨r', x, h, hsteps, htitle, hok, herr (Walk.staysQuiet_body engine s query ctx)⟩

/-- In a repetition the title says which one it is. -/
theorem Step.runOnce_record {w : Walk} {r : Recorder} (hr : w.recorder = some r) (engine : Engine)
    (s : Step) (query : Option Query) (ctx : Context) (index total : Nat) (group : Option String) :
    let o := s.runOnce engine query (ctx.repetition index total group) w
    ∃ r' x, o.state.recorder = some r' ∧ r'.account.steps = r.account.steps ++ [x] ∧
      x.title = s.title ++ s!" [{index + 1}/{total}]" ∧ (o.result = .ok () → x.EndedWith none) ∧
      (w.Quiet → ∀ e, o.result = .error e → x.EndedWith (some e.text)) :=
  runOnce_records hr engine s query (Context.suffix_repetition ctx index total group)

end Walkthrough
