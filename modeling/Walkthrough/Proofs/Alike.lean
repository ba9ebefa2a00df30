import Walkthrough.Proofs.Engine
import Walkthrough.Proofs.Timeless

/-!
Two runs of the same steps, one of them later. As long as nobody who is told of the changes fails,
they come to the same and record the same, at times that lie apart as far as at the beginning.
-/
namespace Walkthrough

namespace StepRecord

/-- The record with its times moved. -/
def later (d : Int) (x : StepRecord) : StepRecord :=
  { x with startTime := x.startTime + d, endTime := x.endTime.map (· + d) }

theorem later_injective (d : Int) : Function.Injective (later d) := by
  rintro ⟨title, start, status, error, stop, softFailures⟩ ⟨_, start', _, _, stop', _⟩ h
  simp only [later, mk.injEq] at h
  obtain ⟨rfl, hstart, rfl, rfl, hstop, rfl⟩ := h
  obtain rfl : start = start' := by omega
  obtain rfl : stop = stop' := Option.map_injective (fun _ _ hsame => by omega) hstop
  rfl

theorem later_closed (d : Int) (x : StepRecord) (now : Int) (error : Option String) :
    (x.later d).closed (now + d) error = (x.closed now error).later d := by
  unfold closed
  cases error with
  | some e => rfl
  | none =>
    cases h : x.softFailures.isEmpty with
    | true => simp [later, h]
    | false => simp [later, h]

end StepRecord

namespace Account

/-- The account with its times moved. -/
def later (d : Int) (a : Account) : Account :=
  { a with
    steps := a.steps.map (StepRecord.later d)
    startTime := a.startTime + d
    endTime := a.endTime.map (· + d) }

theorem later_softFailures (d : Int) (a : Account) : (a.later d).softFailures = a.softFailures := by
  unfold softFailures later
  rw [List.flatMap_map]
  rfl

theorem later_finished (d : Int) (a : Account) (now : Int) (error : Option String) :
    (a.later d).finished (now + d) error = (a.finished now error).later d := by
  unfold finished
  cases error with
  | some e => rfl
  | none =>
    rw [later_softFailures]
    cases h : a.softFailures.isEmpty with
    | true => simp [later]
    | false => simp [later]

end Account

/-- Two recorders that hold the same, one of them later. They may tell it to different listeners. -/
structure Recorder.Alike (d : Int) (r r' : Recorder) : Prop where
  account : r'.account = r.account.later d
  opened : r'.opened = r.opened

/-- Two states of the same run, one of them later: the same page and the same records, and listeners
that do not fail. -/
structure Walk.Alike (d : Int) (w w' : Walk) : Prop where
  scene : w'.scene = w.scene.later d
  recorder : ∃ r r', w.recorder = some r ∧ w'.recorder = some r' ∧ r.Alike d r'
  quiet : w.Quiet
  quiet' : w'.Quiet

namespace Recorder

variable {d : Int} {r r' : Recorder}

theorem Alike.steps (h : r.Alike d r') :
    r'.account.steps = r.account.steps.map (StepRecord.later d) := by
  rw [h.account]
  rfl

theorem Alike.addRecord (h : r.Alike d r') (x : StepRecord) :
    (r.addRecord x).Alike d (r'.addRecord (x.later d)) := by
  refine ⟨?_, h.opened⟩
  unfold Recorder.addRecord
  rw [h.account]
  simp [Account.later]

theorem Alike.changeRecord (h : r.Alike d r') (position : Nat) {f f' : StepRecord → StepRecord}
    (hf : ∀ x, f' (x.later d) = (f x).later d) :
    (r.changeRecord position f).Alike d (r'.changeRecord position f') := by
  have hmodify : ∀ (xs : List StepRecord) (n : Nat),
      (xs.map (StepRecord.later d)).modify n f' = (xs.modify n f).map (StepRecord.later d) := by
    intro xs
    induction xs with
    | nil => intro n; simp
    | cons x xs ih =>
      intro n
      cases n with
      | zero => simp [hf]
      | succ n => simp [ih]
  refine ⟨?_, h.opened⟩
  unfold Recorder.changeRecord
  rw [h.account]
  simp only [Account.later, hmodify]

theorem Alike.opening (h : r.Alike d r') (title : String) (now : Int) :
    (r.opening title now).Alike d (r'.opening title (now + d)) := by
  have hopened : ({ r with opened := r.opened ++ [r.account.steps.length] } : Recorder).Alike d
      { r' with opened := r'.opened ++ [r'.account.steps.length] } := by
    refine ⟨h.account, ?_⟩
    simp only [h.opened, h.steps, List.length_map]
  exact hopened.addRecord { title, startTime := now }

theorem Alike.record? (h : r.Alike d r') (position : Nat) :
    r'.record? position = (r.record? position).map (StepRecord.later d) := by
  unfold Recorder.record?
  rw [h.steps, List.getElem?_map]

/-- Records that are equal are so at other times. -/
theorem Alike.dropping (h : r.Alike d r') (position : Nat) :
    (r.dropping position).Alike d (r'.dropping position) := by
  refine ⟨h.account, ?_⟩
  have hsame : ∀ n, r'.record? n = r'.record? position ↔ r.record? n = r.record? position := by
    intro n
    rw [h.record?, h.record?]
    exact (Option.map_injective (StepRecord.later_injective d)).eq_iff
  simp only [Recorder.dropping, h.opened, hsame]

theorem Alike.closing (h : r.Alike d r') (position : Nat) (now : Int) (error : Option String) :
    (r.closing position now error).Alike d (r'.closing position (now + d) error) :=
  (h.changeRecord position fun x => x.later_closed d now error).dropping position

theorem Alike.skipping (h : r.Alike d r') (title : String) (now : Int) :
    (r.skipping title now).Alike d (r'.skipping title (now + d)) :=
  h.addRecord { title, startTime := now, status := .skipped, endTime := some now }

theorem Alike.softening (h : r.Alike d r') (message : String) :
    (r.softening message).Alike d (r'.softening message) := by
  unfold Recorder.softening
  rw [h.opened]
  split
  · exact h.changeRecord _ fun _ => rfl
  · refine ⟨?_, rfl⟩
    rw [h.account]
    rfl

end Recorder

namespace Walk

variable {d : Int}

/-- A change of the recorder that moves with the time keeps two states alike. -/
theorem alike_change {f : Recorder → Int → Recorder} {event : RecorderEvent}
    {record : Recorder → Option StepRecord} (hdeaf : Recorder.Deaf f record)
    (hf : ∀ r r' now, r.Alike d r' → (f r now).Alike d (f r' (now + d))) :
    Act.Respects (Alike d) (Recorder.change f event record) := by
  intro w w' h
  obtain ⟨r, r', hr, hr', halike⟩ := h.recorder
  have hquiet : ∀ v : Walk, v.Quiet → (Recorder.change f event record v).result = .ok () ∧
      (Recorder.change f event record v).state.Quiet := fun _ => Recorder.change_quiet hdeaf.listeners
  refine ⟨(hquiet w' h.quiet').1.trans (hquiet w h.quiet).1.symm, ?_, ?_, (hquiet w h.quiet).2,
    (hquiet w' h.quiet').2⟩
  · rw [Recorder.change_scene, Recorder.change_scene]
    exact h.scene
  · refine ⟨_, _, ?_, ?_, hf r r' w.scene.clock halike⟩
    · rw [Recorder.change_recorder, hr]
      rfl
    · rw [Recorder.change_recorder, hr', h.scene]
      rfl

theorem alike_openStep (title : String) :
    Act.Respects (Alike d) (Recorder.openStep title) :=
  alike_change (Recorder.deaf_opening title) fun _ _ now h => h.opening title now

theorem alike_closeStep (position : Nat) (error : Option Failure) :
    Act.Respects (Alike d) (Recorder.closeStep position error) :=
  alike_change (Recorder.deaf_closing position _) fun _ _ now h => h.closing position now _

theorem alike_skip (title : String) : Act.Respects (Alike d) (Recorder.skip title) :=
  alike_change (Recorder.deaf_skipping title) fun _ _ now h => h.skipping title now

theorem alike_softFailure (message : String) :
    Act.Respects (Alike d) (Recorder.softFailure message) :=
  alike_change (Recorder.deaf_softening message) fun _ _ _ h => h.softening message

theorem alike_count : Act.Respects (Alike d) Recorder.count := by
  intro w w' h
  obtain ⟨r, r', hr, hr', halike⟩ := h.recorder
  refine ⟨?_, h⟩
  simp only [Recorder.count, Act.bind_eq, Act.bind, Act.get, hr, hr', halike.steps, List.length_map]
  rfl

/-- What comes to the same later comes to the same in a later run. -/
theorem alike_onScene {α : Type} {x : Play α} (hx : SameLater d x) :
    Act.Respects (Alike d) (Run.onScene x) := by
  intro w w' h
  obtain ⟨hresult, hstate⟩ := hx w.scene w'.scene h.scene
  exact ⟨hresult, hstate, h.recorder, h.quiet, h.quiet'⟩

variable {engine : Engine}
  (hplugins : engine.plugins.All (Handler.SameLater d) (Handler.SameLater d))
include hplugins

theorem alike_touches : engine.Touches (Act.Respects (Alike d)) :=
  Engine.touches_of_handlers (sameLater_closed d) hplugins alike_onScene

theorem alike_runOnce (s : Step) (query : Option Query) (ctx : Context) :
    Act.Respects (Alike d) (s.runOnce engine query ctx) :=
  Step.closed_runOnce (Act.closed_respects (Alike d)) (alike_touches hplugins) alike_softFailure
    alike_count alike_openStep alike_closeStep s query ctx

/-- The steps of a scenario come to the same in a later run, and record the same. -/
theorem alike_drive (steps : List Step) (ctx : Context) :
    Act.Respects (Alike d) (Scenario.drive engine steps ctx) :=
  Scenario.closed_driveBy (Act.closed_respects (Alike d)) (alike_touches hplugins).count
    (alike_runOnce hplugins) alike_skip steps

end Walk
end Walkthrough
