import Walkthrough.Proofs.Act
import Walkthrough.Report.Recorder

/-! What recording changes, and what it leaves alone. -/
namespace Walkthrough

/-- Whether a mark tells of recording and not of what was done to the page. -/
def Mark.isRecorder : Mark → Bool
  | recorder _ _ _ => true
  | _ => false

/-- A listener that fails at no desk in order, except with a refusal of the system, and leaves
desks in order. -/
def Listener.QuietAt (order : Desk → Prop) (l : Listener) : Prop :=
  ∀ n d, order d → order (l n d).1 ∧ ∀ e, (l n d).2 = .error e → e.isSystem = true

/-- Nobody who is told of changes fails from now on, except with a refusal of the system. -/
def Walk.Quiet (w : Walk) : Prop :=
  ∃ order : Desk → Prop, order w.desk ∧ ∀ r ∈ w.recorder, ∀ l ∈ r.listeners, l.QuietAt order

/-- The listeners fail at no desk in an order that they keep, and the desk is in it. -/
def Walk.QuietBy (order : Desk → Prop) (w : Walk) : Prop :=
  order w.desk ∧ ∀ r ∈ w.recorder, ∀ l ∈ r.listeners, l.QuietAt order

variable {w : Walk} {r : Recorder} {f : Recorder → Int → Recorder} {event : RecorderEvent}
  {record : Recorder → Option StepRecord} {title : String} {body : Run Unit}

namespace Recorder

theorem tell_trace (n : Notice) (l : Listener) (d : Desk) : (tell n l d).trace = [] := by
  unfold tell
  split
  · rfl
  · split <;> rfl

theorem each_tell_trace (n : Notice) (ls : List Listener) (d : Desk) :
    (Act.each ls (tell n) d).trace = [] := by
  induction ls generalizing d with
  | nil => rfl
  | cons l ls ih =>
    unfold Act.each
    cases h : (tell n l d).result with
    | error e => rw [Act.bind_of_error h]; exact tell_trace n l d
    | ok _ => rw [Act.bind_of_ok h]; simp only [Outcome.after, tell_trace, ih, List.append_nil]

theorem tell_of_ok {n : Notice} {l : Listener} {d : Desk} (h : (l n d).2 = .ok ()) :
    tell n l d = ⟨.ok (), (l n d).1, [], []⟩ := by
  unfold tell
  split
  · rename_i d' he
    rw [he]
  · rename_i d' e he
    rw [he] at h
    cases h

theorem tell_of_quiet {order : Desk → Prop} {l : Listener} (h : l.QuietAt order) (n : Notice)
    {d : Desk} (hd : order d) : (tell n l d).result = .ok () ∧ order (tell n l d).state := by
  obtain ⟨hkeep, hsys⟩ := h n d hd
  unfold tell
  split
  · rename_i d' he
    rw [he] at hkeep
    exact ⟨rfl, hkeep⟩
  · rename_i d' e he
    rw [he] at hkeep hsys
    rw [if_pos (hsys e rfl)]
    exact ⟨rfl, hkeep⟩

/-- Telling everybody leaves at most one mark and changes the desk alone. -/
theorem emit_eq (r : Recorder) (event : RecorderEvent) (x : Option StepRecord) (w : Walk) :
    let n : Notice := ⟨event, x, r.account, w.scene.clock⟩
    let told := Act.each r.listeners (tell n) w.desk
    r.emit event x w =
      ⟨told.result, { w with desk := told.state }, if r.traced then [markOf n] else [], told.logs⟩
    := by
  intro n told
  have ht : told.trace = [] := each_tell_trace n r.listeners w.desk
  have he : r.emit event x w = ⟨told.result, { w with desk := told.state },
      (if r.traced then [markOf n] else []) ++ told.trace, told.logs⟩ := by
    unfold emit
    cases r.traced <;> rfl
  rw [he, ht, List.append_nil]

theorem change_of_none (h : w.recorder = none) : change f event record w = ⟨.ok (), w, [], []⟩ := by
  unfold change
  simp only [Act.bind_eq, Act.bind, Act.get, h]
  rfl

theorem change_of_some (h : w.recorder = some r) :
    change f event record w =
      (f r w.scene.clock).emit event (record (f r w.scene.clock))
        { w with recorder := some (f r w.scene.clock) } := by
  unfold change
  simp only [Act.bind_eq, Act.bind, Act.get, Act.modify, h]
  rw [emit_eq]
  rfl

theorem change_scene (f : Recorder → Int → Recorder) (event : RecorderEvent)
    (record : Recorder → Option StepRecord) (w : Walk) :
    (change f event record w).state.scene = w.scene := by
  cases h : w.recorder with
  | none => rw [change_of_none h]
  | some r => rw [change_of_some h, emit_eq]

theorem change_recorder (f : Recorder → Int → Recorder) (event : RecorderEvent)
    (record : Recorder → Option StepRecord) (w : Walk) :
    (change f event record w).state.recorder = w.recorder.map fun r => f r w.scene.clock := by
  cases h : w.recorder with
  | none => rw [change_of_none h]; exact h
  | some r => rw [change_of_some h, emit_eq]; rfl

theorem change_trace (f : Recorder → Int → Recorder) (event : RecorderEvent)
    (record : Recorder → Option StepRecord) (w : Walk) :
    ∀ m ∈ (change f event record w).trace, m.isRecorder = true := by
  cases h : w.recorder with
  | none => simp [change_of_none h]
  | some r =>
    rw [change_of_some h, emit_eq]
    cases (f r w.scene.clock).traced <;> simp [markOf, Mark.isRecorder]

/-- With quiet listeners no change fails, and they stay quiet by the order of their desk. -/
theorem change_quietBy {order : Desk → Prop} (hf : ∀ r now, (f r now).listeners = r.listeners)
    (hw : w.QuietBy order) :
    (change f event record w).result = .ok () ∧ (change f event record w).state.QuietBy order := by
  cases h : w.recorder with
  | none => rw [change_of_none h]; exact ⟨rfl, hw⟩
  | some r =>
    obtain ⟨hd, hl⟩ := hw
    rw [change_of_some h, emit_eq]
    have hq : ∀ l ∈ (f r w.scene.clock).listeners, l.QuietAt order := by
      rw [hf]
      exact hl r h
    obtain ⟨hok, hkeep⟩ := Act.each_of_inv (I := order)
      (fun l hm d hd => tell_of_quiet (hq l hm) _ hd) hd
    refine ⟨hok, hkeep, ?_⟩
    intro r' hr'
    obtain rfl := Option.some.inj hr'
    exact hq

theorem change_quiet (hf : ∀ r now, (f r now).listeners = r.listeners) (hw : w.Quiet) :
    (change f event record w).result = .ok () ∧ (change f event record w).state.Quiet := by
  obtain ⟨order, hw⟩ := hw
  obtain ⟨hok, hkeep⟩ := change_quietBy hf hw
  exact ⟨hok, order, hkeep⟩

/-- A change of the recorder that has nothing to do with who listens, nor with marks of it. -/
structure Deaf (f : Recorder → Int → Recorder) (record : Recorder → Option StepRecord) : Prop where
  change : ∀ r ls now, f { r with listeners := ls } now = { f r now with listeners := ls }
  change_traced : ∀ r traced now, f { r with traced } now = { f r now with traced }
  record_traced : ∀ r traced, record { r with traced } = record r
  record : ∀ r ls, record { r with listeners := ls } = record r

theorem Deaf.listeners (h : Deaf f record) (r : Recorder) (now : Int) :
    (f r now).listeners = r.listeners := by
  have hsame := congrArg Recorder.listeners (h.change r r.listeners now)
  exact hsame

theorem deaf_beginning : Deaf beginning fun _ => none :=
  ⟨fun _ _ _ => rfl, fun _ _ _ => rfl, fun _ _ => rfl, fun _ _ => rfl⟩

theorem deaf_opening (title : String) : Deaf (fun r now => r.opening title now) current? :=
  ⟨fun _ _ _ => rfl, fun _ _ _ => rfl, fun _ _ => rfl, fun _ _ => rfl⟩

theorem deaf_closing (position : Nat) (error : Option String) :
    Deaf (fun r now => r.closing position now error) (·.record? position) :=
  ⟨fun _ _ _ => rfl, fun _ _ _ => rfl, fun _ _ => rfl, fun _ _ => rfl⟩

theorem deaf_skipping (title : String) :
    Deaf (fun r now => r.skipping title now) (·.account.steps.getLast?) :=
  ⟨fun _ _ _ => rfl, fun _ _ _ => rfl, fun _ _ => rfl, fun _ _ => rfl⟩

theorem deaf_softening (message : String) :
    Deaf (fun r _ => r.softening message) current? := by
  refine ⟨fun r ls now => ?_, fun r traced now => ?_, fun _ _ => rfl, fun _ _ => rfl⟩
  · dsimp only [softening]
    split <;> rfl
  · dsimp only [softening]
    split <;> rfl

theorem deaf_finishing (error : Option String) :
    Deaf (fun r now => r.finishing now error) fun _ => none :=
  ⟨fun _ _ _ => rfl, fun _ _ _ => rfl, fun _ _ => rfl, fun _ _ => rfl⟩

end Recorder

/-- The record of an execution that has ended, with an error or without one. -/
def StepRecord.EndedWith (x : StepRecord) (error : Option String) : Prop :=
  ∃ start now softFailures,
    x = closed { title := x.title, startTime := start, softFailures } now error

/-- On the way to another state the recorder got nothing but soft failures. -/
def Walk.Softened (w v : Walk) : Prop :=
  ∃ ms : List String, v.recorder = w.recorder.map fun r => ms.foldl Recorder.softening r

/-- Quiet listeners stay quiet on the way to another state. -/
def Walk.StaysQuiet (w v : Walk) : Prop := w.Quiet → v.Quiet

/-- Listeners that are quiet by an order stay so on the way to another state. -/
def Walk.StaysQuietBy (order : Desk → Prop) (w v : Walk) : Prop := w.QuietBy order → v.QuietBy order

instance : IsPreorder Walk Walk.Softened where
  refl w := ⟨[], by cases w.recorder <;> rfl⟩
  trans w v u := by
    rintro ⟨ms, hv⟩ ⟨ms', hu⟩
    refine ⟨ms ++ ms', ?_⟩
    rw [hu, hv, Option.map_map]
    simp only [Function.comp_def, List.foldl_append]

instance : IsPreorder Walk Walk.StaysQuiet where
  refl _ := fun h => h
  trans _ _ _ := fun h h' hw => h' (h hw)

instance (order : Desk → Prop) : IsPreorder Walk (Walk.StaysQuietBy order) where
  refl _ := fun h => h
  trans _ _ _ := fun h h' hw => h' (h hw)

theorem StepRecord.closed_endedWith (title : String) (start now : Int) (softFailures : List String)
    (error : Option String) :
    (closed { title, startTime := start, softFailures } now error).EndedWith error := by
  refine ⟨start, now, softFailures, ?_⟩
  unfold closed
  cases error with
  | some e => rfl
  | none => cases softFailures <;> rfl

theorem StepRecord.EndedWith.endTime {x : StepRecord} {error : Option String}
    (h : x.EndedWith error) : x.endTime.isSome = true := by
  obtain ⟨start, now, softFailures, hx⟩ := h
  rw [hx]
  rfl

namespace Recorder

/-- The innermost step that is open has the last record. -/
def Inside (r : Recorder) (before : List StepRecord) (x : StepRecord) : Prop :=
  r.opened.getLast? = some before.length ∧ r.account.steps = before ++ [x]

variable {before : List StepRecord} {x : StepRecord}

theorem inside_opening (r : Recorder) (title : String) (now : Int) :
    (r.opening title now).Inside r.account.steps { title, startTime := now } :=
  ⟨List.getLast?_concat, rfl⟩

theorem modify_last (before : List StepRecord) (x : StepRecord) (f : StepRecord → StepRecord) :
    (before ++ [x]).modify before.length f = before ++ [f x] := by
  rw [List.modify_eq_take_cons_drop (by simp)]
  simp

theorem Inside.softening (h : r.Inside before x) (m : String) :
    (r.softening m).Inside before { x with softFailures := x.softFailures ++ [m] } := by
  obtain ⟨hlast, hsteps⟩ := h
  unfold Recorder.softening
  rw [hlast]
  refine ⟨hlast, ?_⟩
  simp only [changeRecord, hsteps, modify_last]

theorem Inside.foldl_softening (h : r.Inside before x) (ms : List String) :
    (ms.foldl Recorder.softening r).Inside before
      { x with softFailures := x.softFailures ++ ms } := by
  induction ms generalizing r x with
  | nil => simpa using h
  | cons m ms ih => simpa using ih (h.softening m)

theorem Inside.closing (h : r.Inside before x) (now : Int) (error : Option String) :
    (r.closing before.length now error).account.steps = before ++ [x.closed now error] := by
  obtain ⟨_, hsteps⟩ := h
  simp only [Recorder.closing, dropping, changeRecord, hsteps, modify_last]

/-- The error of a result, if it is one. -/
def failure? : Except Failure Unit → Option Failure
  | .ok () => none
  | .error e => some e

/-- The position at which a walk records its next step. -/
def position (w : Walk) : Nat := w.recorder.elim 0 fun r => r.account.steps.length

theorem count_eq (w : Walk) : count w = ⟨.ok (position w), w, [], []⟩ := by
  unfold position
  cases hr : w.recorder <;> simp only [count, Act.bind_eq, Act.bind, Act.get, hr] <;> rfl

/-- A recorded act begins its step, is done, and ends its step whatever came of it. -/
theorem withStep_eq (title : String) (body : Run Unit) (w : Walk) :
    withStep title body w =
      Act.bind (openStep title) (fun _ => Act.bind (Act.attempt body) fun result =>
        Act.bind (closeStep (position w) (failure? result)) fun _ => Act.ofExcept result) w := by
  unfold withStep
  simp only [Act.bind_eq]
  rw [Act.bind_of_ok (a := position w) (by rw [count_eq]), count_eq, Outcome.after_nothing]
  congr 1
  funext _
  congr 1
  funext result
  cases result with
  | error e => rfl
  | ok _ => exact (Act.bind_pure _).symm

/-- What a recorded act comes to once its step has begun. -/
theorem withStep_of_begun (h : (openStep title w).result = .ok ()) (body : Run Unit) :
    let begun := openStep title w
    let done := body begun.state
    let ended := closeStep (position w) (failure? done.result) done.state
    let o := withStep title body w
    o.result = ended.result.bind (fun _ => done.result) ∧ o.state = ended.state ∧
      o.trace = begun.trace ++ (done.trace ++ ended.trace) := by
  intro begun done ended o
  have ho : o = (Act.bind (closeStep (position w) (failure? done.result))
      (fun _ => Act.ofExcept done.result) done.state).after
        ((⟨.ok done.result, done.state, done.trace, done.logs⟩ :
          Outcome Walk (Except Failure Unit)).after begun) := by
    show withStep title body w = _
    rw [withStep_eq, Act.bind_of_ok h, Act.bind_of_ok (a := done.result) rfl, Outcome.after_assoc]
    rfl
  rw [ho]
  cases hended : ended.result with
  | error e =>
    rw [Act.bind_of_error hended]
    exact ⟨rfl, rfl, List.append_assoc _ _ _⟩
  | ok _ =>
    rw [Act.bind_of_ok hended, Act.ofExcept_eq]
    refine ⟨rfl, rfl, ?_⟩
    simp only [Outcome.after, List.append_assoc, List.append_nil]
    rfl

/-- What a recorded act comes to: its step cannot be begun, or it is done and its step ended. -/
theorem withStep_cases (hr : w.recorder = some r) (title : String) (body : Run Unit) :
    let begun := openStep title w
    let done := body begun.state
    let ended := closeStep r.account.steps.length (failure? done.result) done.state
    (∃ e, begun.result = .error e ∧ (withStep title body w).result = .error e ∧
      (withStep title body w).state = begun.state) ∨
    (begun.result = .ok () ∧ (withStep title body w).state = ended.state ∧
      ((∃ e, ended.result = .error e ∧ (withStep title body w).result = .error e) ∨
        ended.result = .ok () ∧ (withStep title body w).result = done.result)) := by
  intro begun done ended
  cases hb : begun.result with
  | error e =>
    rw [withStep_eq, Act.bind_of_error hb]
    exact Or.inl ⟨e, rfl, rfl, rfl⟩
  | ok _ =>
    have hposition : position w = r.account.steps.length := by rw [position, hr]; rfl
    obtain ⟨hresult, hstate, -⟩ := withStep_of_begun hb body
    rw [hposition] at hresult hstate
    refine Or.inr ⟨rfl, hstate, ?_⟩
    cases hended : ended.result with
    | error e => exact Or.inl ⟨e, rfl, hresult.trans (by rw [hended]; rfl)⟩
    | ok _ => exact Or.inr ⟨rfl, hresult.trans (by rw [hended]; rfl)⟩

theorem openStep_recorder (hr : w.recorder = some r) (title : String) :
    (openStep title w).state.recorder = some (r.opening title w.scene.clock) := by
  rw [openStep, change_recorder, hr]
  rfl

theorem openStep_quiet (hw : w.Quiet) (title : String) :
    (openStep title w).result = .ok () ∧ (openStep title w).state.Quiet :=
  change_quiet (fun _ _ => rfl) hw

theorem closeStep_recorder (hr : w.recorder = some r) (position : Nat) (error : Option Failure) :
    (closeStep position error w).state.recorder =
      some (r.closing position w.scene.clock (error.map Failure.text)) := by
  rw [closeStep, change_recorder, hr]
  rfl

theorem closeStep_quiet (hw : w.Quiet) (position : Nat) (error : Option Failure) :
    (closeStep position error w).result = .ok () ∧ (closeStep position error w).state.Quiet :=
  change_quiet (fun _ _ => rfl) hw

theorem skip_quiet (hw : w.Quiet) (title : String) :
    (skip title w).result = .ok () ∧ (skip title w).state.Quiet :=
  change_quiet (fun _ _ => rfl) hw

theorem softFailure_recorder (message : String) (w : Walk) :
    (softFailure message w).state.recorder = w.recorder.map fun r => r.softening message :=
  change_recorder _ _ _ w

theorem softFailure_quiet (hw : w.Quiet) (message : String) :
    (softFailure message w).result = .ok () ∧ (softFailure message w).state.Quiet :=
  change_quiet (deaf_softening message).listeners hw

/-- A recorded act adds one record, which has ended if the act was done. With quiet listeners it
has ended in any case, with the error of the act if there was one. -/
theorem withStep_record (hr : w.recorder = some r) (hb : Act.Within Walk.Softened body) :
    let o := withStep title body w
    ∃ r' x, o.state.recorder = some r' ∧ r'.account.steps = r.account.steps ++ [x] ∧
      x.title = title ∧ (o.result = .ok () → x.EndedWith none) ∧
      (Act.Within Walk.StaysQuiet body → w.Quiet →
        ∀ e, o.result = .error e → x.EndedWith (some e.text)) := by
  intro o
  have hopen := openStep_recorder hr title
  have hinside := inside_opening r title w.scene.clock
  obtain ⟨e, hbegun, herr, hstate⟩ | ⟨_, hstate, hresult⟩ := withStep_cases hr title body
  · refine ⟨_, _, hstate ▸ hopen, hinside.2, rfl, ?_, ?_⟩
    · intro hok
      exact absurd (herr.symm.trans hok) (by simp)
    · intro _ hw
      exact absurd (hbegun.symm.trans (openStep_quiet hw title).1) (by simp)
  · obtain ⟨ms, hms⟩ := hb (openStep title w).state
    rw [hopen, Option.map_some] at hms
    have hclose := closeStep_recorder hms r.account.steps.length
      (failure? (body (openStep title w).state).result)
    have hsteps := (hinside.foldl_softening ms).closing
      (body (openStep title w).state).state.scene.clock
      ((failure? (body (openStep title w).state).result).map Failure.text)
    refine ⟨_, _, hstate ▸ hclose, hsteps, rfl, ?_, ?_⟩
    · intro hok
      obtain ⟨e, _, herr⟩ | ⟨_, hdone⟩ := hresult
      · exact absurd (herr.symm.trans hok) (by simp)
      · rw [← hdone, hok]
        exact StepRecord.closed_endedWith _ _ _ _ _
    · intro hquiet hw e herr
      have hdone := hquiet _ (openStep_quiet hw title).2
      obtain ⟨e', he, _⟩ | ⟨_, hdone⟩ := hresult
      · exact absurd (he.symm.trans (closeStep_quiet hdone _ _).1) (by simp)
      · rw [← hdone, herr]
        exact StepRecord.closed_endedWith _ _ _ _ _

/-- An act has a property under the record of a step if it has it by itself. -/
theorem closed_withStep {E : Failure → Prop} {P : ∀ {α : Type}, Run α → Prop}
    (hP : Act.ClosedFor E P) (hcount : P count) (hopen : P (openStep title))
    (hclose : ∀ position error, P (closeStep position error)) (hb : P body) :
    P (withStep title body) := by
  unfold withStep
  refine hP.bind hcount fun position => hP.bind hopen fun _ => ?_
  refine hP.attempt_bind hb fun result hresult => ?_
  cases result with
  | ok _ => exact hclose position none
  | error e => exact hP.bind (hclose position (some e)) fun _ => hP.fail (hresult e rfl)

end Recorder
end Walkthrough
