import Walkthrough.Proofs.Outcome

/-!
Who listens to a scenario observes it and changes nothing about it, as long as nobody fails except
with a refusal of the system: with and without listeners a scenario does the same to the page and
comes to the same.
-/
namespace Walkthrough

/-- What happens in a scenario, in order: everybody is told something, or a mark is left. -/
inductive Happening where
  | told (n : Notice)
  | left (m : Mark)

namespace Happening

def notice? : Happening → Option Notice
  | told n => some n
  | left _ => none

def mark? : Happening → Option Mark
  | told _ => none
  | left m => some m

/-- The mark that a traced recorder leaves of a notice, or the mark that is left in any case. -/
def mark : Happening → Mark
  | told n => Recorder.markOf n
  | left m => m

end Happening

abbrev Story : Type := List Happening

def Story.notices (story : Story) : List Notice := story.filterMap Happening.notice?

/-- The marks of a story under a recorder that is traced or not. -/
def Story.marks (traced : Bool) (story : Story) : List Mark :=
  if traced then story.map Happening.mark else story.filterMap Happening.mark?

section Story

variable (a b : Story) (traced : Bool)

theorem Story.notices_append : notices (a ++ b) = notices a ++ notices b := List.filterMap_append

theorem Story.marks_append : marks traced (a ++ b) = marks traced a ++ marks traced b := by
  cases traced with
  | false => exact List.filterMap_append
  | true => exact List.map_append

/-- A story in which nobody is told anything is the marks that are left. -/
theorem Story.of_marks (marks : List Mark) :
    Story.notices (marks.map .left) = [] ∧ Story.marks traced (marks.map .left) = marks := by
  constructor
  · apply List.filterMap_eq_nil_iff.mpr
    intro x hx
    obtain ⟨m, -, rfl⟩ := List.mem_map.mp hx
    rfl
  · induction marks with
    | nil => cases traced <;> rfl
    | cons m marks ih =>
      rw [List.map_cons, ← List.singleton_append, Story.marks_append, ih]
      cases traced <;> rfl

end Story

namespace Desk

variable {order : Desk → Prop} {ls : List Listener} {d : Desk}

/-- The desk after all listeners have been told of something, one after the other. -/
def hear (ls : List Listener) (d : Desk) (n : Notice) : Desk := ls.foldl (fun d l => (l n d).1) d

/-- The desk after all listeners have been told of one thing after the other. -/
def hearAll (ls : List Listener) (d : Desk) (notices : List Notice) : Desk :=
  notices.foldl (hear ls) d

theorem hear_order (hl : ∀ l ∈ ls, l.QuietAt order) (hd : order d) (n : Notice) :
    order (d.hear ls n) := by
  induction ls generalizing d with
  | nil => exact hd
  | cons l ls ih =>
    apply ih fun l' hl' => hl l' (List.mem_cons_of_mem l hl')
    exact (hl l List.mem_cons_self n d hd).1

theorem hearAll_order (hl : ∀ l ∈ ls, l.QuietAt order) (hd : order d) (notices : List Notice) :
    order (d.hearAll ls notices) := by
  induction notices generalizing d with
  | nil => exact hd
  | cons n notices ih => exact ih (hear_order hl hd n)

theorem hearAll_append (ls : List Listener) (d : Desk) (a b : List Notice) :
    d.hearAll ls (a ++ b) = (d.hearAll ls a).hearAll ls b := List.foldl_append

/-- Nobody changes nothing. -/
theorem hearAll_nil (d : Desk) (notices : List Notice) : d.hearAll [] notices = d := by
  induction notices with
  | nil => rfl
  | cons n notices ih => exact ih

end Desk

namespace Recorder

variable {order : Desk → Prop} {ls : List Listener} {d : Desk}

theorem tell_state (n : Notice) (l : Listener) (d : Desk) : (tell n l d).state = (l n d).1 := by
  unfold tell
  split
  · rename_i hl
    rw [hl]
  · rename_i hl
    rw [hl]
    split <;> rfl

/-- Quiet listeners are told one after the other, each at the desk that the one before left, whether
that one failed or not. -/
theorem each_tell_of_quiet (hl : ∀ l ∈ ls, l.QuietAt order) (hd : order d) (n : Notice) :
    (Act.each ls (tell n) d).result = .ok () ∧ (Act.each ls (tell n) d).state = d.hear ls n := by
  induction ls generalizing d with
  | nil => exact ⟨rfl, rfl⟩
  | cons l ls ih =>
    obtain ⟨hok, hkeep⟩ := tell_of_quiet (hl l List.mem_cons_self) n hd
    unfold Act.each
    rw [Act.bind_of_ok hok, tell_state]
    rw [tell_state] at hkeep
    exact ih (fun l' hl' => hl l' (List.mem_cons_of_mem l hl')) hkeep

end Recorder

/-- The recorder with other listeners, traced or not. -/
def Recorder.attended (traced : Bool) (ls : List Listener) (r : Recorder) : Recorder :=
  { r with listeners := ls, traced }

/-- The same state at another desk, with other listeners who are there, and with a recorder that is
traced or not. -/
def Walk.attended (traced : Bool) (ls : List Listener) (d : Desk) (w : Walk) : Walk :=
  { w with recorder := w.recorder.map (Recorder.attended traced ls), desk := d }

/-- The same state with nobody listening. -/
def Walk.unattended (w : Walk) : Walk := w.attended false [] w.desk

theorem Walk.attended_attended (w : Walk) (traced traced' : Bool) (ls ls' : List Listener)
    (d d' : Desk) :
    (w.attended traced ls d).attended traced' ls' d' = w.attended traced' ls' d' := by
  unfold Walk.attended
  rw [Option.map_map]
  rfl

theorem Recorder.Deaf.attended {f : Recorder → Int → Recorder}
    {record : Recorder → Option StepRecord} (h : Deaf f record) (traced : Bool)
    (ls : List Listener) (r : Recorder) (now : Int) :
    f (r.attended traced ls) now = (f r now).attended traced ls ∧
      record (r.attended traced ls) = record r := by
  have hsplit : r.attended traced ls = { { r with listeners := ls } with traced } := rfl
  constructor
  · rw [hsplit, h.change_traced, h.change]
    rfl
  · rw [hsplit, h.record_traced, h.record]

/-- Before quiet listeners a change is what it is before any others, and all are told of it. -/
theorem Recorder.change_attended {f : Recorder → Int → Recorder} (event : RecorderEvent)
    {record : Recorder → Option StepRecord} (hf : Deaf f record) {w : Walk} {r : Recorder}
    (hr : w.recorder = some r) {order : Desk → Prop} {ls : List Listener} {d : Desk}
    (hl : ∀ l ∈ ls, l.QuietAt order) (hd : order d) (traced : Bool) :
    let changed := f r w.scene.clock
    let n : Notice := ⟨event, record changed, changed.account, w.scene.clock⟩
    let o := change f event record (w.attended traced ls d)
    o.result = .ok () ∧
      o.state = { w with recorder := some (changed.attended traced ls), desk := d.hear ls n } ∧
      o.trace = if traced then [markOf n] else [] := by
  intro changed n o
  have hsome : (w.attended traced ls d).recorder = some (r.attended traced ls) :=
    congrArg (Option.map (Recorder.attended traced ls)) hr
  obtain ⟨hsame, -⟩ := hf.attended traced ls r w.scene.clock
  obtain ⟨-, hrecord⟩ := hf.attended traced ls changed w.scene.clock
  obtain ⟨hok, hdesk⟩ := each_tell_of_quiet hl hd n
  have ho : o = (changed.attended traced ls).emit event (record changed)
      { w with recorder := some (changed.attended traced ls), desk := d } := by
    have h : change f event record (w.attended traced ls d) = _ := change_of_some hsome
    rw [show (w.attended traced ls d).scene = w.scene from rfl, hsame, hrecord] at h
    exact h
  rw [ho, emit_eq]
  refine ⟨hok, ?_, rfl⟩
  exact congrArg (fun desk => (⟨w.scene, some (changed.attended traced ls), desk⟩ : Walk)) hdesk

/-- How an act comes out before an audience if it comes out in the second way before nobody: alike,
except that the audience is told of the story. -/
structure Outcome.Overheard {α : Type} (story : Story) (traced : Bool) (ls : List Listener)
    (d : Desk) (o alone : Outcome Walk α) : Prop where
  result : o.result = alone.result
  state : o.state = alone.state.attended traced ls (d.hearAll ls story.notices)
  trace : o.trace = story.marks traced

/-- Acts that have one story, whoever listens to it. -/
def Observed {α : Type} (x : Run α) : Prop :=
  ∀ w : Walk, ∃ story : Story, ∀ traced ls d, ∀ order : Desk → Prop, order d →
    (∀ l ∈ ls, l.QuietAt order) →
    (x (w.attended traced ls d)).Overheard story traced ls d (x w.unattended)

namespace Observed

variable {α β : Type}

/-- An act that neither tells anybody anything nor has to do with who listens. -/
theorem of_silent {x : Run α} (trace : Walk → List Mark)
    (h : ∀ w traced ls d, (x (w.attended traced ls d)).result = (x w.unattended).result ∧
      (x (w.attended traced ls d)).state = (x w.unattended).state.attended traced ls d ∧
      (x (w.attended traced ls d)).trace = trace w) : Observed x := by
  intro w
  refine ⟨(trace w).map .left, ?_⟩
  intro traced ls d order hd hl
  obtain ⟨hresult, hstate, htrace⟩ := h w traced ls d
  obtain ⟨hnotices, hmarks⟩ := Story.of_marks traced (trace w)
  refine ⟨hresult, ?_, ?_⟩
  · rw [hnotices]
    exact hstate
  · rw [hmarks]
    exact htrace

/-- An act before nobody leaves a state in which nobody listens. -/
theorem unattended {x : Run α} {w : Walk} {story : Story}
    (h : (x w.unattended).Overheard story false [] w.desk (x w.unattended)) :
    (x w.unattended).state.unattended = (x w.unattended).state := by
  have hdesk : (x w.unattended).state.desk = w.desk := by
    rw [h.state]
    exact Desk.hearAll_nil w.desk story.notices
  show (x w.unattended).state.attended false [] (x w.unattended).state.desk = _
  rw [hdesk]
  conv_rhs => rw [h.state, Desk.hearAll_nil]

/-- What comes second goes on with the story where the first part left it. -/
theorem continued {x : Run α} {w : Walk} {story : Story}
    (hx : ∀ traced ls d, ∀ order : Desk → Prop, order d → (∀ l ∈ ls, l.QuietAt order) →
      (x (w.attended traced ls d)).Overheard story traced ls d (x w.unattended))
    {y : Run β} (hy : Observed y) :
    ∃ story' : Story, ∀ traced ls d, ∀ order : Desk → Prop, order d →
      (∀ l ∈ ls, l.QuietAt order) →
      ((y (x (w.attended traced ls d)).state).after (x (w.attended traced ls d))).Overheard
        story' traced ls d ((y (x w.unattended).state).after (x w.unattended)) := by
  obtain ⟨story', hstory'⟩ := hy (x w.unattended).state
  refine ⟨story ++ story', ?_⟩
  intro traced ls d order hd hl
  have hfirst := hx traced ls d order hd hl
  have hsecond := hstory' traced ls _ order (Desk.hearAll_order hl hd story.notices) hl
  have halone := unattended (hx false [] w.desk (fun _ => True) trivial fun l hl => by cases hl)
  rw [halone, ← hfirst.state] at hsecond
  refine ⟨hsecond.result, ?_, ?_⟩
  · rw [Outcome.after_state, hsecond.state, Story.notices_append, Desk.hearAll_append]
    rfl
  · show _ ++ _ = _
    rw [hfirst.trace, hsecond.trace, Story.marks_append]

end Observed

theorem Act.closed_observed : Act.Closed (fun {_} x => Observed x) where
  pure _ := Observed.of_silent (fun _ => []) fun w _ _ _ =>
    ⟨rfl, (w.attended_attended _ _ _ _ _ _).symm, rfl⟩
  fail _ := Observed.of_silent (fun _ => []) fun w _ _ _ =>
    ⟨rfl, (w.attended_attended _ _ _ _ _ _).symm, rfl⟩
  log _ _ _ := Observed.of_silent (fun _ => []) fun w _ _ _ =>
    ⟨rfl, (w.attended_attended _ _ _ _ _ _).symm, rfl⟩
  bind := by
    intro α β x f hx hf w
    obtain ⟨story, hstory⟩ := hx w
    cases hr : (x w.unattended).result with
    | error e =>
      refine ⟨story, ?_⟩
      intro traced ls d order hd hl
      have h := hstory traced ls d order hd hl
      rw [bind_of_error hr, bind_of_error (h.result.trans hr)]
      exact ⟨rfl, h.state, h.trace⟩
    | ok a =>
      obtain ⟨story', hstory'⟩ := Observed.continued hstory (hf a)
      refine ⟨story', ?_⟩
      intro traced ls d order hd hl
      have h := hstory traced ls d order hd hl
      rw [bind_of_ok hr, bind_of_ok (h.result.trans hr)]
      exact hstory' traced ls d order hd hl
  handle := by
    intro α x g hx hg w
    obtain ⟨story, hstory⟩ := hx w
    cases hr : (x w.unattended).result with
    | error e =>
      obtain ⟨story', hstory'⟩ := Observed.continued hstory (hg e)
      refine ⟨story', ?_⟩
      intro traced ls d order hd hl
      have h := hstory traced ls d order hd hl
      rw [handle_of_error hr, handle_of_error (h.result.trans hr)]
      exact hstory' traced ls d order hd hl
    | ok a =>
      refine ⟨story, ?_⟩
      intro traced ls d order hd hl
      have h := hstory traced ls d order hd hl
      rw [handle_of_ok hr, handle_of_ok (h.result.trans hr)]
      exact h
  attempt := by
    intro α x hx w
    obtain ⟨story, hstory⟩ := hx w
    refine ⟨story, ?_⟩
    intro traced ls d order hd hl
    have h := hstory traced ls d order hd hl
    exact ⟨congrArg Except.ok h.result, h.state, h.trace⟩

namespace Observed

/-- What is done on the page has nothing to do with who listens. -/
theorem onScene {α : Type} (x : Play α) : Observed (Run.onScene x) := by
  apply of_silent fun w => (x w.scene).trace
  intro w traced ls d
  refine ⟨rfl, ?_, rfl⟩
  exact (Walk.attended_attended { w with scene := (x w.scene).state } _ _ _ _ _ _).symm

theorem touches (engine : Engine) : engine.Touches (fun {_} x => Observed x) :=
  ⟨fun _ => onScene _, fun _ => onScene _, fun _ _ _ => onScene _, fun _ => onScene _,
    fun _ _ _ => onScene _⟩

theorem now : Observed Run.now :=
  of_silent (fun _ => []) fun w _ _ _ => ⟨rfl, (w.attended_attended _ _ _ _ _ _).symm, rfl⟩

theorem count : Observed Recorder.count := by
  apply of_silent fun _ => []
  intro w traced ls d
  have hstate := (w.attended_attended false traced [] ls w.desk d).symm
  rw [Recorder.count_eq, Recorder.count_eq]
  refine ⟨?_, hstate, rfl⟩
  unfold Recorder.position Walk.unattended Walk.attended
  cases w.recorder <;> rfl

theorem account : Observed Scenario.account := by
  apply of_silent fun _ => []
  intro w traced ls d
  have hstate := (w.attended_attended false traced [] ls w.desk d).symm
  refine ⟨?_, hstate, rfl⟩
  show Except.ok _ = Except.ok _
  unfold Walk.unattended Walk.attended
  cases w.recorder <;> rfl

/-- A change of the recorder is told to everybody, and comes to the same whoever they are. -/
theorem change {f : Recorder → Int → Recorder} {event : RecorderEvent}
    {record : Recorder → Option StepRecord} (hf : Recorder.Deaf f record) :
    Observed (Recorder.change f event record) := by
  intro w
  cases hr : w.recorder with
  | none =>
    refine ⟨[], ?_⟩
    intro traced ls d order hd hl
    have hnone : ∀ traced ls d, (w.attended traced ls d).recorder = none := by
      intro traced ls d
      exact congrArg (Option.map (Recorder.attended traced ls)) hr
    have hstate := (w.attended_attended false traced [] ls w.desk d).symm
    unfold Walk.unattended
    rw [Recorder.change_of_none (hnone traced ls d),
      Recorder.change_of_none (hnone false [] w.desk)]
    refine ⟨rfl, hstate, ?_⟩
    cases traced <;> rfl
  | some r =>
    let changed := f r w.scene.clock
    refine ⟨[.told ⟨event, record changed, changed.account, w.scene.clock⟩], ?_⟩
    intro traced ls d order hd hl
    obtain ⟨hok, hstate, htrace⟩ := Recorder.change_attended event hf hr hl hd traced
    have hnobody : ∀ l ∈ ([] : List Listener), l.QuietAt fun _ => True := fun l hl => by cases hl
    obtain ⟨hok', hstate', -⟩ :=
      Recorder.change_attended event hf hr hnobody (d := w.desk) trivial false
    refine ⟨hok.trans hok'.symm, ?_, ?_⟩
    · rw [hstate, Walk.unattended, hstate']
      rfl
    · rw [htrace]
      cases traced <;> rfl

end Observed

namespace Scenario

variable {setup : Setup} {s : Scenario} {w : Walk}

theorem observed_going (setup : Setup) (s : Scenario) (report : Option Path) :
    Observed (going setup s report) := by
  have hP := Act.closed_observed
  have hdrive : Observed (drive setup.engine s.steps (context setup s)) :=
    closed_drive_of_deaf hP (Observed.touches setup.engine) Observed.change Observed.count _ _
  apply hP.bind Observed.now
  intro started
  apply hP.bind (hP.attempt hdrive)
  intro r
  apply hP.bind (Observed.change (Recorder.deaf_finishing _))
  intro _
  apply hP.bind Observed.account
  intro a
  apply hP.bind Observed.now
  intro now
  exact hP.pure _

/-- All that is recorded of a scenario, from its begin to its end. -/
def recorded (setup : Setup) (s : Scenario) (report : Option Path) : Run ScenarioResult :=
  Act.bind Recorder.beginScenario fun _ => going setup s report

theorem observed_recorded (setup : Setup) (s : Scenario) (report : Option Path) :
    Observed (recorded setup s report) :=
  Act.closed_observed.bind (Observed.change Recorder.deaf_beginning) fun _ =>
    observed_going setup s report

/-- Where the report is kept is only told in the result. -/
theorem recorded_report (setup : Setup) (s : Scenario) (report : Option Path) :
    recorded setup s report =
      Act.bind (recorded setup s none) fun result => Act.pure { result with report } := by
  unfold recorded going conclude
  simp only [Act.bind_assoc, Act.pure_bind]
  rfl

theorem runRecorded_recorded (setup : Setup) (s : Scenario) (ls : List Listener)
    (report : Option Path) (w : Walk) :
    let o := runRecorded setup s ls report w
    let o' := recorded setup s report (s.recordedBy ls w)
    o.result = o'.result ∧ o.state = o'.state ∧ o.trace = o'.trace := by
  intro o o'
  have h : { o with logs := [] } = { o' with logs := [] } :=
    congrFun (runRecorded_eq setup s ls report) w
  obtain ⟨hresult, hstate, htrace, -⟩ := Outcome.mk.inj h
  exact ⟨hresult, hstate, htrace⟩

/-- The scenario is run with neither a report nor an event log. -/
def Setup.silent (setup : Setup) : Setup := { setup with writeReports := false, journal := none }

/-- Runs a scenario before nobody, under a recorder that leaves marks of what it records. -/
def runMarked (setup : Setup) (s : Scenario) : Run ScenarioResult := fun w =>
  recorded setup s none ((s.recordedBy [] w).attended true [] w.desk)

theorem run_silent_ok (setup : Setup) (s : Scenario) (w : Walk) :
    ∃ result, (s.run setup.silent w).result = .ok result := by
  apply run_returns_iff.mpr
  refine ⟨fun h => ?_, fun n hn => ?_⟩
  · cases h
  · cases hn

/-- To open a report changes the desk alone. -/
theorem startReport_desk (setup : Setup) (s : Scenario) (w : Walk) :
    let o := startReport setup s w
    o.state = { w with desk := o.state.desk } ∧ o.trace = [] := by
  intro o
  have ho : o = _ := startReport_eq setup s w
  rw [ho]
  split
  · split <;> exact ⟨rfl, rfl⟩
  · exact ⟨rfl, rfl⟩

/-- Before any quiet listeners a scenario gives one and the same result. -/
theorem recorded_observed (setup : Setup) (s : Scenario) (w : Walk) :
    let alone := s.run setup.silent w
    ∃ result story, alone.result = .ok result ∧
      ∀ traced ls d report, ∀ order : Desk → Prop, order d → (∀ l ∈ ls, l.QuietAt order) →
        let o := recorded setup s report ((s.recordedBy [] w).attended traced ls d)
        o.result = .ok { result with report } ∧ o.trace = Story.marks traced story ∧
          o.state.scene = alone.state.scene ∧ o.state.desk = d.hearAll ls story.notices := by
  intro alone
  obtain ⟨result, hresult⟩ := run_silent_ok setup s w
  obtain ⟨story, hstory⟩ := observed_recorded setup s none (s.recordedBy [] w)
  obtain ⟨hsame, hstate, -⟩ := runRecorded_recorded setup s [] none w
  refine ⟨result, story, hresult, ?_⟩
  intro traced ls d report order hd hl o
  have h := hstory traced ls d order hd hl
  have hok : (recorded setup s none ((s.recordedBy [] w).attended traced ls d)).result =
      .ok result := h.result.trans (hsame.symm.trans hresult)
  have ho : o = _ := congrFun (recorded_report setup s report) _
  rw [Act.bind_of_ok hok] at ho
  rw [ho]
  refine ⟨rfl, ?_, ?_, ?_⟩
  · show _ ++ [] = _
    rw [List.append_nil, h.trace]
  · show Walk.scene (recorded setup s none _).state = _
    rw [h.state, show alone.state = _ from hstate]
    rfl
  · show Walk.desk (recorded setup s none _).state = _
    rw [h.state]
    rfl

/-- Listening changes nothing. A scenario has one story: before all listeners who fail only with
refusals of the system it gives the result that it gives before nobody, except for where the report
is kept, and it leaves the same marks and the same page. All listeners are told all notices of the
story, in their order, whoever of them fails. This goes for the report and the event log, however
their writing fails, if the directory of the report can be made and the event log is open. -/
theorem run_observed (setup : Setup) (s : Scenario) (w : Walk) :
    let alone := s.run setup.silent w
    ∃ result story, alone.result = .ok result ∧ alone.trace = Story.marks false story ∧
      (runMarked setup s w).trace = Story.marks true story ∧
      (∀ ls report, ∀ order : Desk → Prop, order w.desk → (∀ l ∈ ls, l.QuietAt order) →
        let o := runRecorded setup s ls report w
        o.result = .ok { result with report } ∧ o.trace = alone.trace ∧
          o.state.scene = alone.state.scene ∧ o.state.desk = w.desk.hearAll ls story.notices) ∧
      (setup.Ready w.desk →
        let o := s.run setup w
        let opened := startReport setup s w
        let report := reportAt setup.engine setup.writeReports s w.scene.clock
        o.result = .ok { result with report } ∧ o.trace = alone.trace ∧
          o.state.scene = alone.state.scene ∧ ∃ kept, opened.result = .ok kept ∧
            o.state.desk = opened.state.desk.hearAll (listeners setup kept) story.notices) := by
  intro alone
  obtain ⟨result, story, hresult, hstory⟩ := recorded_observed setup s w
  have hrecorded : ∀ ls d report, ∀ order : Desk → Prop, order d → (∀ l ∈ ls, l.QuietAt order) →
      let o := runRecorded setup s ls report { w with desk := d }
      o.result = .ok { result with report } ∧ o.trace = Story.marks false story ∧
        o.state.scene = alone.state.scene ∧ o.state.desk = d.hearAll ls story.notices := by
    intro ls d report order hd hl o
    obtain ⟨hsame, hstate, htrace⟩ := runRecorded_recorded setup s ls report { w with desk := d }
    rw [hsame, hstate, htrace]
    exact hstory false ls d report order hd hl
  have halone : alone.trace = Story.marks false story :=
    (hrecorded [] w.desk none (fun _ => True) trivial fun l hl => by cases hl).2.1
  have hmarked : (runMarked setup s w).trace = Story.marks true story :=
    (hstory true [] w.desk none (fun _ => True) trivial fun l hl => by cases hl).2.1
  refine ⟨result, story, hresult, halone, hmarked, ?_, ?_⟩
  · rw [halone]
    intro ls report order
    exact hrecorded ls w.desk report order
  · intro hready o opened report
    obtain ⟨kept, slot, hkept, hpath, -, hserves, hquiet⟩ := startReport_ready (s := s) hready
    obtain ⟨hopened, hnone⟩ := startReport_desk setup s w
    obtain ⟨hok, htrace, hscene, hdesk⟩ := hrecorded (listeners setup kept) opened.state.desk
      (kept.map (·.2)) _ hserves hquiet
    have ho : o = _ := Act.bind_of_ok hkept
    rw [ho, hopened]
    refine ⟨?_, ?_, hscene, kept, hkept, hdesk⟩
    · rw [show report = kept.map (·.2) from hpath.symm]
      exact hok
    · show opened.trace ++ _ = _
      rw [show opened.trace = [] from hnone, List.nil_append, halone]
      exact htrace

/-- A soft check fails and then the handler of a plugin. Of three listeners the first one is refused
something at every notice, and the second one is an event log in a directory that is gone. -/
theorem run_observed_of_refusals :
    let engine : Engine :=
      { settings := default
        plugins := (({} : Plugins).registerAll Bundled.registrations).1.freeze }
    let s : Scenario :=
      { description := "Words"
        steps := [
          { action := .wait, waitTime := some 7
            checks := [{ kind := .hasTitle, data := .str "Home", soft := true }] },
          { action := .custom "selectWord" .null },
          { action := .wait, waitTime := some 5 }] }
    let setup : Setup := { engine, runId := "r", journal := some 0 }
    let w : Walk :=
      { desk := { journals := [{ runId := "r", path := ⟨.slash, ["gone", "r.jsonl"]⟩ }] } }
    let counting (r : Except Failure Unit) : Listener := fun _ d =>
      ({ d with reports := none :: d.reports }, r)
    let alone := s.run setup.silent w
    let o := runRecorded setup s
      [counting (.error (.system "disk full")), Desk.keepJournal 0, counting (.ok ())] none w
    ∃ result, alone.result = .ok result ∧ o.result = .ok { result with report := none } ∧
      o.trace = alone.trace ∧ o.state.scene = alone.state.scene ∧
      (o.state.desk.reports.length, o.state.desk.journals.map Journal.seq) = (16, [4]) ∧
      (s.run setup w).result =
        .ok { result with report := reportAt engine true s w.scene.clock } := by
  intro engine s setup w counting alone o
  have hlog : ∀ n ∈ some 0, ∀ j, w.desk.journals[n]? = some j →
      j.path.hasNull = false ∧ j.isOpen = true := by
    rintro n hn j hj
    cases hn
    cases hj
    exact ⟨by decide, rfl⟩
  have hready : setup.Ready w.desk := by
    refine ⟨fun _ => ?_, hlog⟩
    cases h : w.desk.disk.ensurePath w.desk.cwd setup.engine.settings.reportDir with
    | ok disk => exact ⟨disk, rfl⟩
    | error e =>
      have hmade : (w.desk.disk.ensurePath w.desk.cwd
          setup.engine.settings.reportDir).toOption.isSome = true := by decide +kernel
      rw [h] at hmade
      cases hmade
  let order : Desk → Prop := Desk.Serves engine.settings.reportDir none (some 0)
  have horder : order w.desk := Desk.serves_of_unwanted hready
  have hcounting : ∀ r : Except Failure Unit, (∀ e, r = .error e → e.isSystem = true) →
      (counting r).QuietAt order := by
    intro r hr n d hd
    exact ⟨⟨nofun, nofun, hd.log⟩, hr⟩
  have hquiet : ∀ l ∈ [counting (.error (.system "disk full")), Desk.keepJournal 0,
      counting (.ok ())], l.QuietAt order := by
    intro l hl
    simp only [List.mem_cons, List.not_mem_nil, or_false] at hl
    rcases hl with rfl | rfl | rfl
    · exact hcounting _ fun e he => by cases he; rfl
    · exact Desk.keepJournal_serves rfl
    · exact hcounting _ fun e he => by cases he
  obtain ⟨result, story, hresult, -, -, hall, hrun⟩ := run_observed setup s w
  obtain ⟨hsame, htrace, hscene, -⟩ := hall _ none order horder hquiet
  have htold : (o.state.desk.reports.length, o.state.desk.journals.map Journal.seq) = (16, [4]) :=
    by decide +kernel
  exact ⟨result, hresult, hsame, htrace, hscene, htold, (hrun hready).1⟩

end Scenario
end Walkthrough
