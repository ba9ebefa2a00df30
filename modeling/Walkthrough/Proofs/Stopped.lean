import Walkthrough.Proofs.Answers
import Walkthrough.Proofs.Bytes

/-!
Requests whose process took too long: the answer tells what the process had written when it was
stopped, unless it was stopped inside of a character.
-/
namespace Walkthrough.Trigger

open Text.Utf8

/-- What had been written of a text when the process was stopped: nothing, or its first bytes. -/
inductive Output.Stopped : Output → String → Prop
  | silent (text : String) : Stopped .none text
  | cut (text : String) (count : Nat) : Stopped (.bytes ((encode text).take count)) text

/-- The text that an output has brought, all of its characters whole. -/
inductive Output.Received : Output → String → Prop
  | nothing : Received .none ""
  | text (s : String) : Received (.text s) s
  | bytes (s : String) : Received (.bytes (encode s)) s

section Output

variable {out : Output} {text got : String}

theorem Output.Received.read (h : out.Received got) : out.read = .ok (Text.Ansi.stripText got) := by
  cases h with
  | nothing => simp [Output.read, Text.Ansi.stripText, Text.Ansi.strip]
  | text => rfl
  | bytes =>
    rw [Output.read, decode_eq_ok.mpr rfl]
    rfl

/-- An output that has brought no text has bytes that belong to no character. -/
theorem Output.read_of_not_received (h : ∀ got, ¬ out.Received got) :
    ∃ fault, out.read = .error (.notText fault) := by
  cases out with
  | none => exact (h "" .nothing).elim
  | text s => exact (h s (.text s)).elim
  | bytes bs =>
    cases hdecode : decode bs with
    | ok s =>
      rw [decode_eq_ok] at hdecode
      subst hdecode
      exact (h s (.bytes s)).elim
    | error fault =>
      refine ⟨fault, ?_⟩
      rw [Output.read, hdecode]
      rfl

/-- What was received is a beginning of what the process had to write. -/
theorem Output.Stopped.received_beginning (hout : out.Stopped text) (h : out.Received got) :
    got.toList <+: text.toList := by
  cases hout with
  | silent =>
    cases h
    exact List.nil_prefix
  | cut text count =>
    generalize hbytes : (encode text).take count = bytes at h
    cases h
    have hall : encode got ++ (encode text).drop count = encode text := by
      rw [← hbytes, List.take_append_drop]
    exact encode_beginning hall

end Output

/-- The answer about a process that was stopped, with the texts that were received from it. -/
def stoppedAnswer (timeout : Int) (got errors : String) : Answer :=
  ⟨504, some (.obj [("code", .null), ("stdout", .str (Text.Ansi.stripText got)),
    ("stderr", .str (Text.Ansi.stripText errors)), ("results", .null),
    ("error", .str s!"run timed out after {timeout}s")])⟩

section Answer

variable {timeout : Int} {out err : Output}

theorem timedOutAnswer_of_received {got errors : String} (hout : out.Received got)
    (herr : err.Received errors) :
    timedOutAnswer timeout out err = .ok (stoppedAnswer timeout got errors) := by
  rw [timedOutAnswer, hout.read, herr.read]
  rfl

/-- Text that is missing on either channel leaves no answer. -/
theorem timedOutAnswer_of_not_received
    (h : (∀ got, ¬ out.Received got) ∨ ∀ errors, ¬ err.Received errors) (timeout : Int) :
    ∃ f, timedOutAnswer timeout out err = .error f := by
  unfold timedOutAnswer
  by_cases hout : ∃ got, out.Received got
  · obtain ⟨got, hgot⟩ := hout
    obtain ⟨fault, hfault⟩ := Output.read_of_not_received
      (h.resolve_left fun hnone => hnone got hgot)
    rw [hgot.read, hfault]
    exact ⟨_, rfl⟩
  · obtain ⟨fault, hfault⟩ := Output.read_of_not_received fun got hgot => hout ⟨got, hgot⟩
    rw [hfault]
    exact ⟨_, rfl⟩

variable {s : Server} {c : Child}

theorem launch_of_received {got errors : String} (hend : s.start c = .timedOut out err)
    (hout : out.Received got) (herr : err.Received errors) (id : String) :
    (s.launch id c).child = some c ∧
      (s.launch id c).answer = stoppedAnswer c.timeout got errors := by
  rw [Server.launch, hend, answerTo, timedOutAnswer_of_received hout herr]
  exact ⟨rfl, rfl⟩

theorem launch_of_not_received (hend : s.start c = .timedOut out err)
    (h : (∀ got, ¬ out.Received got) ∨ ∀ errors, ¬ err.Received errors) (id : String) :
    (s.launch id c).child = some c ∧ (s.launch id c).answer.status = 500 := by
  obtain ⟨f, hf⟩ := timedOutAnswer_of_not_received h c.timeout
  rw [Server.launch, hend, answerTo, hf]
  exact ⟨rfl, rfl⟩

/-- The answer about a process that took too long: 504 with what it had written to both channels, just
where both were cut between characters, and otherwise the one to a failure that nobody foresaw. -/
theorem respond_stopped {r : Request} {text errors : String} (hrun : r.AsksForRun)
    (hstarts : s.Starts r.document? c) (hend : s.start c = .timedOut out err)
    (hout : out.Stopped text) (herr : err.Stopped errors) (id : String) :
    (s.respond id r).child = some c ∧
      (∀ got gotErrors, out.Received got → err.Received gotErrors →
        got.toList <+: text.toList ∧ gotErrors.toList <+: errors.toList ∧
          (s.respond id r).answer = stoppedAnswer c.timeout got gotErrors) ∧
      ((s.respond id r).answer.status = 504 ↔
        (∃ got, out.Received got) ∧ ∃ gotErrors, err.Received gotErrors) ∧
      ((s.respond id r).answer.status ≠ 504 → (s.respond id r).answer.status = 500) := by
  rw [hstarts.respond hrun]
  have hall : ∀ got gotErrors, out.Received got → err.Received gotErrors →
      got.toList <+: text.toList ∧ gotErrors.toList <+: errors.toList ∧
        (s.launch id c).answer = stoppedAnswer c.timeout got gotErrors := by
    intro got gotErrors hgot hgotErrors
    exact ⟨hout.received_beginning hgot, herr.received_beginning hgotErrors,
      (launch_of_received hend hgot hgotErrors id).2⟩
  by_cases hboth : (∃ got, out.Received got) ∧ ∃ gotErrors, err.Received gotErrors
  · obtain ⟨⟨got, hgot⟩, gotErrors, hgotErrors⟩ := hboth
    obtain ⟨hchild, hanswer⟩ := launch_of_received hend hgot hgotErrors id
    have hstatus : (s.launch id c).answer.status = 504 := by rw [hanswer, stoppedAnswer]
    exact ⟨hchild, hall, ⟨fun _ => ⟨⟨got, hgot⟩, gotErrors, hgotErrors⟩, fun _ => hstatus⟩,
      fun h => (h hstatus).elim⟩
  · have hnone : (∀ got, ¬ out.Received got) ∨ ∀ errors, ¬ err.Received errors := by
      rw [← not_exists, ← not_exists]
      exact not_and_or.mp hboth
    obtain ⟨hchild, hstatus⟩ := launch_of_not_received hend hnone id
    refine ⟨hchild, hall, ⟨fun h => ?_, fun h => (hboth h).elim⟩, fun _ => hstatus⟩
    rw [hstatus] at h
    exact absurd h (by decide)

end Answer

/-- A server whose processes take too long. -/
def slowServer (out err : Output) : Server := { quietServer with start := fun _ => .timedOut out err }

theorem respond_stopped_of_half_word :
    let s := slowServer (.bytes ((encode "ready").take 3)) .none
    (s.respond "id" (post "")).answer = stoppedAnswer 900 "rea" "" := by
  intro s
  have hrun : (post "").AsksForRun := ⟨by decide +kernel, by decide +kernel⟩
  have hfound : (post "").document? = none :=
    Option.isNone_iff_eq_none.mp (by decide +kernel)
  have hstarts : s.Starts (post "").document? (s.childWith [] none none) := by
    rw [hfound]
    exact .intro .unread (.nothing rfl) (.nothing rfl)
  have hbytes : (encode "ready").take 3 = encode "rea" := by decide +kernel
  obtain ⟨-, hreceived, -⟩ := respond_stopped hrun hstarts rfl (.cut "ready" 3) (.silent "") "id"
  exact (hreceived "rea" "" (hbytes ▸ .bytes "rea") .nothing).2.2

/-- A process that is stopped between the two bytes of a letter. -/
theorem respond_stopped_inside_letter :
    let out := Output.bytes ((encode "é").take 1)
    out.Stopped "é" ∧ ((slowServer out .none).respond "id" (post "")).answer.status = 500 :=
  ⟨.cut "é" 1, by decide +kernel⟩

end Walkthrough.Trigger
