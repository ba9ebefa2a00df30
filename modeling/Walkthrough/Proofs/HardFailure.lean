import Walkthrough.Proofs.Reading
import Walkthrough.Proofs.ScenarioRun

/-!
Hard failures: what the result of a scenario tells when one of its steps fails. A failure within a
visit is found in the last record that is not skipped; a missing element of a repetition is found in
no record. The steps behind it have records but for those of a group in its first pass.
-/
namespace Walkthrough

theorem StepRecord.EndedWith.status_ne_skipped {x : StepRecord} {error : Option String}
    (h : x.EndedWith error) : x.status ≠ .skipped := by
  obtain ⟨start, now, softFailures, hx⟩ := h
  rw [hx]
  unfold closed
  cases error with
  | some e => exact fun h => Status.noConfusion h
  | none =>
    dsimp only
    split <;> exact fun h => Status.noConfusion h

theorem StepRecord.EndedWith.failed {x : StepRecord} {e : String} (h : x.EndedWith (some e)) :
    x.status = .failed ∧ x.error = some e := by
  obtain ⟨start, now, softFailures, hx⟩ := h
  rw [hx]
  exact ⟨rfl, rfl⟩

namespace Course

variable {act : Visit → Run Unit} {st : Stage} {w : Walk} {past : List (Visit × Walk)}
  {stop : Halt}

/-- A run that halts before a visit did not find the element of a repetition. -/
theorem tooFew_of_outside (h : Course act st w past (some stop)) (hin : stop.inside = false) :
    stop.error.TooFew := by
  generalize hhalt : some stop = halt at h
  induction h with
  | done => cases hhalt
  | next _ ih => exact ih hhalt
  | passed _ _ _ ih => exact ih hhalt
  | @refused v vs behind ps w e hready =>
    cases hhalt
    exact v.ready_error w e hready
  | failed _ _ =>
    cases hhalt
    cases hin

end Course

namespace Scenario

variable {setup : Setup} {s : Scenario} {w : Walk} {report : Option (Listener × Path)} {e : Failure}

/-- What a scenario whose steps fail gives: the records of its course, and the failure. -/
theorem run_halted (hd : w.desk.InOrder) (h : (startReport setup s w).result = .ok report)
    (he : (drive setup.engine s.steps (context setup s) (opening setup s w).state).result =
      .error e) :
    ∃ result past halt records now,
      (s.run setup w).result = .ok result ∧ result.status = .failed ∧
      result.error = some e.text ∧ result.errorCode = codeOf? e ∧
      Course (Visit.doneBy (Step.runOnce setup.engine)) (stage s.steps (context setup s))
        (opening setup s w).state past (some halt) ∧ halt.error = e ∧
      result.steps = records ++ halt.behind.map (Step.skipRecord now) ∧
      List.Forall₂ StepRecord.Tells (Course.begun past (some halt)) records := by
  obtain ⟨horder, hreport⟩ := startReport_inOrder hd h
  obtain ⟨r, past, halt, records, hr, hresult, hcourse, herror, hsteps, hall⟩ :=
    run_coursed h horder (quietAt_listeners hreport)
  rw [he] at herror hresult
  cases halt with
  | none => cases herror
  | some halt =>
    have hfail : halt.error = e := (Option.some.inj herror).symm
    exact ⟨_, past, halt, records, _, hresult, rfl, rfl, rfl, hcourse, hfail, hsteps, hall⟩

/-- If a course halts within a visit, its last record is of that visit. -/
theorem getLast?_of_inside {past : List (Visit × Walk)} {halt : Halt} {records : List StepRecord}
    (hall : List.Forall₂ StepRecord.Tells (Course.begun past (some halt)) records)
    (hin : halt.inside = true) :
    ∃ x ∈ records.getLast?, x.Tells (halt.visit, some halt.error) := by
  rw [Course.begun_inside hin] at hall
  have hlast := List.forall₂_drop past.length hall
  rw [List.drop_left' (List.length_map _)] at hlast
  obtain ⟨x, rest, hx, hnil, hdrop⟩ := List.forall₂_cons_left_iff.mp hlast
  cases hnil
  refine ⟨x, ?_, hx⟩
  rw [← List.take_append_drop past.length records, hdrop, List.getLast?_concat]
  rfl

/-- If it halts before a visit, all its records are of visits that came to their end. -/
theorem ended_of_outside {past : List (Visit × Walk)} {halt : Halt} {records : List StepRecord}
    (hall : List.Forall₂ StepRecord.Tells (Course.begun past (some halt)) records)
    (hin : halt.inside = false) : ∀ x ∈ records, x.EndedWith none := by
  intro x hx
  obtain ⟨y, hy, htells⟩ := forall₂_mem_right hall hx
  rw [Course.begun_outside hin] at hy
  obtain ⟨z, -, rfl⟩ := List.mem_map.mp hy
  exact htells.ended

/-- When the steps of a scenario fail, its result says so. If they failed within a visit, the last
record that is not skipped has failed with that very error. Otherwise a repetition did not find its
element: then that is the error, and every visit that is recorded had come to its end. -/
theorem run_failed_record (hd : w.desk.InOrder)
    (h : (startReport setup s w).result = .ok report)
    (he : (drive setup.engine s.steps (context setup s) (opening setup s w).state).result =
      .error e) :
    ∃ result past halt executed skipped,
      (s.run setup w).result = .ok result ∧ result.status = .failed ∧
      result.error = some e.text ∧ result.errorCode = codeOf? e ∧
      result.steps = executed ++ skipped ∧ (∀ x ∈ executed, x.status ≠ .skipped) ∧
      (∀ x ∈ skipped, x.status = .skipped) ∧
      Course (Visit.doneBy (Step.runOnce setup.engine)) (stage s.steps (context setup s))
        (opening setup s w).state past (some halt) ∧ halt.error = e ∧
      (halt.inside = true → ∃ x ∈ executed.getLast?, x.status = .failed ∧
        x.error = result.error ∧ x.EndedWith (some e.text)) ∧
      (halt.inside = false → e.TooFew ∧ ∀ x ∈ executed, x.EndedWith none) := by
  obtain ⟨result, past, halt, records, now, hresult, hstatus, herror, hcode, hcourse, hhalt, hsteps,
    hall⟩ := run_halted hd h he
  refine ⟨result, past, halt, records, halt.behind.map (Step.skipRecord now), hresult, hstatus,
    herror, hcode, hsteps, ?_, ?_, hcourse, hhalt, ?_, ?_⟩
  · intro x hx
    obtain ⟨y, -, hy⟩ := forall₂_mem_right hall hx
    exact hy.ended.status_ne_skipped
  · intro x hx
    obtain ⟨y, -, rfl⟩ := List.mem_map.mp hx
    rfl
  · intro hin
    obtain ⟨x, hx, htells⟩ := getLast?_of_inside hall hin
    have hended : x.EndedWith (some e.text) := hhalt ▸ htells.ended
    exact ⟨x, hx, hended.failed.1, hended.failed.2.trans herror.symm, hended⟩
  · intro hin
    exact ⟨hhalt ▸ hcourse.tooFew_of_outside hin, ended_of_outside hall hin⟩

theorem inOrder_of_empty : ({} : Desk).InOrder := ⟨by simp, by simp⟩

/-- A click on nothing is the last record that is not skipped, and has failed. -/
theorem run_failed_record_of_missing_element :
    let s : Scenario :=
      { description := "", steps := [{ action := .click, selector := some "#gone" }] }
    let setup : Setup := { engine := { settings := default }, runId := "", writeReports := false }
    (startReport setup s {}).result = .ok none ∧
    ∃ e, (drive setup.engine s.steps (context setup s) (opening setup s {}).state).result =
      .error e ∧
      ∃ result, (s.run setup {}).result = .ok result ∧ result.status = .failed ∧
        result.error = some e.text := by
  intro s setup
  have hreport : (startReport setup s {}).result = .ok none := rfl
  obtain ⟨e, he⟩ : ∃ e, (drive setup.engine s.steps (context setup s)
      (opening setup s {}).state).result = .error e := exists_error_of_toOption (by decide +kernel)
  obtain ⟨result, -, -, -, -, hresult, hstatus, herror, -⟩ :=
    run_failed_record inOrder_of_empty hreport he
  exact ⟨hreport, e, he, result, hresult, hstatus, herror⟩

/-- A click on the first of two elements removes it, so that the second one is not found: no record
has failed. -/
theorem run_passed_records_of_vanished_element :
    let first := Element.mk {} [] [("click", [.remove ".todo" 0])]
    let w : Walk := { scene := { page := { elements := [(".todo", [first, default])] } } }
    let s : Scenario :=
      { description := "Todo"
        steps := [
          { action := .click, selector := some ".todo", iterate := true },
          { action := .wait, waitTime := some 5 }] }
    let o := s.run { engine := { settings := default }, runId := "", writeReports := false } w
    o.result.toOption.map (fun r => (r.status, r.errorCode, r.steps.map fun x => (x.title, x.status)))
      = some (.failed, some "ACTION_PRECONDITION", [("click [1/2]", .passed), ("wait", .skipped)]) := by
  decide +kernel

/-- When the steps of a scenario fail, each of its records is of the step at some place: of those
that were executed, and then of all steps from `last` on, which are skipped. The steps between the
one that failed and `last` are of its group, and so a later step has a record just if it is not
among these or a pass of the group is behind. -/
theorem run_failed_places (hd : w.desk.InOrder)
    (h : (startReport setup s w).result = .ok report)
    (he : (drive setup.engine s.steps (context setup s) (opening setup s w).state).result =
      .error e) :
    ∃ result past halt executed last now,
      (s.run setup w).result = .ok result ∧
      Course (Visit.doneBy (Step.runOnce setup.engine)) (stage s.steps (context setup s))
        (opening setup s w).state past (some halt) ∧ halt.error = e ∧
      s.steps[halt.visit.place]? = some halt.visit.step ∧ halt.visit.place < last ∧
      result.steps = executed ++ (s.steps.drop last).map (Step.skipRecord now) ∧
      List.Forall₂ StepRecord.Tells (Course.begun past (some halt)) executed ∧
      (∀ x ∈ Course.begun past (some halt), s.steps[x.1.place]? = some x.1.step) ∧
      (∀ place, halt.visit.place < place → place < last → ∃ t, s.steps[place]? = some t ∧
        t.group = halt.visit.step.group ∧ t.group.isSome) ∧
      ∀ place, halt.visit.place < place → place < s.steps.length →
        (((∃ x ∈ Course.begun past (some halt), x.1.place = place) ∨ last ≤ place) ↔
          (0 < halt.visit.pass.getD 0 ∨ last ≤ place)) := by
  obtain ⟨result, past, halt, records, now, hresult, -, -, -, hcourse, hhalt, hsteps, hall⟩ :=
    run_halted hd h he
  obtain ⟨hpast, hstop⟩ := hcourse.planned
  have hbegun : ∀ x ∈ Course.begun past (some halt), x.1.Planned s.steps 0 :=
    Course.of_begun hpast hstop
  obtain ⟨last, hlast, -, hbehind, hbetween⟩ := hcourse.halted_places
  refine ⟨result, past, halt, records, last, now, hresult, hcourse, hhalt, ?_, hlast,
    by rw [hsteps, hbehind], hall, fun x hx => (hbegun x hx).step,
    fun place hlater hplace => (hbetween place hlater hplace).1, fun place hlater _ => ?_⟩
  · exact (hstop halt rfl).step
  · rcases Nat.lt_or_ge place last with hplace | hplace
    · rw [Course.begun_elsewhere (by omega), (hbetween place hlater hplace).2]
    · simp [hplace]

/-- A group fails in its second pass, so that each step of it has a record. -/
theorem run_failed_places_of_second_pass :
    let closed : Element := .mk { errors := [("click", "closed")] } [] []
    let w : Walk := { scene := { page := { elements := [(".card", [default, closed])] } } }
    let s : Scenario :=
      { description := "Cards"
        steps := [
          { name := "press", action := .click, selector := some ".card", group := some "cards" },
          { name := "leave", action := .wait, waitTime := some 5, group := some "cards" }] }
    let setup : Setup := { engine := { settings := default }, runId := "", writeReports := false }
    (startReport setup s w).result = .ok none ∧
    ∃ e, (drive setup.engine s.steps (context setup s) (opening setup s w).state).result =
      .error e ∧
      ∃ result executed last now, (s.run setup w).result = .ok result ∧
        result.steps = executed ++ (s.steps.drop last).map (Step.skipRecord now) := by
  intro closed w s setup
  have hreport : (startReport setup s w).result = .ok none := rfl
  obtain ⟨e, he⟩ : ∃ e, (drive setup.engine s.steps (context setup s)
      (opening setup s w).state).result = .error e := exists_error_of_toOption (by decide +kernel)
  obtain ⟨result, -, -, executed, last, now, hresult, -, -, -, -, hsteps, -⟩ :=
    run_failed_places inOrder_of_empty hreport he
  exact ⟨hreport, e, he, result, executed, last, now, hresult, hsteps⟩

/-- A group fails in its first pass. The step behind it in the group has no record. -/
theorem run_failed_places_of_first_pass :
    let card : Element := .mk { errors := [("click", "closed")] } [] []
    let w : Walk := { scene := { page := { elements := [(".card", [card])] } } }
    let s : Scenario :=
      { description := "Cards"
        steps := [
          { name := "press", action := .click, selector := some ".card", group := some "cards" },
          { name := "close", action := .click, selector := some ".card", group := some "cards" },
          { name := "leave", action := .wait, waitTime := some 5 }] }
    let o := s.run { engine := { settings := default }, runId := "", writeReports := false } w
    o.result.toOption.map (fun r => r.steps.map fun x => (x.title, x.status)) =
      some [("press [1/1]", .failed), ("leave", .skipped)] := by
  decide +kernel

end Scenario
end Walkthrough
