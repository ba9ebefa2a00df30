import Walkthrough.Proofs.Printed

/-! The summary of a run as a document: what of it comes back from the printed output. -/
namespace Walkthrough
open Json

/-! Members that may be left out. -/

theorem keys_optionalMember (key : String) (v : Option String) :
    (Members.keys (optionalMember key v)).Sublist [key] := by
  cases v with
  | none => exact List.nil_sublist [key]
  | some s => exact List.Sublist.refl [key]

theorem keys_listMember (key : String) (ss : List String) :
    (Members.keys (listMember key ss)).Sublist [key] := by
  unfold listMember
  split
  · exact List.nil_sublist [key]
  · exact List.Sublist.refl [key]

theorem faithful_strings (ss : List String) : (Json.strings ss).Faithful := by
  refine faithfulItems_iff.mpr fun v hv => ?_
  obtain ⟨s, -, rfl⟩ := List.mem_map.mp hv
  trivial

theorem faithfulMembers_append {members more : Members} (h : FaithfulMembers members)
    (h' : FaithfulMembers more) : FaithfulMembers (members ++ more) := by
  rw [faithfulMembers_iff] at h h' ⊢
  exact fun m hm => (List.mem_append.mp hm).elim (h m) (h' m)

theorem faithful_optionalMember (key : String) (v : Option String) :
    FaithfulMembers (optionalMember key v) := by
  cases v with
  | none => trivial
  | some s => exact ⟨trivial, trivial⟩

theorem faithful_listMember (key : String) (ss : List String) :
    FaithfulMembers (listMember key ss) := by
  unfold listMember
  split
  · trivial
  · exact ⟨faithful_strings ss, trivial⟩

/-! Records, results and summaries. -/

theorem StepRecord.faithful_toJson (r : StepRecord) : r.toJson.Faithful := by
  refine ⟨?_, ?_⟩
  · have hkeys := ((List.Sublist.refl ["title", "status", "startTime", "endTime"]).append
      (keys_optionalMember "error" r.error)).append (keys_listMember "softFailures" r.softFailures)
    rw [Members.keys, List.map_append, List.map_append]
    exact hkeys.nodup (by decide)
  · have hend : (Json.intOption r.endTime).Faithful := by cases r.endTime <;> trivial
    exact faithfulMembers_append
      (faithfulMembers_append ⟨trivial, trivial, trivial, hend, trivial⟩
        (faithful_optionalMember "error" r.error))
      (faithful_listMember "softFailures" r.softFailures)

theorem ScenarioResult.faithful_toJson (r : ScenarioResult) : r.toJson.Faithful := by
  refine ⟨?_, ?_⟩
  · have hkeys := (((((List.Sublist.refl
      ["title", "description", "status", "steps", "durationMs"]).append
      (keys_optionalMember "error" r.error)).append
      (keys_optionalMember "errorCode" r.errorCode)).append
      (keys_listMember "softFailures" r.softFailures)).append
      (keys_optionalMember "source" (r.source.filter (· ≠ "")))).append
      (keys_optionalMember "report" (r.report.map Path.toString))
    simp only [Members.keys, List.map_append] at hkeys ⊢
    exact hkeys.nodup (by decide)
  · have hsteps : FaithfulItems (r.steps.map StepRecord.toJson) := by
      refine faithfulItems_iff.mpr fun v hv => ?_
      obtain ⟨step, -, rfl⟩ := List.mem_map.mp hv
      exact step.faithful_toJson
    exact faithfulMembers_append (faithfulMembers_append (faithfulMembers_append
      (faithfulMembers_append (faithfulMembers_append
        ⟨trivial, trivial, trivial, hsteps, trivial, trivial⟩
        (faithful_optionalMember _ _)) (faithful_optionalMember _ _)) (faithful_listMember _ _))
      (faithful_optionalMember _ _)) (faithful_optionalMember _ _)

theorem RunSummary.faithful_toJson (s : RunSummary) : s.toJson.Faithful := by
  have hkeys : ["run_id", "env", "success", "total", "passed", "failed", "durationMs",
    "scenarios"].Nodup := by decide
  refine ⟨hkeys, ?_⟩
  have hresults : FaithfulItems (s.results.map ScenarioResult.toJson) := by
    refine faithfulItems_iff.mpr fun v hv => ?_
    obtain ⟨result, -, rfl⟩ := List.mem_map.mp hv
    exact result.faithful_toJson
  exact ⟨trivial, trivial, trivial, trivial, trivial, trivial, trivial, hresults, trivial⟩

namespace Command

/-- What printing texts leaves on the standard output. -/
def printed (texts : List String) : String := String.join (texts.map (· ++ "\n"))

theorem printed_singleton (text : String) : printed [text] = text ++ "\n" := by
  simp [printed]

theorem summaryTexts_json (s : RunSummary) :
    summaryTexts true s = [s.toJson.render false] := rfl

end Command

theorem found_eq_iff {found : Except Failure (Option Members)} {members : Members} :
    found.map (·.map Json.obj) = .ok (some (.obj members)) ↔ found = .ok (some members) := by
  cases found with
  | error e => simp [Except.map]
  | ok found => cases found <;> simp [Except.map]

/-- A summary that was printed as the last line comes back as it was, whatever was printed before,
just where no text of it holds a line end that is written as it is, and no number is too long. -/
theorem RunSummary.printed_found_iff (s : RunSummary) :
    (∀ before : String, (before = "" ∨ ∃ text, before = text ++ "\n") →
        (Trigger.results (Text.Ansi.stripText
          (before ++ Command.printed (Command.summaryTexts true s)))).map (·.map Json.obj) =
            .ok (some s.toJson)) ↔
      (∀ c ∈ s.toJson.textChars, c ∉ ['\u0085', '\u2028', '\u2029']) ∧
        s.toJson.tooLong? = none := by
  rw [Command.summaryTexts_json, Command.printed_singleton]
  refine Iff.trans ?_ (Trigger.results_outputWith_iff s.faithful_toJson)
  exact forall_congr' fun before => imp_congr_right fun _ => found_eq_iff

/-- A title with a line separator. -/
theorem RunSummary.printed_lost_of_separator :
    ¬ ∀ (s : RunSummary) (before : String), (before = "" ∨ ∃ text, before = text ++ "\n") →
      (Trigger.results (Text.Ansi.stripText
        (before ++ Command.printed (Command.summaryTexts true s)))).map (·.map Json.obj) =
          .ok (some s.toJson) := by
  intro hfound
  have hlost := hfound
    { runId := "run-1", env := "dev",
      results := [{ title := "first\u2028second", description := "", status := .passed }] }
    "" (Or.inl rfl)
  rw [Command.summaryTexts_json, Command.printed_singleton] at hlost
  exact Trigger.results_ne_of_break (c := '\u2028') (by decide) (by decide) (found_eq_iff.mp hlost)

end Walkthrough
