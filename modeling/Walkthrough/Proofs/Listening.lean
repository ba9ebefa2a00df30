import Walkthrough.Proofs.ScenarioRun

/-! A scenario changes its desk through those who listen to it, and in no other way. -/
namespace Walkthrough

/-- A listener that leads from every desk to one that it is related to. -/
def Listener.Within (Q : Desk → Desk → Prop) (l : Listener) : Prop := ∀ n d, Q d (l n d).1

/-- The same listeners as in another state, and a desk that is related to the one there if they lead
to related desks. -/
def Walk.Heard (Q : Desk → Desk → Prop) (w v : Walk) : Prop :=
  v.recorder.map Recorder.listeners = w.recorder.map Recorder.listeners ∧
    ((∀ r ∈ w.recorder, ∀ l ∈ r.listeners, l.Within Q) → Q w.desk v.desk)

variable {Q : Desk → Desk → Prop}

theorem Walk.Heard.within {w v : Walk} (h : w.Heard Q v)
    (hw : ∀ r ∈ w.recorder, ∀ l ∈ r.listeners, l.Within Q) :
    ∀ r ∈ v.recorder, ∀ l ∈ r.listeners, l.Within Q := by
  intro r hr l hl
  have hsame := h.1
  rw [Option.mem_def.mp hr, Option.map_some] at hsame
  obtain ⟨r', hr', hlisteners⟩ := Option.map_eq_some_iff.mp hsame.symm
  exact hw r' hr' l (hlisteners ▸ hl)

theorem Recorder.tell_within {l : Listener} (hl : l.Within Q) (n : Notice) :
    Act.Within Q (tell n l) := by
  intro d
  have h := hl n d
  unfold tell
  split
  · rename_i d' he
    rwa [he] at h
  · rename_i d' e he
    rw [he] at h
    split <;> exact h

/-- Those who are told of a scenario are its report and the event log. -/
theorem Scenario.listeners_within {setup : Scenario.Setup} {s : Scenario} {w : Walk}
    {report : Option (Listener × Path)} (h : (Scenario.startReport setup s w).result = .ok report)
    (hreport : (Desk.keepReport w.desk.reports.length).Within Q)
    (hjournal : ∀ slot ∈ setup.journal, (Desk.keepJournal slot).Within Q) :
    ∀ l ∈ Scenario.listeners setup report, l.Within Q := by
  intro l hl
  rcases List.mem_append.mp hl with hl | hl
  · obtain ⟨x, hx, rfl⟩ := Option.map_eq_some_iff.mp (Option.mem_toList.mp hl)
    obtain ⟨-, rfl, -⟩ | ⟨-, disk, -, rfl, -⟩ := startReport_ok h
    · cases hx
    · cases hx
      exact hreport
  · obtain ⟨slot, hslot, rfl⟩ := Option.map_eq_some_iff.mp (Option.mem_toList.mp hl)
    exact hjournal slot hslot

variable [IsPreorder Desk Q]

instance : IsPreorder Walk (Walk.Heard Q) where
  refl w := ⟨rfl, fun _ => refl_of Q w.desk⟩
  trans _ _ _ := fun h h' =>
    ⟨h'.1.trans h.1, fun hw => trans_of Q (h.2 hw) (h'.2 (h.within hw))⟩

theorem Walk.heard_change {f : Recorder → Int → Recorder} {event : RecorderEvent}
    {record : Recorder → Option StepRecord} (hf : Recorder.Deaf f record) :
    Act.Within (Walk.Heard Q) (Recorder.change f event record) := by
  intro w
  cases h : w.recorder with
  | none =>
    rw [Recorder.change_of_none h]
    exact refl_of (Walk.Heard Q) w
  | some r =>
    rw [Recorder.change_of_some h, Recorder.emit_eq]
    refine ⟨?_, fun hw => ?_⟩
    · rw [h]
      exact congrArg some (hf.listeners r _)
    · refine (Act.closed_within Q).each (fun l hl => Recorder.tell_within (hw r h l ?_) _) w.desk
      rwa [hf.listeners] at hl

theorem Walk.heard_drive (engine : Engine) (steps : List Step) (ctx : Context) :
    Act.Within (Heard Q) (Scenario.drive engine steps ctx) :=
  Scenario.closed_drive_of_deaf (Act.closed_within (Heard Q))
    (engine.touches_within fun w _ => refl_of (Heard Q) w) heard_change
    (fun w => refl_of (Heard Q) w) steps ctx

namespace Scenario

variable {setup : Setup} {s : Scenario} {w : Walk} {report : Option (Listener × Path)}

theorem heard_going (report : Option Path) :
    Act.Within (Walk.Heard Q) (going setup s report) := by
  have hR : Act.Closed (Act.Within (Walk.Heard Q)) := Act.closed_within (Walk.Heard Q)
  refine hR.bind (fun w => refl_of _ w) fun started => ?_
  refine hR.bind (hR.attempt (Walk.heard_drive _ _ _)) fun r => ?_
  refine hR.bind (Walk.heard_change (Recorder.deaf_finishing _)) fun _ => hR.bind (fun w => refl_of _ w) fun a => ?_
  exact hR.bind (fun w => refl_of _ w) fun now => hR.pure _

theorem begin_within {ls : List Listener} (hl : ∀ l ∈ ls, l.Within Q) (w : Walk) :
    (∀ r ∈ (begin s ls w).state.recorder, ∀ l ∈ r.listeners, l.Within Q) ∧
      Q w.desk (begin s ls w).state.desk := by
  constructor
  · intro r hr
    rw [begin_recorder] at hr
    cases hr
    exact hl
  · refine (Walk.heard_change Recorder.deaf_beginning { w with recorder := some _ }).2 fun r hr => ?_
    cases hr
    exact hl

/-- A scenario leads to a related desk if its listeners do. -/
theorem run_within (h : (startReport setup s w).result = .ok report)
    (hl : ∀ l ∈ listeners setup report, l.Within Q) :
    Q (startReport setup s w).state.desk (s.run setup w).state.desk := by
  rw [(run_of_startReport h).2]
  obtain ⟨hbegin, hdesk⟩ := begin_within (s := s) hl (startReport setup s w).state
  obtain ⟨e, -, -, hs⟩ | ⟨_, -, hs⟩ := Act.bind_cases (begin s (listeners setup report))
    (fun _ => going setup s (report.map (·.2))) (startReport setup s w).state
  · rw [hs]
    exact hdesk
  · rw [hs]
    exact trans_of Q hdesk ((heard_going _ _).2 hbegin)

/-- A scenario leads to a related desk if making the directory of its report does, and its report and
the event log. -/
theorem run_within_desk
    (hopen : ∀ disk,
      w.desk.disk.ensurePath w.desk.cwd setup.engine.settings.reportDir = .ok disk →
      let path := Desk.reportPath setup.engine.settings.reportDir s.title w.scene.clock
      Q w.desk { w.desk with disk, reports := w.desk.reports ++ [some path] })
    (hreport : (Desk.keepReport w.desk.reports.length).Within Q)
    (hjournal : ∀ slot ∈ setup.journal, (Desk.keepJournal slot).Within Q) :
    Q w.desk (s.run setup w).state.desk := by
  cases hstart : (startReport setup s w).result with
  | error e =>
    rw [(run_of_unreported hstart).2]
    exact refl_of Q w.desk
  | ok report =>
    have hrun := run_within (s := s) hstart (listeners_within hstart hreport hjournal)
    obtain ⟨-, -, hstate⟩ | ⟨-, disk, hdisk, -, hstate⟩ := startReport_ok hstart
    · rwa [hstate] at hrun
    · rw [hstate] at hrun
      exact trans_of Q (hopen disk hdisk) hrun

/-- A scenario that comes to its end has told each of its listeners so, at a desk that the others
lead to. -/
theorem told_of_run {result : ScenarioResult} (hrun : (s.run setup w).result = .ok result)
    (h : (startReport setup s w).result = .ok report)
    (hl : ∀ l ∈ listeners setup report, l.Within Q) :
    ∀ l ∈ listeners setup report, ∃ n d, n.event = .scenarioEnd ∧
      Q (startReport setup s w).state.desk d ∧ (Recorder.tell n l d).result = .ok () := by
  rw [(run_of_startReport h).1] at hrun
  obtain ⟨hbegin, hdesk⟩ := begin_within (s := s) hl (startReport setup s w).state
  obtain ⟨_, -, hgoing⟩ := Act.ok_of_bind hrun
  obtain ⟨_, -, hdrive⟩ := Act.ok_of_bind hgoing
  obtain ⟨_, -, hconclude⟩ := Act.ok_of_bind hdrive
  obtain ⟨_, hfinish, -⟩ := Act.ok_of_bind hconclude
  -- The state in which the steps have ended has the same listeners, and the last event is told there.
  have hheard := Walk.heard_drive (Q := Q) setup.engine s.steps (context setup s)
    (begin s (listeners setup report) (startReport setup s w).state).state
  have hlisteners := hheard.1
  rw [begin_recorder, Option.map_some] at hlisteners
  obtain ⟨r, hr, hsame⟩ := Option.map_eq_some_iff.mp hlisteners
  have hended := trans_of Q hdesk (hheard.2 hbegin)
  change (Recorder.change _ _ _ (drive setup.engine s.steps (context setup s)
    (begin s (listeners setup report) (startReport setup s w).state).state).state).result = _
    at hfinish
  rw [Recorder.change_of_some hr, Recorder.emit_eq] at hfinish
  have hls : r.listeners = listeners setup report := hsame
  intro l hmem
  obtain ⟨d, hd, htold⟩ := Act.each_ok_of_within (R := Q)
    (fun l' hl' => Recorder.tell_within (hl l' (hls ▸ hl')) _) hfinish l (hls ▸ hmem)
  exact ⟨_, d, rfl, trans_of Q hended hd, htold⟩

end Scenario
end Walkthrough
