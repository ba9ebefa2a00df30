import Walkthrough.Plugin.Bundled
import Walkthrough.Proofs.Chronicle
import Walkthrough.Proofs.Places
import Walkthrough.Proofs.SoftVisit

/-!
Runs with softer checks: a run and the same one with some checks made soft are the same until one of
these fails its assertion. There the first run fails; the other one notes the failure and goes on.
-/
namespace Walkthrough

/-- The visits of a course that began, each with the state in which it did. -/
def Course.entered (past : List (Visit × Walk)) : Option Halt → List (Visit × Walk)
  | some stop => if stop.inside then past ++ [(stop.visit, stop.walk)] else past
  | none => past

/-- Visits of a step and of a softer one that begin in the same state and that no check parts. -/
structure Visit.Together (engine : Engine) (x x' : Visit × Walk) : Prop where
  softened : x.1.Softened x'.1
  walk : x'.2 = x.2
  unparted : ∀ n c e, ¬ x.1.PartsAt engine x'.1.step x.2 n c e

/-- Where a run halts and the same one with softer checks does not: a check parts the two visits
there, and no check parts two earlier ones. -/
structure Course.PartedAt (engine : Engine) (past : List (Visit × Walk)) (stop : Halt)
    (others : List (Visit × Walk)) (s' : Step) (n : Nat) (c : Check) (e : Failure) : Prop where
  inside : stop.inside = true
  softened : stop.visit.step.Softened s'
  parts : stop.visit.PartsAt engine s' stop.walk n c e
  others : ∃ same later, others = same ++ (stop.visit.withStep s', stop.walk) :: later ∧
    List.Forall₂ (Visit.Together engine) past same

/-- How a run and the same one with softer checks compare: both do the same, or a check parts them.
Then the first one gives up, and the other one goes on in some way and keeps its record. -/
def Course.Compares (engine : Engine) (past : List (Visit × Walk)) (halt : Option Halt)
    (others : List (Visit × Walk)) (o o' : Outcome Walk Unit) : Prop :=
  (o' = o ∧ List.Forall₂ (Visit.Together engine) (entered past halt) others) ∨
    ∃ stop s' n c e, halt = some stop ∧ PartedAt engine past stop others s' n c e ∧
      ∃ common rest : Outcome Walk Unit,
        let failed := stop.visit.doneBy (Step.runOnce engine) stop.walk
        let noted := (stop.visit.withStep s').doneBy (Step.runOnce engine) stop.walk
        o = (giveUp stop.behind stop.error failed.state).after (failed.after common) ∧
        o' = rest.after (noted.after common) ∧
        noted.state.Extends rest.state

section Running

variable {engine : Engine} {st st' : Stage} {w : Walk} {past : List (Visit × Walk)}
  {halt : Option Halt}

theorem Course.entered_cons (x : Visit × Walk) (past : List (Visit × Walk)) (halt : Option Halt) :
    entered (x :: past) halt = x :: entered past halt := by
  cases halt with
  | none => rfl
  | some stop =>
    cases hin : stop.inside <;> simp [entered, hin]

theorem Visit.unparted_of_ok (hplugins : engine.plugins.IgnoresSoft) {v : Visit} {s' : Step}
    (h : v.step.Softened s') (hok : (v.doneBy (Step.runOnce engine) w).result = .ok ()) (n : Nat)
    (c : Check) (e : Failure) : ¬ v.PartsAt engine s' w n c e := by
  intro hparts
  obtain ⟨⟨e', herror⟩, -⟩ := Visit.doneBy_parted hplugins h hparts
  rw [hok] at herror
  cases herror

/-- A run that comes to a visit goes on from there in some way, and keeps its record. -/
theorem Course.exists_of_ready (engine : Engine) {v : Visit} (hready : (v.ready w).result = .ok ())
    (vs : List Visit) (behind : List Step) (ps : List Plan) :
    let done := v.doneBy (Step.runOnce engine) w
    ∃ past halt later, ∃ rest : Outcome Walk Unit,
      Course (Visit.doneBy (Step.runOnce engine)) ⟨v :: vs, behind, ps⟩ w past halt ∧
      entered past halt = (v, w) :: later ∧
      Stage.run (Visit.doneBy (Step.runOnce engine)) ⟨v :: vs, behind, ps⟩ w =
        rest.after (done.after (v.ready w)) ∧
      done.state.Extends rest.state := by
  intro done
  have hact : ∀ u : Visit, Act.Within Walk.Extends (u.doneBy (Step.runOnce engine)) :=
    Walk.extends_doneBy engine
  cases hdone : done.result with
  | ok _ =>
    obtain ⟨past, halt, hcourse⟩ := Course.exists (Visit.doneBy (Step.runOnce engine))
      ⟨vs, behind, ps⟩ done.state
    exact ⟨_, halt, _, _, .passed hready hdone hcourse, entered_cons _ _ _,
      Stage.run_passed hready hdone, Stage.within_run hact Walk.extends_skip _ _⟩
  | error e =>
    exact ⟨[], _, [], _, .failed hready hdone, rfl, Stage.run_failed hready hdone,
      giveUp_within Walk.extends_skip behind e done.state⟩

namespace Course.Compares

variable {others : List (Visit × Walk)} {o o' : Outcome Walk Unit}

/-- What both runs do first does not change how they compare. -/
theorem after (h : Compares engine past halt others o o') (first : Outcome Walk Unit) :
    Compares engine past halt others (o.after first) (o'.after first) := by
  obtain ⟨hsame, htogether⟩ | ⟨stop, s', n, c, e, hhalt, hparted, common, rest, ho, ho',
    hextends⟩ := h
  · exact Or.inl ⟨by rw [hsame], htogether⟩
  · refine Or.inr ⟨stop, s', n, c, e, hhalt, hparted, common.after first, rest, ?_, ?_, hextends⟩
    · rw [ho, Outcome.after_assoc, Outcome.after_assoc]
    · rw [ho', Outcome.after_assoc, Outcome.after_assoc]

/-- Nor does a visit in front that no check parts. -/
theorem cons {x x' : Visit × Walk} (h : Compares engine past halt others o o')
    (htogether : Visit.Together engine x x') :
    Compares engine (x :: past) halt (x' :: others) o o' := by
  obtain ⟨hsame, hall⟩ | ⟨stop, s', n, c, e, hhalt, hparted, hrest⟩ := h
  · exact Or.inl ⟨hsame, entered_cons x past halt ▸ .cons htogether hall⟩
  · obtain ⟨hin, hs, hparts, same, later, hothers, hall⟩ := hparted
    exact Or.inr ⟨stop, s', n, c, e, hhalt, ⟨hin, hs, hparts, x' :: same, later,
      congrArg (x' :: ·) hothers, .cons htogether hall⟩, hrest⟩

/-- What the run does to the page begins what the softer one does. -/
theorem begins (hplugins : engine.plugins.IgnoresSoft)
    (h : Compares engine past halt others o o') :
    interactions o.trace <+: interactions o'.trace := by
  obtain ⟨rfl, -⟩ | ⟨stop, s', n, c, e, -, hparted, common, rest, rfl, rfl, -⟩ := h
  · exact List.prefix_refl _
  · obtain ⟨-, htrace, -, -⟩ := Visit.doneBy_parted hplugins hparted.softened hparted.parts
    obtain ⟨-, hgaveUp, -⟩ := giveUp_error stop.behind stop.error
      (stop.visit.doneBy (Step.runOnce engine) stop.walk).state
    simp only [Outcome.after, interactions_append, hgaveUp, List.append_nil]
    exact ((List.prefix_append_right_inj _).mpr htrace).trans (List.prefix_append _ _)

end Course.Compares

/-- A visit that fails ends the run. The softer run ends there too, or goes on if a check parts the
two visits. -/
theorem Course.softened_failed (hplugins : engine.plugins.IgnoresSoft) {v : Visit} {s' : Step}
    {vs : List Visit} {behind behind' : List Step} {ps : List Plan} {e : Failure}
    (hs : v.step.Softened s') (hbehind : List.Forall₂ Step.Softened behind behind')
    (hready : (v.ready w).result = .ok ())
    (hact : (v.doneBy (Step.runOnce engine) w).result = .error e) (vs' : List Visit)
    (ps' : List Plan) :
    let softer : Stage := ⟨v.withStep s' :: vs', behind', ps'⟩
    ∃ past' halt', Course (Visit.doneBy (Step.runOnce engine)) softer w past' halt' ∧
      Compares engine [] (some ⟨v, w, true, e, behind⟩) (entered past' halt')
        (Stage.run (Visit.doneBy (Step.runOnce engine)) ⟨v :: vs, behind, ps⟩ w)
        (softer.run (Visit.doneBy (Step.runOnce engine)) w) := by
  intro softer
  have hready' : ((v.withStep s').ready w).result = .ok () := hready
  by_cases hparts : ∃ n c e, v.PartsAt engine s' w n c e
  · obtain ⟨n, c, e', hparts⟩ := hparts
    obtain ⟨past', halt', later, rest, hcourse, hentered, hrun, hextends⟩ :=
      exists_of_ready engine hready' vs' behind' ps'
    exact ⟨past', halt', hcourse, Or.inr ⟨_, s', n, c, e', rfl,
      ⟨rfl, hs, hparts, [], later, hentered, .nil⟩, v.ready w, rest,
      Stage.run_failed hready hact, hrun, hextends⟩⟩
  · have hsame : (v.withStep s').doneBy (Step.runOnce engine) w =
        v.doneBy (Step.runOnce engine) w :=
      (Visit.doneBy_softened hplugins hs w).resolve_right hparts
    have hact' : ((v.withStep s').doneBy (Step.runOnce engine) w).result = .error e := hsame ▸ hact
    refine ⟨[], _, .failed hready' hact', Or.inl ⟨?_, ?_⟩⟩
    · rw [Stage.run_failed hready hact, Stage.run_failed hready' hact', hsame,
        giveUp_softened hbehind, Visit.withStep_ready]
    · exact .cons ⟨⟨s', hs, rfl⟩, rfl, fun n c e h => hparts ⟨n, c, e, h⟩⟩ .nil

/-- A run and the same one with softer checks do the same, or a check parts the two. Until then they
do the same. -/
theorem Course.softened (hplugins : engine.plugins.IgnoresSoft)
    (h : Course (Visit.doneBy (Step.runOnce engine)) st w past halt) (hst : st.Softened st') :
    ∃ past' halt', Course (Visit.doneBy (Step.runOnce engine)) st' w past' halt' ∧
      Compares engine past halt (entered past' halt')
        (st.run (Visit.doneBy (Step.runOnce engine)) w)
        (st'.run (Visit.doneBy (Step.runOnce engine)) w) := by
  induction h generalizing st' with
  | @done behind w =>
    obtain ⟨visits', behind', plans'⟩ := st'
    obtain ⟨hvisits, -, hplans⟩ := hst
    cases hvisits
    cases hplans
    exact ⟨[], none, .done, Or.inl ⟨rfl, .nil⟩⟩
  | @next behind p rest w past halt _ ih =>
    obtain ⟨visits', behind', plans'⟩ := st'
    obtain ⟨hvisits, -, hplans⟩ := hst
    cases hvisits
    cases hplans with
    | @cons _ p' _ rest' hp hrest =>
      have hstage : (p.stage rest w.scene.page).Softened (p'.stage rest' w.scene.page) :=
        ⟨hp.visits _, hp.behind, hrest⟩
      obtain ⟨past', halt', hcourse, hrun⟩ := ih hstage
      refine ⟨past', halt', .next hcourse, ?_⟩
      rw [Stage.run_next, Stage.run_next, hp.asks]
      exact hrun.after _
  | @passed v vs behind ps w past halt hready hact _ ih =>
    obtain ⟨visits', behind', plans'⟩ := st'
    obtain ⟨hvisits, hbehind, hplans⟩ := hst
    cases hvisits with
    | @cons _ v' _ vs' hv hvs =>
      obtain ⟨s', hs, rfl⟩ := hv
      have hunparted := Visit.unparted_of_ok hplugins hs hact
      -- A visit that ends well is not parted, so the softer one does the same.
      have hsame : (v.withStep s').doneBy (Step.runOnce engine) w =
          v.doneBy (Step.runOnce engine) w :=
        (Visit.doneBy_softened hplugins hs w).resolve_right
          fun ⟨n, c, e, hparts⟩ => hunparted n c e hparts
      have hready' : ((v.withStep s').ready w).result = .ok () := hready
      have hact' : ((v.withStep s').doneBy (Step.runOnce engine) w).result = .ok () := hsame ▸ hact
      have hstage : Stage.Softened ⟨vs, behind, ps⟩ ⟨vs', behind', plans'⟩ :=
        ⟨hvs, hbehind, hplans⟩
      obtain ⟨past', halt', hcourse, hrun⟩ := ih hstage
      rw [← hsame] at hcourse
      refine ⟨_, halt', .passed hready' hact' hcourse, ?_⟩
      rw [Stage.run_passed hready hact, Stage.run_passed hready' hact', hsame, entered_cons,
        Visit.withStep_ready]
      exact (hrun.after _).cons ⟨⟨s', hs, rfl⟩, rfl, hunparted⟩
  | @refused v vs behind ps w e hready =>
    obtain ⟨visits', behind', plans'⟩ := st'
    obtain ⟨hvisits, hbehind, -⟩ := hst
    cases hvisits with
    | @cons _ v' _ vs' hv _ =>
      obtain ⟨s', -, rfl⟩ := hv
      have hready' : ((v.withStep s').ready w).result = .error e := hready
      refine ⟨[], _, .refused hready', Or.inl ⟨?_, .nil⟩⟩
      rw [Stage.run_refused hready, Stage.run_refused hready', giveUp_softened hbehind,
        Visit.withStep_ready]
  | @failed v vs behind ps w e hready hact =>
    obtain ⟨visits', behind', plans'⟩ := st'
    obtain ⟨hvisits, hbehind, -⟩ := hst
    cases hvisits with
    | @cons _ v' _ vs' hv _ =>
      obtain ⟨s', hs, rfl⟩ := hv
      exact softened_failed hplugins hs hbehind hready hact vs' plans'

theorem Course.ended (h : Course (Visit.doneBy (Step.runOnce engine)) st w past halt) :
    ∀ x ∈ past, (x.1.doneBy (Step.runOnce engine) x.2).result = .ok () := by
  induction h with
  | done => simp
  | next _ ih => exact ih
  | passed _ hact _ ih =>
    intro x hx
    rcases List.mem_cons.mp hx with rfl | hx
    · exact hact
    · exact ih x hx
  | refused _ => simp
  | failed _ _ => simp

theorem Course.planned_entered {steps : List Step} {ctx : Context}
    (h : Course (Visit.doneBy (Step.runOnce engine)) (Scenario.stage steps ctx) w past halt) :
    ∀ x ∈ entered past halt, x.1.Planned steps 0 := by
  obtain ⟨hpast, hhalt⟩ := h.planned
  intro x hx
  cases halt with
  | none => exact hpast x hx
  | some stop =>
    unfold entered at hx
    dsimp only at hx
    split at hx
    · rcases List.mem_append.mp hx with hx | hx
      · exact hpast x hx
      · obtain rfl := List.mem_singleton.mp hx
        exact hhalt stop rfl
    · exact hpast x hx

theorem Course.failed_at {stop : Halt}
    (h : Course (Visit.doneBy (Step.runOnce engine)) st w past (some stop))
    (hin : stop.inside = true) :
    (stop.visit.doneBy (Step.runOnce engine) stop.walk).result = .error stop.error := by
  generalize hhalt : some stop = halt at h
  induction h with
  | done => cases hhalt
  | next _ ih => exact ih hhalt
  | passed _ _ _ ih => exact ih hhalt
  | refused _ =>
    cases hhalt
    cases hin
  | failed _ hact =>
    cases hhalt
    exact hact

/-- What is recorded when a check parts two runs: up to the visit the same, then in the first run
the error and the steps that are skipped, and in the other one a soft failure and what comes of it. -/
theorem Course.parted_records (hplugins : engine.plugins.IgnoresSoft) {stop : Halt} {s' : Step}
    {n : Nat} {c : Check} {e : Failure} {others : List (Visit × Walk)} {rest : Outcome Walk Unit}
    (h : Course (Visit.doneBy (Step.runOnce engine)) st w past (some stop))
    (hparted : PartedAt engine past stop others s' n c e) (hw : w.Quiet)
    (hextends : ((stop.visit.withStep s').doneBy (Step.runOnce engine) stop.walk).state.Extends
      rest.state) :
    let failed := stop.visit.doneBy (Step.runOnce engine) stop.walk
    let gaveUp : Outcome Walk Unit := giveUp stop.behind stop.error failed.state
    gaveUp.result = .error e ∧
    ((stop.visit.withStep s').upTo engine (n + 1) stop.walk).result = .ok () ∧
    ∀ r ∈ w.recorder, ∃ r₁ r₂ before x y now later,
      gaveUp.state.recorder = some r₁ ∧ rest.state.recorder = some r₂ ∧
      r₁.account.steps = before ++ x :: stop.behind.map (Step.skipRecord now) ∧
      r₂.account.steps = before ++ y :: later ∧ StepRecord.Noted e x y := by
  intro failed gaveUp
  have hquiet : stop.walk.Quiet := h.within_halt (R := Walk.StaysQuiet)
    (fun v w hw => Visit.doneBy_quiet hw engine v) hw
  obtain ⟨-, -, hgoes, hrecords⟩ := Visit.doneBy_parted hplugins hparted.softened hparted.parts
  obtain ⟨herror, hreach⟩ := hgoes hquiet
  have hstop : stop.error = e :=
    Except.error.inj ((h.failed_at hparted.inside).symm.trans herror)
  have hfailed : failed.state.Quiet := Visit.doneBy_quiet hquiet engine stop.visit
  obtain ⟨-, -, hgaveUp⟩ := giveUp_error stop.behind stop.error failed.state
  refine ⟨(hgaveUp hfailed).trans (congrArg Except.error hstop), hreach, fun r hr => ?_⟩
  obtain ⟨u, hu, -⟩ := h.within_halt (R := Walk.Extends) (Walk.extends_doneBy engine) r hr
  obtain ⟨r₁, r₂, x, y, hr₁, hr₂, hx, hy, hnoted⟩ := hrecords u hu
  obtain ⟨-, r₁', hr₁', hskipped⟩ := giveUp_quiet hfailed hr₁ stop.behind stop.error
  obtain ⟨r₂', hr₂', later, hlater⟩ := hextends r₂ hr₂
  refine ⟨r₁', r₂', u.account.steps, x, y, gaveUp.state.scene.clock, later, hr₁', hr₂', ?_, ?_,
    hnoted⟩
  · rw [hskipped, hx, List.append_assoc]
    rfl
  · rw [← hlater, hy, List.append_assoc]
    rfl

end Running

/-- The handlers that come with the engine do not look whether checks are soft. -/
theorem Bundled.ignoresSoft : (({} : Plugins).registerAll registrations).1.IgnoresSoft where
  actions := by
    rintro x hx s _ ⟨checks, -, rfl⟩
    have hnames : x = ("selectWord", ⟨"select_word", selectWord⟩) ∨
        x = ("queryResponse", ⟨"query_response", queryResponse⟩) := by
      simpa [Plugins.registerAll, Plugins.register, Plugins.putEntry, registrations] using hx
    rcases hnames with rfl | rfl
    · rfl
    · rfl
  checks := by
    rintro x hx c c' h
    have hname : x = ("textNodesPresent", ⟨"text_nodes_present", textNodesPresent⟩) := by
      simpa [Plugins.registerAll, Plugins.register, Plugins.putEntry, registrations] using hx
    subst hname
    rcases h with rfl | rfl
    · rfl
    · rfl

end Walkthrough
