import Walkthrough.Proofs.Course

/-!
Places: where the visits of a run stand among its steps. Before a halt every later step has been
visited if it is in the halted group and a pass of the group is behind, and otherwise none has.
-/
namespace Walkthrough

/-- A list made of blocks, cut at an element: whole blocks, and a part of the one it is in. -/
theorem flatMap_cut {α β : Type} {g : α → List β} {xs : List α} {pre post : List β}
    {b : β} (h : xs.flatMap g = pre ++ b :: post) :
    ∃ before a after pre' post', xs = before ++ a :: after ∧ g a = pre' ++ b :: post' ∧
      pre = before.flatMap g ++ pre' := by
  induction xs generalizing pre with
  | nil => simp at h
  | cons a xs ih =>
    rw [List.flatMap_cons] at h
    obtain ⟨cut, hpre, hrest⟩ | ⟨cut, hblock, hrest⟩ := List.append_eq_append_iff.mp h
    · obtain ⟨before, a', after, pre', post', rfl, hga, rfl⟩ := ih hrest
      exact ⟨a :: before, a', after, pre', post', rfl, hga, by rw [hpre]; simp⟩
    · cases cut with
      | nil =>
        obtain ⟨before, a', after, pre', post', rfl, hga, hnil⟩ :=
          ih (hrest.symm.trans (List.nil_append _).symm)
        refine ⟨a :: before, a', after, pre', post', rfl, hga, ?_⟩
        simp only [List.append_nil] at hblock
        rw [List.flatMap_cons, List.append_assoc, ← hnil, hblock, List.append_nil]
      | cons c cut =>
        cases hrest
        exact ⟨[], a, xs, pre, cut, rfl, hblock, rfl⟩

/-- Before a number in a range stand the smaller ones. -/
theorem mem_of_range'_cut {start length a : Nat} {before after : List Nat}
    (h : List.range' start length = before ++ a :: after) (b : Nat) :
    b ∈ before ↔ start ≤ b ∧ b < a := by
  obtain ⟨k, -, rfl, hafter⟩ := List.range'_eq_append_iff.mp h
  obtain ⟨ha, -, -⟩ := List.range'_eq_cons_iff.mp hafter.symm
  rw [List.mem_range'_1]
  omega

namespace Course

variable {act : Visit → Run Unit} {st : Stage} {w : Walk} {past : List (Visit × Walk)}
  {halt : Option Halt} {stop : Halt}

/-- What holds of all visits that are planned holds of those of the course. -/
theorem of_planned (h : Course act st w past halt) {P : Visit → Prop}
    (hvisits : ∀ v ∈ st.visits, P v)
    (hplans : ∀ p ∈ st.plans, ∀ page, ∀ v ∈ p.visits page, P v) :
    (∀ x ∈ past, P x.1) ∧ ∀ x ∈ halt, P x.visit := by
  induction h with
  | done => exact ⟨by simp, by simp⟩
  | @next behind p rest w past halt _ ih =>
    exact ih (hplans p List.mem_cons_self _) fun q hq => hplans q (List.mem_cons_of_mem p hq)
  | @passed v vs behind ps w past halt _ _ _ ih =>
    obtain ⟨hpast, hhalt⟩ := ih (fun u hu => hvisits u (List.mem_cons_of_mem v hu)) hplans
    refine ⟨fun x hx => ?_, hhalt⟩
    rcases List.mem_cons.mp hx with rfl | hx
    · exact hvisits v List.mem_cons_self
    · exact hpast x hx
  | @refused v vs behind ps w e _ =>
    refine ⟨by simp, ?_⟩
    rintro x ⟨⟩
    exact hvisits v List.mem_cons_self
  | @failed v vs behind ps w e _ _ =>
    refine ⟨by simp, ?_⟩
    rintro x ⟨⟩
    exact hvisits v List.mem_cons_self

/-- A run halts among the visits it begins with, or among those of a plan: behind visits of the
same plan and whole plans before it. -/
theorem halted (h : Course act st w past (some stop)) :
    (∃ post, st.visits = past.map Prod.fst ++ stop.visit :: post ∧ stop.behind = st.behind) ∨
    ∃ earlier p later page before pre post, st.plans = earlier ++ p :: later ∧
      p.visits page = pre ++ stop.visit :: post ∧ stop.behind = p.behind ∧
      past.map Prod.fst = before ++ pre ∧
      ∀ v ∈ before, v ∈ st.visits ∨ ∃ q ∈ earlier, ∃ page, v ∈ q.visits page := by
  generalize hhalt : some stop = halt at h
  induction h with
  | done => cases hhalt
  | @next behind p rest w past halt _ ih =>
    obtain ⟨post, hvisits, hbehind⟩ |
      ⟨earlier, q, later, page, before, pre, post, hplans, hvisits, hbehind, hpast, hbefore⟩ :=
      ih hhalt
    · exact Or.inr ⟨[], p, rest, w.scene.page, [], past.map Prod.fst, post, rfl, hvisits, hbehind,
        rfl, by simp⟩
    · refine Or.inr ⟨p :: earlier, q, later, page, before, pre, post, ?_, hvisits, hbehind, hpast,
        fun v hv => Or.inr ?_⟩
      · exact congrArg (p :: ·) hplans
      · obtain hv | ⟨q', hq', page', hv⟩ := hbefore v hv
        · exact ⟨p, List.mem_cons_self, _, hv⟩
        · exact ⟨q', List.mem_cons_of_mem p hq', page', hv⟩
  | @passed v vs behind ps w past halt _ _ _ ih =>
    obtain ⟨post, hvisits, hbehind⟩ |
      ⟨earlier, q, later, page, before, pre, post, hplans, hvisits, hbehind, hpast, hbefore⟩ :=
      ih hhalt
    · exact Or.inl ⟨post, congrArg (v :: ·) hvisits, hbehind⟩
    · refine Or.inr ⟨earlier, q, later, page, v :: before, pre, post, hplans, hvisits, hbehind,
        congrArg (v :: ·) hpast, fun u hu => ?_⟩
      rcases List.mem_cons.mp hu with rfl | hu
      · exact Or.inl List.mem_cons_self
      · exact (hbefore u hu).imp (List.mem_cons_of_mem v) id
  | @refused v vs behind ps w e _ =>
    cases hhalt
    exact Or.inl ⟨vs, rfl, rfl⟩
  | @failed v vs behind ps w e _ _ =>
    cases hhalt
    exact Or.inl ⟨vs, rfl, rfl⟩

end Course

section Planned

variable {r : StepRun} {first : Nat} {ctx : Context} {behind : List Step} {p : Plan}

/-- A visit of the step in its place among some steps, the first of which has the place `first`. -/
structure Visit.Planned (steps : List Step) (first : Nat) (v : Visit) : Prop where
  place : first ≤ v.place
  step : steps[v.place - first]? = some v.step

theorem StepRun.place_passVisits (r : StepRun) (first : Nat) (ctx : Context) (total index : Nat) :
    (r.passVisits first ctx total index).map Visit.place = List.range' first r.steps.length := by
  have hplaces : (r.steps.zipIdx first).map Prod.snd = List.range' first r.steps.length :=
    List.zipIdx_map_snd _ _
  rw [← hplaces, passVisits, List.map_map]
  rfl

theorem StepRun.pass_of_mem_passVisits {total index : Nat} {v : Visit}
    (h : v ∈ r.passVisits first ctx total index) : v.pass = some index := by
  obtain ⟨x, -, rfl⟩ := List.mem_map.mp h
  rfl

theorem Step.mem_plan {s : Step} {place : Nat} {page : Page} {v : Visit}
    (h : v ∈ (s.plan place ctx behind).visits page) :
    v.step = s ∧ v.place = place ∧ v.pass = none ∧
      (v.ctx = ctx ∨ ∃ total index, v.ctx = ctx.repetition index total none) := by
  unfold plan at h
  split at h
  · obtain ⟨index, -, rfl⟩ := List.mem_map.mp h
    exact ⟨rfl, rfl, rfl, Or.inr ⟨_, index, rfl⟩⟩
  · obtain rfl := List.mem_singleton.mp h
    exact ⟨rfl, rfl, rfl, Or.inl rfl⟩

/-- The visits of a run's plans are of its own steps, each in the context of the whole run or in
that of a repetition. -/
theorem StepRun.planned (hp : p ∈ r.plans first ctx behind) {page : Page} {v : Visit}
    (hv : v ∈ p.visits page) :
    v.Planned r.steps first ∧
      (v.ctx = ctx ∨ ∃ total index group, v.ctx = ctx.repetition index total group) := by
  unfold plans at hp
  split at hp
  · obtain rfl := List.mem_singleton.mp hp
    obtain ⟨index, -, hv⟩ := List.mem_flatMap.mp hv
    obtain ⟨x, hx, rfl⟩ := List.mem_map.mp hv
    obtain ⟨hle, hstep⟩ := List.mk_mem_zipIdx_iff_le_and_getElem?_sub.mp hx
    exact ⟨⟨hle, hstep⟩, Or.inr ⟨_, index, r.group, rfl⟩⟩
  · obtain ⟨x, hx, rfl⟩ := List.mem_map.mp hp
    obtain ⟨hle, hstep⟩ := List.mk_mem_zipIdx_iff_le_and_getElem?_sub.mp hx
    obtain ⟨hvs, hplace, -, hvctx⟩ := Step.mem_plan hv
    refine ⟨⟨by rw [hplace]; exact hle, by rw [hplace, hvs]; exact hstep⟩, ?_⟩
    exact hvctx.imp id fun ⟨total, index, hv⟩ => ⟨total, index, none, hv⟩

/-- The element of a visit is found by the step's own selector. -/
theorem StepRun.query_of_mem_plans (hp : p ∈ r.plans first ctx behind) {page : Page} {v : Visit}
    (hv : v ∈ p.visits page) : ∃ index, v.query = Query.ofStep? v.step index := by
  unfold plans at hp
  split at hp
  · obtain rfl := List.mem_singleton.mp hp
    obtain ⟨index, -, hv⟩ := List.mem_flatMap.mp hv
    obtain ⟨x, -, rfl⟩ := List.mem_map.mp hv
    exact ⟨some index, rfl⟩
  · obtain ⟨x, -, rfl⟩ := List.mem_map.mp hp
    unfold Step.plan at hv
    split at hv
    · obtain ⟨index, -, rfl⟩ := List.mem_map.mp hv
      exact ⟨some index, rfl⟩
    · obtain rfl := List.mem_singleton.mp hv
      exact ⟨none, rfl⟩

/-- Among the visits of passes, those before a given one are at every later place of the run if a
pass is behind, and otherwise at none. -/
theorem StepRun.place_before_passes {total : Nat} {v : Visit} {pre post : List Visit}
    (hv : (List.range total).flatMap (r.passVisits first ctx total) = pre ++ v :: post) {place : Nat}
    (hlater : v.place < place) (hplace : place < first + r.steps.length) :
    (∃ u ∈ pre, u.place = place) ↔ 0 < v.pass.getD 0 := by
  obtain ⟨before, index, after, pre', post', hrange, hpass, rfl⟩ := flatMap_cut hv
  have hpasses := mem_of_range'_cut (List.range_eq_range'.symm.trans hrange)
  have hplaces := StepRun.place_passVisits r first ctx total
  have hvpass : v.pass = some index := StepRun.pass_of_mem_passVisits (by rw [hpass]; simp)
  have hvplace := hplaces index
  rw [hpass, List.map_append, List.map_cons] at hvplace
  have hsame := mem_of_range'_cut hvplace.symm
  rw [hvpass, Option.getD_some]
  constructor
  · rintro ⟨u, hu, rfl⟩
    rcases List.mem_append.mp hu with hu | hu
    · obtain ⟨i, hi, -⟩ := List.mem_flatMap.mp hu
      have := (hpasses i).mp hi
      omega
    · have := (hsame u.place).mp (List.mem_map_of_mem hu)
      omega
  · intro hindex
    -- The first pass has been at every place of the run.
    have hmem : place ∈ (r.passVisits first ctx total 0).map Visit.place := by
      have hfirst : first ≤ v.place := by
        have : v.place ∈ List.range' first r.steps.length := by rw [← hvplace]; simp
        exact (List.mem_range'_1.mp this).1
      rw [hplaces]
      exact List.mem_range'_1.mpr ⟨by omega, hplace⟩
    obtain ⟨u, hu, huplace⟩ := List.mem_map.mp hmem
    refine ⟨u, List.mem_append_left _ (List.mem_flatMap.mpr ⟨0, ?_, hu⟩), huplace⟩
    exact (hpasses 0).mpr ⟨Nat.le_refl 0, hindex⟩

/-- The visits of a single step are all at its own place, and none is in a pass. -/
theorem Step.place_before {s : Step} {here : Nat} {page : Page} {v : Visit} {pre post : List Visit}
    (hv : (s.plan here ctx behind).visits page = pre ++ v :: post) {place : Nat}
    (hlater : v.place < place) : (∃ u ∈ pre, u.place = place) ↔ 0 < v.pass.getD 0 := by
  have hall : ∀ u ∈ pre ++ v :: post, u.place = here ∧ u.pass = none := by
    intro u hu
    rw [← hv] at hu
    obtain ⟨-, huplace, hupass, -⟩ := Step.mem_plan hu
    exact ⟨huplace, hupass⟩
  obtain ⟨hvplace, hvpass⟩ := hall v (by simp)
  constructor
  · rintro ⟨u, hu, rfl⟩
    have := (hall u (by simp [hu])).1
    omega
  · intro h
    simp [hvpass] at h

/-- Among the visits of a plan, those before a given one are at every later place of the run if a
pass is behind, and otherwise at none. -/
theorem StepRun.place_before (hp : p ∈ r.plans first ctx behind) {page : Page} {v : Visit}
    {pre post : List Visit} (hv : p.visits page = pre ++ v :: post) {place : Nat}
    (hlater : v.place < place) (hplace : place < first + r.steps.length) :
    (∃ u ∈ pre, u.place = place) ↔ 0 < v.pass.getD 0 := by
  unfold plans at hp
  split at hp
  · obtain rfl := List.mem_singleton.mp hp
    exact place_before_passes hv hlater hplace
  · obtain ⟨x, -, rfl⟩ := List.mem_map.mp hp
    exact Step.place_before hv hlater

theorem Visit.Planned.lt {steps : List Step} {v : Visit} (h : v.Planned steps first) :
    v.place < first + steps.length := by
  obtain ⟨hlt, -⟩ := List.getElem?_eq_some_iff.mp h.step
  have := h.place
  omega

/-- A run of steps that goes on behind a visit is a group, and the later steps are of the same one. -/
theorem StepRun.group_later {steps : List Step} (hr : r ∈ ofSteps steps) {v : Visit}
    (hv : v.Planned r.steps first) {place : Nat} (hlater : v.place < place)
    (hplace : place < first + r.steps.length) :
    ∃ s, r.steps[place - first]? = some s ∧ s.group = v.step.group ∧ s.group.isSome := by
  obtain ⟨hsame, hsingle⟩ := StepRun.uniform_ofSteps steps r hr
  have hfirst := hv.place
  have hlt : place - first < r.steps.length := by omega
  have hmem := List.getElem_mem hlt
  refine ⟨r.steps[place - first], List.getElem?_eq_getElem hlt, ?_, ?_⟩
  · rw [hsame _ hmem, hsame _ (List.mem_of_getElem? hv.step)]
  · rw [hsame _ hmem]
    cases hg : r.group with
    | some g => rfl
    | none =>
      have := hsingle hg
      omega

namespace Scenario

variable {runs : List StepRun}

theorem mem_agenda (h : p ∈ agenda ctx first runs) :
    ∃ done r rest, runs = done ++ r :: rest ∧
      p ∈ r.plans (first + (done.flatMap StepRun.steps).length) ctx
        (rest.flatMap StepRun.steps) := by
  induction runs generalizing first with
  | nil => cases h
  | cons r rest ih =>
    rcases List.mem_append.mp h with h | h
    · exact ⟨[], r, rest, rfl, h⟩
    · obtain ⟨done, r', rest', rfl, hp⟩ := ih h
      refine ⟨r :: done, r', rest', rfl, ?_⟩
      rw [List.flatMap_cons, List.length_append, ← Nat.add_assoc]
      exact hp

/-- The plans of an agenda are for the steps of its runs. -/
theorem planned_agenda (hp : p ∈ agenda ctx first runs) {page : Page} {v : Visit}
    (hv : v ∈ p.visits page) : v.Planned (runs.flatMap StepRun.steps) first := by
  obtain ⟨done, r, rest, rfl, hplan⟩ := mem_agenda hp
  obtain ⟨hr, -⟩ := StepRun.planned hplan hv
  have hlt := hr.lt
  obtain ⟨hplace, hstep⟩ := hr
  refine ⟨by omega, ?_⟩
  rw [List.flatMap_append, List.flatMap_cons, List.getElem?_append_right (by omega),
    List.getElem?_append_left (by omega), ← hstep]
  congr 1
  omega

theorem query_agenda (hp : p ∈ agenda ctx first runs) {page : Page} {v : Visit}
    (hv : v ∈ p.visits page) : ∃ index, v.query = Query.ofStep? v.step index := by
  obtain ⟨done, r, rest, rfl, hplan⟩ := mem_agenda hp
  exact StepRun.query_of_mem_plans hplan hv

/-- The titles of all visits can be told if the context of the whole run lets them. -/
theorem suffix_agenda (hctx : ∃ suffix, ctx.suffix = .ok suffix) (hp : p ∈ agenda ctx first runs)
    {page : Page} {v : Visit} (hv : v ∈ p.visits page) : ∃ suffix, v.ctx.suffix = .ok suffix := by
  obtain ⟨done, r, rest, rfl, hplan⟩ := mem_agenda hp
  obtain ⟨-, hvctx | ⟨total, index, group, hvctx⟩⟩ := StepRun.planned hplan hv
  · rw [hvctx]
    exact hctx
  · rw [hvctx]
    exact ⟨_, Context.suffix_repetition _ _ _ _⟩

/-- Earlier plans are for earlier steps. -/
theorem agenda_pairwise (ctx : Context) (first : Nat) (runs : List StepRun) :
    (agenda ctx first runs).Pairwise fun p q =>
      ∀ page page', ∀ u ∈ p.visits page, ∀ v ∈ q.visits page', u.place < v.place := by
  induction runs generalizing first with
  | nil => exact .nil
  | cons r rest ih =>
    refine List.pairwise_append.mpr ⟨?_, ih _, fun p hp q hq page page' u hu v hv => ?_⟩
    · unfold StepRun.plans
      split
      · exact List.pairwise_singleton _ _
      · rw [List.pairwise_map]
        have hplaces : ((r.steps.zipIdx first).map Prod.snd).Pairwise (· < ·) := by
          rw [List.zipIdx_map_snd]
          exact List.pairwise_lt_range'
        refine (List.pairwise_map.mp hplaces).imp fun hlt page page' u hu v hv => ?_
        obtain ⟨-, huplace, -⟩ := Step.mem_plan hu
        obtain ⟨-, hvplace, -⟩ := Step.mem_plan hv
        omega
    · have hup := (StepRun.planned hp hu).1.lt
      have hvp := (planned_agenda hq hv).place
      omega

end Scenario

namespace Course

variable {act : Visit → Run Unit} {w : Walk} {past : List (Visit × Walk)} {halt : Option Halt}
  {stop : Halt} {steps : List Step}

/-- The visits of a run are of the steps in their places. -/
theorem planned (h : Course act (Scenario.stage steps ctx) w past halt) :
    (∀ x ∈ past, x.1.Planned steps 0) ∧ ∀ x ∈ halt, x.visit.Planned steps 0 := by
  refine h.of_planned (by simp [Scenario.stage]) fun p hp page v hv => ?_
  have := Scenario.planned_agenda hp hv
  rwa [StepRun.flatMap_ofSteps] at this

theorem suffix (h : Course act (Scenario.stage steps ctx) w past halt)
    (hctx : ∃ suffix, ctx.suffix = .ok suffix) :
    (∀ x ∈ past, ∃ suffix, x.1.ctx.suffix = .ok suffix) ∧
      ∀ x ∈ halt, ∃ suffix, x.visit.ctx.suffix = .ok suffix :=
  h.of_planned (P := fun v => ∃ suffix, v.ctx.suffix = .ok suffix) (by simp [Scenario.stage])
    fun _ hp _ _ hv => Scenario.suffix_agenda hctx hp hv

/-- What comes after the plan of a halt are all steps from some place on. The steps between are of
the same group; all of them have been visited if a pass is behind, and otherwise none. -/
theorem halted_places (h : Course act (Scenario.stage steps ctx) w past (some stop)) :
    ∃ last, stop.visit.place < last ∧ last ≤ steps.length ∧ stop.behind = steps.drop last ∧
      ∀ place, stop.visit.place < place → place < last →
        (∃ s, steps[place]? = some s ∧ s.group = stop.visit.step.group ∧ s.group.isSome) ∧
        ((∃ x ∈ past, x.1.place = place) ↔ 0 < stop.visit.pass.getD 0) := by
  obtain ⟨post, hnone, -⟩ |
    ⟨earlier, p, later, page, before, pre, post, hplans, hvisits, hbehind, hpast, hbefore⟩ :=
    h.halted
  · exact absurd hnone (by simp [Scenario.stage])
  · have hagenda : Scenario.agenda ctx 0 (StepRun.ofSteps steps) = earlier ++ p :: later := hplans
    obtain ⟨done, r, rest, hruns, hplan⟩ := Scenario.mem_agenda (p := p) (by rw [hagenda]; simp)
    have hsteps : steps = done.flatMap StepRun.steps ++ (r.steps ++ rest.flatMap StepRun.steps) := by
      rw [← StepRun.flatMap_ofSteps steps, hruns, List.flatMap_append, List.flatMap_cons]
    have hvisit : stop.visit ∈ p.visits page := by rw [hvisits]; simp
    rw [Nat.zero_add] at hplan
    obtain ⟨hstop, -⟩ := StepRun.planned hplan hvisit
    refine ⟨(done.flatMap StepRun.steps).length + r.steps.length, hstop.lt, ?_, ?_,
      fun place hlater hplace => ⟨?_, ?_⟩⟩
    · rw [hsteps]
      simp only [List.length_append]
      omega
    · rw [hbehind, StepRun.behind_of_mem_plans hplan, hsteps, ← List.append_assoc,
        ← List.length_append, List.drop_left]
    · obtain ⟨s, hs, hgroup⟩ :=
        StepRun.group_later (by rw [hruns]; simp) hstop hlater hplace
      have hfirst := hstop.place
      refine ⟨s, ?_, hgroup⟩
      rw [hsteps, List.getElem?_append_right (by omega), List.getElem?_append_left (by omega), hs]
    · -- The visits of the plans before are at earlier places.
      have hearlier : ∀ u ∈ before, u.place < stop.visit.place := by
        intro u hu
        obtain hu | ⟨q, hq, page', hu⟩ := hbefore u hu
        · cases hu
        · have hpairs := Scenario.agenda_pairwise ctx 0 (StepRun.ofSteps steps)
          rw [hagenda] at hpairs
          exact (List.pairwise_append.mp hpairs).2.2 q hq p List.mem_cons_self page' page u hu
            stop.visit hvisit
      have hpre : (∃ x ∈ past, x.1.place = place) ↔ ∃ u ∈ pre, u.place = place := by
        calc (∃ x ∈ past, x.1.place = place)
            ↔ ∃ u ∈ past.map Prod.fst, u.place = place := by simp
          _ ↔ ∃ u ∈ before ++ pre, u.place = place := by rw [hpast]
          _ ↔ ∃ u ∈ pre, u.place = place := by
            constructor
            · rintro ⟨u, hu, hplace⟩
              rcases List.mem_append.mp hu with hu | hu
              · have := hearlier u hu
                omega
              · exact ⟨u, hu, hplace⟩
            · rintro ⟨u, hu, hplace⟩
              exact ⟨u, List.mem_append_right _ hu, hplace⟩
      rw [hpre]
      exact StepRun.place_before hplan hvisits hlater hplace

end Course
end Planned
end Walkthrough
