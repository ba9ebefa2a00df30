import Walkthrough.Proofs.Engine
import Walkthrough.Proofs.Query

/-!
Groups: how often their steps are run, at which elements, and what is recorded of it. How many
passes there are is settled at the beginning, whatever the actions do to the page later.
-/
namespace Walkthrough

/-- The failure of a repetition for which a query finds so few elements. -/
def Query.shortage (q : Query) (index available : Nat) (label : String) (details : Members) :
    Failure :=
  Failure.engineError .precondition
    (s!"{label} matched only {available} element(s) for '" ++ (q.withIndex none).describe ++ "'")
    (Members.merge details [("index", .int index), ("available", .int available)])

namespace StepRun

variable {engine : Engine} {r : StepRun} {ctx : Context} {total : Nat} {w : Walk}
  {recorder : Recorder}

/-- The turns of a group in their order: in each pass the steps, with its number. -/
def turns (r : StepRun) (total : Nat) : List (Nat × Step) :=
  (List.range total).flatMap fun i => r.steps.map (i, ·)

/-- One turn: the step once, at its element for the pass. -/
def turn (engine : Engine) (r : StepRun) (ctx : Context) (total : Nat) (t : Nat × Step) :
    Run Unit :=
  t.2.runOnce engine (t.2.queryAt t.1) (ctx.repetition t.1 total r.group)

/-- The state behind some turns, each in the state that the one before it left. -/
def after (engine : Engine) (r : StepRun) (ctx : Context) (total : Nat) (ts : List (Nat × Step))
    (w : Walk) : Walk :=
  ts.foldl (fun w t => (r.turn engine ctx total t w).state) w

/-- The page holds an element with the number of the pass, unless the step does not look for it. -/
def Available (w : Walk) (t : Nat × Step) : Prop :=
  t.2.index = none → ∀ q, t.2.queryAt t.1 = some q →
    t.1 < ((q.withIndex none).found t.2.selectorKind w.scene.page).length

/-- What some turns recorded and how they ended. -/
structure Recorded (engine : Engine) (r : StepRun) (ctx : Context) (total : Nat)
    (ts : List (Nat × Step)) (w : Walk) (added : List StepRecord) (o : Outcome Walk Unit) :
    Prop where
  length_le : added.length ≤ ts.length
  state : o.state = r.after engine ctx total (ts.take added.length) w
  title : ∀ (n : Nat) (t : Nat × Step) (x : StepRecord), ts[n]? = some t → added[n]? = some x →
    x.title = t.2.title ++ s!" [{t.1 + 1}/{total}]"
  available : ∀ n t, n < added.length → ts[n]? = some t →
    Available (r.after engine ctx total (ts.take n) w) t
  ended : ∀ x ∈ added.dropLast, x.EndedWith none
  ok : o.result = .ok () → added.length = ts.length ∧ ∀ x ∈ added, x.EndedWith none
  error : w.Quiet → ∀ e, o.result = .error e →
    ∀ x ∈ added.getLast?, x.EndedWith none ∨ x.EndedWith (some e.text)

theorem turns_succ (r : StepRun) (total : Nat) :
    r.turns (total + 1) = r.turns total ++ r.steps.map (total, ·) := by
  simp [turns, List.range_succ]

theorem length_turns (r : StepRun) (total : Nat) :
    (r.turns total).length = total * r.steps.length := by
  induction total with
  | zero => simp [turns]
  | succ total ih => rw [turns_succ, List.length_append, ih, List.length_map, Nat.succ_mul]

/-- In pass `i` step `j` has its turn behind `i` whole passes and `j` steps. -/
theorem getElem?_turns (r : StepRun) {i j : Nat} {s : Step} (hi : i < total)
    (hj : r.steps[j]? = some s) : (r.turns total)[i * r.steps.length + j]? = some (i, s) := by
  obtain ⟨hlt, -⟩ := List.getElem?_eq_some_iff.mp hj
  induction total with
  | zero => omega
  | succ total ih =>
    rw [turns_succ]
    rcases Nat.lt_or_ge i total with h | h
    · have hle : (i + 1) * r.steps.length ≤ total * r.steps.length := Nat.mul_le_mul_right _ h
      rw [Nat.succ_mul] at hle
      rw [List.getElem?_append_left (by rw [length_turns]; omega), ih h]
    · obtain rfl : i = total := by omega
      rw [List.getElem?_append_right (by rw [length_turns]; omega), length_turns]
      simp [hj]

/-- The passes are the turns one after the other. -/
theorem each_pass (once : Runner) (r : StepRun) (ctx : Context) (total : Nat) :
    Act.each (List.range total) (r.pass once ctx total) =
      Act.each (r.turns total) fun t => r.passStep once ctx total t.1 t.2 := by
  unfold turns
  rw [Act.each_flatMap]
  refine Act.each_congr fun i _ => ?_
  rw [Act.each_map]
  rfl

/-- To make sure of enough elements asks the page once and changes nothing. -/
theorem ensureAvailable_outcome {q : Query} {k : SelectorKind} (hk : q.kind = k.name) (index : Nat)
    (label : String) (details : Members) (w : Walk) :
    let available := ((q.withIndex none).found k w.scene.page).length
    Step.ensureAvailable q index label details w =
      ⟨if available ≤ index then .error (q.shortage index available label details) else .ok (), w,
        [.query (k.key q.selector)], []⟩ := by
  intro available
  have hcount : Run.onScene (q.withIndex none).count w =
      ⟨.ok available, w, [.query (k.key q.selector)], []⟩ := by
    unfold Run.onScene Act.zoom
    rw [Query.count_eq (q := q.withIndex none) hk]
    rfl
  unfold Step.ensureAvailable
  simp only [Act.bind_eq]
  rw [Act.bind_of_ok (by rw [hcount]), hcount]
  split <;> rfl

theorem ensureAvailable_eq {q : Query} {k : SelectorKind} (hk : q.kind = k.name) (index : Nat)
    (label : String) (details : Members) (w : Walk) :
    let o := Step.ensureAvailable q index label details w
    o.state = w ∧
      if index < ((q.withIndex none).found k w.scene.page).length then o.result = .ok ()
      else ∃ e : Failure, e.TooFew ∧ o.result = .error e := by
  rw [ensureAvailable_outcome hk]
  refine ⟨rfl, ?_⟩
  split
  · rename_i h
    exact if_neg (Nat.not_le.mpr h)
  · rename_i h
    exact ⟨_, ⟨_, _, rfl⟩, if_pos (Nat.not_lt.mp h)⟩

theorem scopedQuery_cases (r : StepRun) (s : Step) (index total : Nat) (w : Walk) :
    let o := r.scopedQuery s index total w
    o.state = w ∧ ((Available w (index, s) ∧ o.result = .ok (s.queryAt index)) ∨
      (¬ Available w (index, s) ∧ ∃ e : Failure, e.TooFew ∧ o.result = .error e)) := by
  unfold scopedQuery
  rw [Query.ofStep?_some]
  cases hq : s.queryAt index with
  | none => exact ⟨rfl, Or.inl ⟨fun _ q hq' => by simp [hq] at hq', rfl⟩⟩
  | some q =>
    have hk : q.kind = s.selectorKind.name := by
      rw [← Query.ofStep?_some] at hq
      exact Query.kind_ofStep? hq
    simp only [Act.bind_eq]
    by_cases hi : s.index.isSome = true
    · rw [if_pos hi]
      refine ⟨rfl, Or.inl ⟨fun hn => ?_, rfl⟩⟩
      simp [show s.index = none from hn] at hi
    · rw [if_neg hi]
      obtain ⟨hstate, hres⟩ := ensureAvailable_eq hk index
        (s!"Iterative group '{r.groupText}' pass {index + 1}/{total}: step '{s.title}'")
        [("group", .ofOption r.group), ("step", .str s.title)] w
      split at hres
      · rename_i hlt
        rw [Act.bind_of_ok hres]
        refine ⟨hstate, Or.inl ⟨fun _ q' hq' => ?_, rfl⟩⟩
        obtain rfl : q = q' := Option.some.inj (hq.symm.trans hq')
        exact hlt
      · rename_i hlt
        obtain ⟨e, hfew, hres⟩ := hres
        rw [Act.bind_of_error hres]
        refine ⟨hstate, Or.inr ⟨fun hav => hlt (hav ?_ q hq), e, hfew, rfl⟩⟩
        exact Option.not_isSome_iff_eq_none.mp hi

/-- A step of a pass is run if the page holds its element; otherwise nothing is. -/
theorem passStep_cases (engine : Engine) (r : StepRun) (ctx : Context) (total : Nat)
    (t : Nat × Step) (w : Walk) :
    let o := r.passStep (Step.runOnce engine) ctx total t.1 t.2 w
    (Available w t ∧ o.result = (r.turn engine ctx total t w).result ∧
      o.state = (r.turn engine ctx total t w).state) ∨
    (¬ Available w t ∧ (∃ e, o.result = .error e) ∧ o.state = w) := by
  intro o
  obtain ⟨hstate, ⟨hav, hres⟩ | ⟨hav, e, -, hres⟩⟩ := scopedQuery_cases r t.2 t.1 total w
  · left
    have ho : o = _ := Act.bind_of_ok hres
    rw [ho, hstate]
    exact ⟨hav, rfl, rfl⟩
  · right
    have ho : o = _ := Act.bind_of_error hres
    rw [ho]
    exact ⟨hav, ⟨e, rfl⟩, hstate⟩

section Recorded

variable {t : Nat × Step} {ts : List (Nat × Step)} {x : StepRecord} {added : List StepRecord}
  {o o' : Outcome Walk Unit}

theorem recorded_nothing (hstate : o.state = w) (hok : o.result = .ok () → ts = []) :
    Recorded engine r ctx total ts w [] o where
  length_le := Nat.zero_le _
  state := hstate
  title := by simp
  available := by simp
  ended := by simp
  ok h := ⟨by rw [hok h]; rfl, by simp⟩
  error := by simp

theorem recorded_failure {e : Failure} (hav : Available w t)
    (hstate : o.state = (r.turn engine ctx total t w).state) (herr : o.result = .error e)
    (htitle : x.title = t.2.title ++ s!" [{t.1 + 1}/{total}]")
    (hx : w.Quiet → x.EndedWith (some e.text)) :
    Recorded engine r ctx total (t :: ts) w [x] o where
  length_le := by simp
  state := hstate
  title n t' x' ht hx' := by
    cases n with
    | zero =>
      obtain rfl : t = t' := by simpa using ht
      obtain rfl : x = x' := by simpa using hx'
      exact htitle
    | succ n => simp at hx'
  available n t' hn ht := by
    obtain rfl : n = 0 := by simpa using hn
    obtain rfl : t = t' := by simpa using ht
    exact hav
  ended := by simp
  ok h := by rw [herr] at h; cases h
  error hw e' he := by
    obtain rfl : e = e' := by rw [herr] at he; cases he; rfl
    intro x' hx'
    obtain rfl : x = x' := by simpa using hx'
    exact Or.inr (hx hw)

theorem Recorded.cons
    (h : Recorded engine r ctx total ts (r.turn engine ctx total t w).state added o)
    (hav : Available w t) (hstate : o'.state = o.state) (hres : o'.result = o.result)
    (htitle : x.title = t.2.title ++ s!" [{t.1 + 1}/{total}]") (hx : x.EndedWith none)
    (hquiet : w.Quiet → (r.turn engine ctx total t w).state.Quiet) :
    Recorded engine r ctx total (t :: ts) w (x :: added) o' where
  length_le := by simpa using h.length_le
  state := hstate.trans h.state
  title n t' x' ht hx' := by
    cases n with
    | zero =>
      obtain rfl : t = t' := by simpa using ht
      obtain rfl : x = x' := by simpa using hx'
      exact htitle
    | succ n => exact h.title n t' x' (by simpa using ht) (by simpa using hx')
  available n t' hn ht := by
    cases n with
    | zero =>
      obtain rfl : t = t' := by simpa using ht
      exact hav
    | succ n => exact h.available n t' (by simpa using hn) (by simpa using ht)
  ended := by
    cases added with
    | nil => simp
    | cons y added =>
      intro x' hx'
      rw [List.dropLast_cons_cons] at hx'
      rcases List.mem_cons.mp hx' with rfl | hx'
      · exact hx
      · exact h.ended x' hx'
  ok hok := by
    obtain ⟨hlen, hall⟩ := h.ok (hres ▸ hok)
    refine ⟨by simp [hlen], fun x' hx' => ?_⟩
    rcases List.mem_cons.mp hx' with rfl | hx'
    · exact hx
    · exact hall x' hx'
  error hw e he := by
    cases added with
    | nil =>
      intro x' hx'
      obtain rfl : x = x' := by simpa using hx'
      exact Or.inl hx
    | cons y added =>
      intro x' hx'
      exact h.error (hquiet hw) e (hres ▸ he) x' (by simpa using hx')

end Recorded

/-- Turns are recorded up to the first one that fails. -/
theorem each_recorded (engine : Engine) (r : StepRun) (ctx : Context) (total : Nat)
    (ts : List (Nat × Step)) (hw : w.recorder = some recorder) :
    let o := Act.each ts (fun t => r.passStep (Step.runOnce engine) ctx total t.1 t.2) w
    ∃ recorder' added, o.state.recorder = some recorder' ∧
      recorder'.account.steps = recorder.account.steps ++ added ∧
      Recorded engine r ctx total ts w added o := by
  induction ts generalizing w recorder with
  | nil => exact ⟨recorder, [], hw, by simp, recorded_nothing rfl fun _ => rfl⟩
  | cons t ts ih =>
    obtain ⟨hav, hres, hstate⟩ | ⟨hav, ⟨e, hres⟩, hstate⟩ :=
      passStep_cases engine r ctx total t w
    · obtain ⟨recorder', x, hw', hsteps, htitle, hok, herr⟩ :=
        Step.runOnce_record hw engine t.2 (t.2.queryAt t.1) ctx t.1 total r.group
      cases hturn : (r.turn engine ctx total t w).result with
      | error e =>
        rw [hturn] at hres
        rw [Act.each, Act.bind_of_error hres]
        exact ⟨recorder', [x], (congrArg Walk.recorder hstate).trans hw', hsteps,
          recorded_failure hav hstate rfl htitle fun hq => herr hq e hturn⟩
      | ok _ =>
        rw [hturn] at hres
        rw [Act.each, Act.bind_of_ok hres, hstate]
        obtain ⟨recorder'', added, hw'', hsteps', h⟩ := ih hw'
        refine ⟨recorder'', x :: added, hw'', by rw [hsteps', hsteps]; simp, ?_⟩
        exact h.cons hav rfl rfl htitle (hok hturn) (Walk.staysQuiet_runOnce engine _ _ _ w)
    · rw [Act.each, Act.bind_of_error hres]
      exact ⟨recorder, [], (congrArg Walk.recorder hstate).trans hw, by simp,
        recorded_nothing hstate fun h => by cases h⟩

/-- A group whose first step has a selector goes through its turns and returns their number of
passes, which is how many elements that step's own query finds at the beginning. -/
theorem run_eq {first : Step} {rest : List Step} {q : Query} (hsteps : r.steps = first :: rest)
    (hq : Query.ofStep? first none = some q) (engine : Engine) (ctx : Context) (w : Walk) :
    let total := (q.found first.selectorKind w.scene.page).length
    let o := Act.each (r.turns total)
      (fun t => r.passStep (Step.runOnce engine) ctx total t.1 t.2) w
    (r.run engine ctx w).state = o.state ∧
      (r.run engine ctx w).trace = .query (first.selectorKind.key q.selector) :: o.trace ∧
      (r.run engine ctx w).result = o.result.map fun _ => total := by
  intro total
  rw [← each_pass]
  have hcount : Run.onScene q.count w =
      ⟨.ok total, w, [.query (first.selectorKind.key q.selector)], []⟩ := by
    unfold Run.onScene Act.zoom
    rw [Query.count_eq (Query.kind_ofStep? hq)]
  unfold run runBy
  rw [hsteps]
  simp only [hq, Act.bind_eq]
  rw [Act.bind_of_ok (by rw [hcount]), hcount]
  by_cases h : total = 0
  · rw [if_pos h, h]
    exact ⟨rfl, rfl, rfl⟩
  · rw [if_neg h]
    cases hres : (Act.each (List.range total)
        (r.pass (Step.runOnce engine) ctx total) w).result with
    | error e =>
      rw [Act.bind_of_error hres]
      exact ⟨rfl, rfl, rfl⟩
    | ok _ =>
      rw [Act.bind_of_ok hres]
      refine ⟨rfl, ?_, rfl⟩
      simp only [Outcome.after, Act.pure_eq, Act.pure, List.append_nil, List.singleton_append]

/-- A group whose first step has a selector makes as many passes as that step's own query finds
elements at the beginning. Record number `i * k + j` is that of step `j` in pass `i`, run at the
step's own index or else at `i` on the page as the turns before it left it. All records but the
last one ended without an error; the last one did too, or else the run failed with its error. -/
theorem run_passes {first : Step} {rest : List Step} {q : Query} (hsteps : r.steps = first :: rest)
    (hq : Query.ofStep? first none = some q) (hw : w.recorder = some recorder) :
    let total := (q.found first.selectorKind w.scene.page).length
    let k := r.steps.length
    let before := fun n => r.after engine ctx total ((r.turns total).take n) w
    let o := r.run engine ctx w
    ∃ recorder' added, o.state.recorder = some recorder' ∧
      recorder'.account.steps = recorder.account.steps ++ added ∧
      added.length ≤ total * k ∧ o.state = before added.length ∧
      (∀ (i j : Nat) (s : Step) (x : StepRecord), i < total → r.steps[j]? = some s →
        added[i * k + j]? = some x →
        x.title = s.title ++ s!" [{i + 1}/{total}]" ∧ Available (before (i * k + j)) (i, s) ∧
        before (i * k + j + 1) = (s.runOnce engine (s.queryAt i)
          (ctx.repetition i total r.group) (before (i * k + j))).state) ∧
      (∀ x ∈ added.dropLast, x.EndedWith none) ∧
      (∀ n, o.result = .ok n →
        n = total ∧ added.length = total * k ∧ ∀ x ∈ added, x.EndedWith none) ∧
      (w.Quiet → ∀ e, o.result = .error e →
        ∀ x ∈ added.getLast?, x.EndedWith none ∨ x.EndedWith (some e.text)) := by
  intro total k before o
  obtain ⟨hstate, -, hresult⟩ := run_eq hsteps hq engine ctx w
  obtain ⟨recorder', added, hw', hadded, h⟩ :=
    each_recorded engine r ctx total (r.turns total) hw
  have hlen : (r.turns total).length = total * k := length_turns r total
  refine ⟨recorder', added, (congrArg Walk.recorder hstate).trans hw', hadded,
    hlen ▸ h.length_le, hstate.trans h.state, ?_, h.ended, ?_, ?_⟩
  · intro i j s x hi hj hx
    have hturn := getElem?_turns r hi hj
    obtain ⟨hlt, -⟩ := List.getElem?_eq_some_iff.mp hx
    refine ⟨h.title _ _ x hturn hx, h.available _ _ hlt hturn, ?_⟩
    have htake : (r.turns total).take (i * k + j + 1) =
        (r.turns total).take (i * k + j) ++ [(i, s)] := by
      rw [List.take_add_one, hturn]
      rfl
    simp only [before, htake, after, List.foldl_append]
    rfl
  · intro n hn
    have hmap := hresult.symm.trans hn
    generalize hturns : Act.each (r.turns total) _ w = turned at hmap h
    cases hres : turned.result with
    | error e => simp [hres, Except.map] at hmap
    | ok _ =>
      obtain ⟨hall, hended⟩ := h.ok hres
      simp only [hres, Except.map, Except.ok.injEq] at hmap
      exact ⟨hmap.symm, hall.trans hlen, hended⟩
  · intro hquiet e he
    have hmap := hresult.symm.trans he
    generalize hturns : Act.each (r.turns total) _ w = turned at hmap h
    cases hres : turned.result with
    | ok _ => simp [hres, Except.map] at hmap
    | error e' =>
      simp only [hres, Except.map, Except.error.injEq] at hmap
      exact h.error hquiet e (hmap ▸ hres)

/-- Two cards make two passes, although each click adds another card. -/
theorem run_passes_of_growing_cards :
    let card := Element.mk {} [] [("click", [.add ".card" default])]
    let s : Step := { action := .click, selector := some ".card", group := some "cards" }
    let w : Walk :=
      { scene := { page := { elements := [(".card", [card, card])] } }
        recorder := some { account := { title := "", startTime := 0 } } }
    let o := (StepRun.mk [s] (some "cards")).run { settings := default } {} w
    o.result = .ok 2 ∧ ∃ recorder' added, o.state.recorder = some recorder' ∧
      recorder'.account.steps = added ∧ added.length = 2 ∧
      ∀ x, added[1]? = some x → x.title = "click [2/2]" := by
  intro card s w o
  have hok : o.result = .ok 2 := by
    have h : o.result.toOption = some 2 := by decide +kernel
    cases hres : o.result with
    | error e => simp [hres, Except.toOption] at h
    | ok n => simpa [hres, Except.toOption] using h
  obtain ⟨recorder', added, hw, hadded, -, -, htitle, -, hn, -⟩ :=
    run_passes (r := ⟨[s], some "cards"⟩) (q := ⟨".card", "css", none⟩) (w := w) rfl rfl rfl
  obtain ⟨htotal, hlen, -⟩ := hn 2 hok
  rw [← htotal] at htitle hlen
  refine ⟨hok, recorder', added, hw, hadded, hlen, fun x hx => ?_⟩
  obtain ⟨ht, -⟩ := htitle 1 0 s x (by decide) rfl hx
  exact ht

end StepRun
end Walkthrough
