import Walkthrough.Plugin.Bundled
import Walkthrough.Proofs.Registry
import Walkthrough.Proofs.Visit

/-!
A step that is repeated, and the same step as a group of its own: both do the same to the same
elements and record the same. They differ in how they report that the page holds too few elements.
-/
namespace Walkthrough

/-- Contexts that say the same but for the name of a group. -/
def Context.SameButGroup (c c' : Context) : Prop :=
  c'.fields.filter (·.1 ≠ groupKey) = c.fields.filter (·.1 ≠ groupKey)

/-- Steps that are the same but for being repeated or being in a group. -/
def Step.SameButGroup (s s' : Step) : Prop := ∃ iterate group, s' = { s with iterate, group }

/-- A handler that does not look at the group of the context, nor at what `Same` leaves open. -/
def Handler.IgnoresGroup {α : Type} (Same : α → α → Prop) (h : Handler α) : Prop :=
  ∀ a a' c c', Same a a' → Context.SameButGroup c c' → h.run a' c' = h.run a c

/-- Handlers that do not look whether steps are repeated or in a group. -/
def Plugins.IgnoresGroup (p : Plugins) : Prop :=
  p.All (Handler.IgnoresGroup Step.SameButGroup) (Handler.IgnoresGroup Eq)

/-- The step in a group, in place of its own repetitions. -/
def Step.inGroup (s : Step) (g : String) : Step := { s with iterate := false, group := some g }

namespace Members

theorem get?_filter_ne (ms : Members) {key other : String} (h : key ≠ other) :
    get? (ms.filter (·.1 ≠ other)) key = get? ms key := by
  induction ms with
  | nil => rfl
  | cons m ms ih =>
    obtain ⟨k, v⟩ := m
    by_cases hk : k = other
    · have hne : k ≠ key := fun he => h (he.symm.trans hk)
      simpa [hk, get?, Ne.symm h] using ih
    · rw [List.filter_cons_of_pos (by simpa using hk)]
      simp only [get?, ih]

theorem filter_put (ms : Members) (key : String) (value : Json) :
    (ms.put key value).filter (·.1 ≠ key) = ms.filter (·.1 ≠ key) := by
  induction ms with
  | nil => simp [put]
  | cons m ms ih =>
    obtain ⟨k, v⟩ := m
    by_cases hk : k = key
    · simp [put, hk]
    · simpa [put, hk] using ih

end Members

namespace Context

variable {c c' : Context}

theorem SameButGroup.get? (h : c.SameButGroup c') (key : String) (hkey : key ≠ groupKey) :
    c'.get? key = c.get? key := by
  have hget : Members.get? (c'.fields.filter (·.1 ≠ groupKey)) key =
      Members.get? (c.fields.filter (·.1 ≠ groupKey)) key := by rw [h]
  rw [Members.get?_filter_ne _ hkey, Members.get?_filter_ne _ hkey] at hget
  exact hget

theorem SameButGroup.iterationIndex (h : c.SameButGroup c') :
    c'.iterationIndex = c.iterationIndex := by
  simp only [Context.iterationIndex, h.get? indexKey (by decide)]

theorem SameButGroup.inIteration (h : c.SameButGroup c') : c'.inIteration = c.inIteration :=
  congrArg Option.isSome (h.get? indexKey (by decide))

theorem SameButGroup.suffix (h : c.SameButGroup c') : c'.suffix = c.suffix := by
  have htotal : c'.totalIterations = c.totalIterations := by
    simp only [totalIterations, h.get? totalKey (by decide)]
  simp only [Context.suffix, h.inIteration, h.iterationIndex, htotal]

/-- The group is the last thing that a repetition is told, and the only one that differs. -/
theorem sameButGroup_repetition (c : Context) (index total : Nat) (g : String) :
    (c.repetition index total none).SameButGroup (c.repetition index total (some g)) :=
  Members.filter_put (c.repetition index total none).fields groupKey (.str g)

end Context

section Once

variable {engine : Engine} (hplugins : engine.plugins.IgnoresGroup) {c c' : Context}
  (h : c.SameButGroup c')
include h

theorem Check.scope_sameButGroup (check : Check) (query : Option Query) :
    check.scope query c' = check.scope query c := by
  unfold scope
  rw [h.inIteration, h.iterationIndex]

include hplugins

theorem Check.verify_sameButGroup (check : Check) (query : Option Query) :
    check.verify engine query c' = check.verify engine query c := by
  have hscope := check.scope_sameButGroup h query
  have hhandler : check.runHandler engine query c' = check.runHandler engine query c := by
    unfold runHandler
    rw [hscope]
    cases hfound : engine.plugins.check check.customName with
    | error e => rfl
    | ok handler =>
      have hrun := hplugins.check hfound check check c c' rfl h
      simp only [Act.ofExcept, Act.bind_eq, Act.pure_bind, hrun]
  have hdeclared : check.expectDeclared engine query c' = check.expectDeclared engine query c := by
    unfold expectDeclared
    rw [hscope]
  unfold verify
  rw [hhandler, hdeclared]

theorem Step.perform_sameButGroup {s s' : Step} (hs : s.SameButGroup s')
    (element : Option Locator) :
    s'.perform engine element c' = s.perform engine element c := by
  have hrun : ∀ {name handler}, engine.plugins.action (some name) = .ok handler →
      handler.run s' c' = handler.run s c :=
    fun hfound => hplugins.action hfound s s' c c' hs h
  obtain ⟨iterate, group, rfl⟩ := hs
  cases s with
  | mk name selector selectorKind waitTime index own outer options checks action =>
    cases action with
    | custom custom data =>
      unfold perform
      dsimp only
      cases hfound : engine.plugins.action (some custom) with
      | error e => rfl
      | ok handler => simp only [Act.ofExcept, Act.bind_eq, Act.pure_bind, hrun hfound]
    | _ => rfl

/-- What is done in one execution does not depend on the group. -/
theorem Step.runOnce_sameButGroup {s s' : Step} (hs : s.SameButGroup s') (query : Option Query) :
    s'.runOnce engine query c' = s.runOnce engine query c := by
  have hchecks : runCheck engine query c' = runCheck engine query c := by
    funext check
    unfold runCheck Check.run
    rw [check.verify_sameButGroup hplugins h query]
  have hbody : s'.body engine query c' = s.body engine query c := by
    unfold body
    simp only [perform_sameButGroup hplugins h hs, hchecks]
    obtain ⟨iterate, group, rfl⟩ := hs
    rfl
  unfold runOnce
  rw [hbody, h.suffix]
  obtain ⟨iterate, group, rfl⟩ := hs
  rfl

end Once

/-- Outcomes of acts that did the same. Their failures may be told in two ways, as `R` says. -/
structure Outcome.Alike {σ α : Type} (R : σ → Failure → Failure → Prop) (o o' : Outcome σ α) :
    Prop where
  state : o'.state = o.state
  trace : o'.trace = o.trace
  result : o'.result = o.result ∨
    ∃ e e', o.result = .error e ∧ o'.result = .error e' ∧ R o.state e e'

/-- Acts for several values that do the same for each of them do the same for all. -/
theorem Act.each_alike {σ β : Type} {R : σ → Failure → Failure → Prop} {xs : List β}
    {f g : β → Act σ Unit} (h : ∀ x ∈ xs, ∀ s, Outcome.Alike R (f x s) (g x s)) (s : σ) :
    Outcome.Alike R (each xs f s) (each xs g s) := by
  induction xs generalizing s with
  | nil => exact ⟨rfl, rfl, Or.inl rfl⟩
  | cons x xs ih =>
    obtain ⟨hstate, htrace, hresult⟩ := h x List.mem_cons_self s
    unfold each
    obtain hsame | ⟨e, e', he, he', hR⟩ := hresult
    · cases hf : (f x s).result with
      | error e =>
        rw [hf] at hsame
        rw [bind_of_error hf, bind_of_error hsame]
        exact ⟨hstate, htrace, Or.inl rfl⟩
      | ok _ =>
        rw [hf] at hsame
        rw [bind_of_ok hf, bind_of_ok hsame, hstate]
        obtain ⟨hstate', htrace', hresult'⟩ :=
          ih (fun y hy => h y (List.mem_cons_of_mem x hy)) (f x s).state
        refine ⟨hstate', ?_, hresult'⟩
        simp only [Outcome.after, htrace, htrace']
    · rw [bind_of_error he, bind_of_error he']
      exact ⟨hstate, htrace, Or.inr ⟨e, e', rfl, rfl, hR⟩⟩

/-- How a repeated step speaks of one of its repetitions. -/
def Step.repetitionLabel (s : Step) (total index : Nat) : String :=
  s!"Step '{s.title}' iteration {index + 1}/{total}"

/-- How a group speaks of one of its steps in a pass. -/
def StepRun.passLabel (r : StepRun) (s : Step) (total index : Nat) : String :=
  s!"Iterative group '{r.groupText}' pass {index + 1}/{total}: step '{s.title}'"

/-- Makes sure that the page holds an element with a number, unless the step has its own number. -/
def Step.lookFor (s : Step) (q : Query) (index : Nat) (label : String) (details : Members) :
    Run Unit :=
  if s.index.isSome then Act.pure ()
  else ensureAvailable (q.withIndex (some index)) index label details

section Turns

variable {engine : Engine} {once : Runner} {s : Step} {q : Query} {ctx : Context} {total index : Nat}

theorem Step.repetition_turn (hq : Query.ofStep? s none = some q) :
    s.repetition once q ctx total index =
      Act.bind (s.lookFor q index (s.repetitionLabel total index) [("step", .str s.title)]) fun _ =>
        once s (Query.ofStep? s (some index)) (ctx.repetition index total none) := by
  rw [ofStep?_withIndex hq]
  unfold repetition lookFor
  dsimp only
  cases s.index.isSome <;> rfl

theorem StepRun.passStep_turn (r : StepRun) (hq : Query.ofStep? s none = some q) :
    r.passStep once ctx total index s =
      Act.bind (s.lookFor q index (r.passLabel s total index)
        [("group", .ofOption r.group), ("step", .str s.title)]) fun _ =>
        once s (Query.ofStep? s (some index)) (ctx.repetition index total r.group) := by
  unfold passStep
  rw [Act.bind_eq, scopedQuery_bind]
  unfold scopedQuery Step.lookFor
  rw [Step.ofStep?_withIndex hq]
  dsimp only
  cases s.index.isSome with
  | true => rfl
  | false =>
    simp only [Bool.false_eq_true, if_false, Act.bind_eq, Act.bind_assoc]
    rfl

end Turns

namespace Step

variable {engine : Engine} {s : Step} {q : Query} {total : Nat}

/-- The group that a step makes up alone. -/
def lone (s : Step) (g : String) : StepRun := ⟨[s.inGroup g], some g⟩

/-- The failures of a repeated step and of its lone group where the page holds too few elements for
one of the repetitions. -/
def ShortAlike (s : Step) (g : String) (q : Query) (total : Nat) (w : Walk) (e e' : Failure) :
    Prop :=
  ∃ index available, index < total ∧ available ≤ index ∧
    available = ((q.withIndex none).found s.selectorKind w.scene.page).length ∧
    e = q.shortage index available (s.repetitionLabel total index) [("step", .str s.title)] ∧
    e' = q.shortage index available ((s.lone g).passLabel s total index)
      [("group", .str g), ("step", .str s.title)]

/-- One repetition and the pass of the lone group with the same number. -/
theorem repetition_alike (hplugins : engine.plugins.IgnoresGroup) (g : String)
    (hq : Query.ofStep? s none = some q) (ctx : Context) {index : Nat} (hn : index < total)
    (w : Walk) :
    Outcome.Alike (s.ShortAlike g q total) (s.repetition (runOnce engine) q ctx total index w)
      ((s.lone g).pass (runOnce engine) ctx total index w) := by
  have honce : (s.inGroup g).runOnce engine (Query.ofStep? s (some index))
      (ctx.repetition index total (some g)) =
        s.runOnce engine (Query.ofStep? s (some index)) (ctx.repetition index total none) :=
    runOnce_sameButGroup hplugins (ctx.sameButGroup_repetition index total g) ⟨false, some g, rfl⟩ _
  have hpass : (s.lone g).pass (runOnce engine) ctx total index =
      Act.bind (s.lookFor q index ((s.lone g).passLabel s total index)
        [("group", .str g), ("step", .str s.title)]) fun _ =>
          s.runOnce engine (Query.ofStep? s (some index)) (ctx.repetition index total none) := by
    calc (s.lone g).pass (runOnce engine) ctx total index
        = (s.lone g).passStep (runOnce engine) ctx total index (s.inGroup g) :=
          Act.each_singleton _ _
      _ = _ := StepRun.passStep_turn (s.lone g) (s := s.inGroup g) hq
      _ = _ := by
        rw [← honce]
        rfl
  rw [hpass, repetition_turn hq]
  unfold lookFor
  cases hi : s.index.isSome with
  | true =>
    simp only [if_true]
    exact ⟨rfl, rfl, Or.inl rfl⟩
  | false =>
    have hk := Query.kind_ofStep? hq
    have hkind : (q.withIndex (some index)).kind = s.selectorKind.name := hk
    have hout := fun label details => StepRun.ensureAvailable_outcome hkind index label details w
    simp only [Bool.false_eq_true, if_false]
    by_cases hfew : ((q.withIndex none).found s.selectorKind w.scene.page).length ≤ index
    · rw [Act.bind_of_error (by rw [hout]; exact if_pos hfew),
        Act.bind_of_error (by rw [hout]; exact if_pos hfew), hout, hout]
      exact ⟨rfl, rfl, Or.inr ⟨_, _, rfl, rfl, index, _, hn, hfew, rfl, rfl, rfl⟩⟩
    · rw [Act.bind_of_ok (by rw [hout]; exact if_neg hfew),
        Act.bind_of_ok (by rw [hout]; exact if_neg hfew), hout, hout]
      simp only [Outcome.after]
      exact ⟨rfl, rfl, Or.inl rfl⟩

/-- A repeated step asks how many elements there are and goes through its repetitions. -/
theorem run_of_repeats (hi : s.iterate = true) (hq : Query.ofStep? s none = some q)
    (engine : Engine) (ctx : Context) (w : Walk) :
    let total := (q.found s.selectorKind w.scene.page).length
    let o := Act.each (List.range total) (s.repetition (runOnce engine) q ctx total) w
    (s.run engine ctx w).state = o.state ∧
      (s.run engine ctx w).trace = .query (s.selectorKind.key q.selector) :: o.trace ∧
      (s.run engine ctx w).result = o.result := by
  intro total
  have hcount := Run.onScene_count (Query.kind_ofStep? hq) w
  have hrepeats : s.repeats? = some q := by
    unfold repeats?
    rw [hi, if_pos rfl, hq]
  unfold run
  rw [runBy_of_repeats? hrepeats]
  unfold runForEach
  rw [Act.bind_eq, Act.bind_of_ok (by rw [hcount]), hcount]
  split
  · rename_i hnone
    rw [show total = 0 from hnone]
    exact ⟨rfl, rfl, rfl⟩
  · exact ⟨rfl, rfl, rfl⟩

/-- A step that is repeated and the same step as a group of its own do the same: they end in the
same state and leave the same marks, and both come to their end or fail alike. Only where the page
holds too few elements for a repetition they tell so each in its own way. -/
theorem run_lone (hplugins : engine.plugins.IgnoresGroup) (hi : s.iterate = true)
    (hq : Query.ofStep? s none = some q) (g : String) (ctx : Context) (w : Walk) :
    let total := (q.found s.selectorKind w.scene.page).length
    let alone := s.run engine ctx w
    let grouped := (s.lone g).run engine ctx w
    grouped.state = alone.state ∧ grouped.trace = alone.trace ∧
      ((alone.result = .ok () ∧ grouped.result = .ok total) ∨
        (∃ e, alone.result = .error e ∧ grouped.result = .error e) ∨
        ∃ e e', alone.result = .error e ∧ grouped.result = .error e' ∧
          s.ShortAlike g q total alone.state e e') := by
  intro total alone grouped
  obtain ⟨hstate, htrace, hresult⟩ := run_of_repeats hi hq engine ctx w
  have hgrouped :
      let passes := Act.each (List.range total) ((s.lone g).pass (runOnce engine) ctx total) w
      grouped.state = passes.state ∧
        grouped.trace = .query (s.selectorKind.key q.selector) :: passes.trace ∧
        grouped.result = passes.result.map fun _ => total := by
    rw [StepRun.each_pass]
    exact StepRun.run_eq (r := s.lone g) rfl hq engine ctx w
  obtain ⟨hstate', htrace', hresult'⟩ := hgrouped
  obtain ⟨hs, ht, hr⟩ : Outcome.Alike (s.ShortAlike g q total)
      (Act.each (List.range total) (s.repetition (runOnce engine) q ctx total) w)
      (Act.each (List.range total) ((s.lone g).pass (runOnce engine) ctx total) w) :=
    Act.each_alike
      (fun index hn => repetition_alike hplugins g hq ctx (List.mem_range.mp hn)) w
  refine ⟨by rw [hstate', hs, hstate], by rw [htrace', ht, htrace], ?_⟩
  rw [hresult, hresult', hstate]
  obtain hsame | ⟨e, e', he, he', hshort⟩ := hr
  · rw [hsame]
    cases hres : (Act.each (List.range total)
        (s.repetition (runOnce engine) q ctx total) w).result with
    | ok _ => exact Or.inl ⟨rfl, rfl⟩
    | error e => exact Or.inr (Or.inl ⟨e, rfl, rfl⟩)
  · rw [he, he']
    exact Or.inr (Or.inr ⟨e, e', rfl, rfl, hshort⟩)

end Step

/-- The handlers that come with the engine do not look at groups. -/
theorem Bundled.ignoresGroup : (({} : Plugins).registerAll registrations).1.IgnoresGroup := by
  refine Plugins.All.registerAll ⟨by simp, by simp⟩ fun r hr => ?_
  simp only [registrations, List.mem_cons, List.not_mem_nil, or_false] at hr
  obtain rfl | rfl | rfl := hr
  · rintro s _ c c' ⟨iterate, group, rfl⟩ h
    rfl
  · rintro s _ c c' ⟨iterate, group, rfl⟩ h
    funext element
    simp only [queryResponse, h.iterationIndex]
    rfl
  · rintro check _ c c' rfl h
    rfl

/-- A click takes away one of two elements. Neither the step nor its group then finds the second. -/
theorem Step.run_lone_of_vanishing_element :
    let engine : Engine :=
      { settings := default, plugins := (({} : Plugins).registerAll Bundled.registrations).1 }
    let s : Step := { action := .click, selector := some ".todo", iterate := true }
    let todo := Element.mk {} [] [("click", [.remove ".todo" 0])]
    let w : Walk :=
      { scene := { page := { elements := [(".todo", [todo, todo])] } }
        recorder := some { account := { title := "", startTime := 0 } } }
    let alone := s.run engine {} w
    let grouped := (s.lone "todos").run engine {} w
    let message (r : Except Failure Unit) := (Recorder.failure? r).map Failure.text
    engine.plugins.IgnoresGroup ∧ s.iterate = true ∧
    Query.ofStep? s none = some ⟨".todo", "css", none⟩ ∧
    grouped.state = alone.state ∧ grouped.trace = alone.trace ∧
    message alone.result =
      some "Step 'click' iteration 2/2 matched only 1 element(s) for 'css=.todo'" ∧
    message (grouped.result.map fun _ => ()) =
      some ("Iterative group 'todos' pass 2/2: " ++
        "step 'click' matched only 1 element(s) for 'css=.todo'") := by
  intro engine s todo w alone grouped message
  have hplugins : engine.plugins.IgnoresGroup := Bundled.ignoresGroup
  obtain ⟨hstate, htrace, -⟩ :=
    run_lone hplugins (s := s) (q := ⟨".todo", "css", none⟩) rfl rfl "todos" {} w
  refine ⟨hplugins, rfl, rfl, hstate, htrace, ?_, ?_⟩
  · decide +kernel
  · decide +kernel

end Walkthrough
