import Walkthrough.Proofs.Filling
import Walkthrough.Proofs.Plays

/-!
The calls by which an element is filled: it is described, clicked once if it takes no text itself, and
then one input is filled, the element or the first visible input that the click reveals.
-/
namespace Walkthrough

/-- Whether the mark is that of a fill. -/
def Mark.isFill : Mark → Bool
  | .element (.fill _ _) _ => true
  | _ => false

/-- Whether the mark is that of a click. -/
def Mark.isClick : Mark → Bool
  | .element (.click _) _ => true
  | _ => false

/-- Whether the failure is that of an element which takes no text and reveals no input. -/
def Failure.isNotFillable : Failure → Bool
  | .engine e => e.fault == .notFillable
  | _ => false

theorem Failure.IsMisuse.isNotFillable {f : Failure} (h : f.IsMisuse) :
    f.isNotFillable = false := by
  unfold Failure.isNotFillable
  split
  · exact h.elim
  · rfl

theorem Element.isMisuse_of_facts {e : Element} {f : Failure} (h : e.facts = .error f) :
    f.IsMisuse := by
  unfold facts at h
  split at h
  · exact Fill.isMisuse_of_normalized h
  · cases h

namespace Locator

/-- A call is refused by the page, or it marks the first element and changes the page. -/
theorem call_cases (l : Locator) (c : ElementCall) (s : Scene) :
    (∃ message, (l.call c s).result = .error (.page message)) ∨
    ∃ e, l.first? s.page = some e ∧
      l.call c s = ⟨.ok e, { s with page := l.afterCall c s.page }, [.element c e.name], []⟩ := by
  cases hfirst : l.first? s.page with
  | none => exact Or.inl ⟨_, by rw [call_of_none hfirst]⟩
  | some e =>
    rw [call_of_some hfirst]
    cases namedValue? e.traits.errors c.name with
    | some message => exact Or.inl ⟨message, rfl⟩
    | none => exact Or.inr ⟨e, rfl, rfl⟩

/-- A click is refused, or goes on with the changed page. -/
theorem click_cases (l : Locator) (os : Members) (s : Scene) :
    (∃ message, (l.click os s).result = .error (.page message) ∧
      (l.click os s).trace = (l.call (.click os) s).trace) ∨
    ∃ e, l.first? s.page = some e ∧ l.click os s =
      ⟨.ok (), { s with page := l.afterCall (.click os) s.page }, [.element (.click os) e.name],
        []⟩ := by
  unfold click
  rw [Act.bind_eq]
  obtain ⟨message, hrefused⟩ | ⟨e, hfirst, hcalled⟩ := call_cases l (.click os) s
  · exact Or.inl ⟨message, by rw [Act.bind_of_error hrefused], by rw [Act.bind_of_error hrefused]⟩
  · refine Or.inr ⟨e, hfirst, ?_⟩
    rw [Act.bind_of_ok (by rw [hcalled]), hcalled]
    rfl

/-- A fill is refused, or the first element is filled. -/
theorem fill_cases (l : Locator) (v : String) (os : Members) (s : Scene) :
    (∃ message, (l.fill v os s).result = .error (.page message)) ∨
    ∃ e, l.first? s.page = some e ∧ (l.fill v os s).result = .ok () := by
  unfold fill
  rw [Act.bind_eq]
  obtain ⟨message, hrefused⟩ | ⟨e, hfirst, hcalled⟩ := call_cases l (.fill v os) s
  · exact Or.inl ⟨message, by rw [Act.bind_of_error hrefused]⟩
  · refine Or.inr ⟨e, hfirst, ?_⟩
    rw [Act.bind_of_ok (by rw [hcalled])]
    rfl

end Locator

namespace Fill

variable {l : Locator} {s : Scene} {description value : String} {options : Members}

/-- The scene once an element has been described. -/
def described (l : Locator) (s : Scene) : Scene := { s with page := l.afterCall .describe s.page }

/-- The scene once it has been clicked as well. -/
def clicked (l : Locator) (s : Scene) : Scene :=
  { s with page := l.afterCall (.click []) (described l s).page }

/-- The first visible one of several elements stands at this place. -/
def IsFirstVisible (es : List Element) (n : Nat) (e : Element) : Prop :=
  es[n]? = some e ∧ e.traits.visible = true ∧
    ∀ m < n, ∀ e', es[m]? = some e' → e'.traits.visible = false

/-- The failure with which an element cannot be described, or its description cannot be read. -/
def Unread (l : Locator) (s : Scene) (f : Failure) : Prop :=
  (l.call .describe s).result = .error f ∨ ∃ e, l.first? s.page = some e ∧
    (e.facts = .error f ∨
      ∃ info, e.facts = .ok info ∧ (isFillable info = .error f ∨ summary info = .error f))

theorem Unread.isNotFillable {f : Failure} (h : Unread l s f) : f.isNotFillable = false := by
  obtain hcall | ⟨e, -, hfacts | ⟨info, -, hfillable | hsummary⟩⟩ := h
  · obtain ⟨message, hrefused⟩ | ⟨e, -, hcalled⟩ := l.call_cases .describe s
    · cases hrefused.symm.trans hcall
      rfl
    · rw [hcalled] at hcall
      cases hcall
  · exact (Element.isMisuse_of_facts hfacts).isNotFillable
  · exact (isMisuse_of_isFillable hfillable).isNotFillable
  · exact (isMisuse_of_summary hsummary).isNotFillable

/-- The input that is chosen for an element: itself if it takes text, and else the first visible one of
those that a click brings to light. -/
def IsChosen (l : Locator) (s : Scene) (input : Locator) : Prop :=
  ∃ e, l.first? s.page = some e ∧
    ((e.takesText = true ∧ input = l) ∨
      (e.takesText = false ∧ ∃ (n : Nat) (received : Element),
        IsFirstVisible (revealed l s.page) n received ∧ input = l.inputs.nth n))

/-- The ways in which the choice of an input can end, and what each of them has left. -/
inductive Choice (l : Locator) (s : Scene) : Outcome Scene Locator → Prop
  | unread {o : Outcome Scene Locator} {f : Failure} (failed : o.result = .error f)
      (cause : Unread l s f)
      (marks : ∀ m ∈ o.trace, m.isClick = false ∧ m.isFill = false) : Choice l s o
  | itself {e : Element} (first : l.first? s.page = some e) (takes : e.takesText = true) :
      Choice l s ⟨.ok l, described l s, [.element .describe e.name], []⟩
  | unclicked {o : Outcome Scene Locator} {e : Element} {f : Failure}
      (first : l.first? s.page = some e) (refuses : e.takesText = false)
      (failed : o.result = .error f) (kind : f.isNotFillable = false)
      (click : (l.click [] (described l s)).result = .error f)
      (marks : ∀ m ∈ o.trace, m.isFill = false) : Choice l s o
  | unfound {e e' : Element} {f : Failure} (first : l.first? s.page = some e)
      (refuses : e.takesText = false) (kind : f.isNotFillable = true)
      (click : l.click [] (described l s) =
        ⟨.ok (), clicked l s, [.element (.click []) e'.name], []⟩)
      (hidden : ∀ e ∈ revealed l s.page, e.traits.visible = false) :
      Choice l s ⟨.error f, clicked l s,
        [.element .describe e.name, .element (.click []) e'.name, .descend l.label], []⟩
  | found {e e' received : Element} {n : Nat} (first : l.first? s.page = some e)
      (refuses : e.takesText = false)
      (click : l.click [] (described l s) =
        ⟨.ok (), clicked l s, [.element (.click []) e'.name], []⟩)
      (visible : IsFirstVisible (revealed l s.page) n received) :
      Choice l s ⟨.ok (l.inputs.nth n), clicked l s,
        [.element .describe e.name, .element (.click []) e'.name, .descend l.label], []⟩

/-- Looking for an input gives the first visible one, if there is one. -/
theorem findInput_cases (l : Locator) (s : Scene) :
    (findInput l s = ⟨.ok none, s, [.descend l.label], []⟩ ∧
      ∀ e ∈ l.inputs.found s.page, e.traits.visible = false) ∨
    ∃ (n : Nat) (e : Element), findInput l s = ⟨.ok (some (l.inputs.nth n)), s, [.descend l.label], []⟩ ∧
      IsFirstVisible (l.inputs.found s.page) n e := by
  rw [findInput_eq]
  cases hfind : (List.range (l.inputs.found s.page).length).find? fun n =>
      (l.inputs.found s.page)[n]?.any (·.traits.visible) with
  | none =>
    refine Or.inl ⟨rfl, fun e he => ?_⟩
    obtain ⟨n, hn, rfl⟩ := List.mem_iff_getElem.mp he
    have hnot := List.find?_eq_none.mp hfind n (List.mem_range.mpr hn)
    simpa [List.getElem?_eq_getElem hn] using hnot
  | some n =>
    obtain ⟨hvisible, -, hbefore⟩ := List.find?_range_eq_some.mp hfind
    obtain ⟨e, he, hvisible⟩ := (Option.any_eq_true _ _).mp hvisible
    refine Or.inr ⟨n, e, rfl, he, hvisible, fun m hm e' he' => ?_⟩
    have hnot := hbefore m hm
    simpa [he'] using hnot

/-- What can happen to an element that takes no text itself, once it has been described. -/
theorem choice_of_refuses {e : Element} {f : Failure} (hfirst : l.first? s.page = some e)
    (hrefuses : e.takesText = false) (hkind : f.isNotFillable = true) :
    Choice l s ((Act.bind (l.click []) (fun _ => Act.bind (findInput l) fun found? =>
      match found? with
      | some input => Act.pure input
      | none => Act.fail f) (described l s)).after
        ⟨.ok e, described l s, [.element .describe e.name], []⟩) := by
  obtain ⟨message, hrefused, htrace⟩ | ⟨e', -, hclicked⟩ := l.click_cases [] (described l s)
  · rw [Act.bind_of_error hrefused]
    refine .unclicked hfirst hrefuses rfl rfl hrefused fun m hm => ?_
    obtain hm | hm := List.mem_append.mp hm
    · rw [List.mem_singleton.mp hm]
      rfl
    · rw [htrace, Locator.call_trace, Option.mem_toList, Option.map_eq_some_iff] at hm
      obtain ⟨_, -, rfl⟩ := hm
      rfl
  · change l.click [] (described l s) =
      ⟨.ok (), clicked l s, [.element (.click []) e'.name], []⟩ at hclicked
    rw [Act.bind_of_ok (by rw [hclicked]), hclicked]
    dsimp only
    obtain ⟨hnone, hhidden⟩ | ⟨n, received, hsome, hvisible⟩ := findInput_cases l (clicked l s)
    · rw [Act.bind_of_ok (congrArg Outcome.result hnone), hnone]
      exact .unfound hfirst hrefuses hkind hclicked hhidden
    · rw [Act.bind_of_ok (congrArg Outcome.result hsome), hsome]
      exact .found hfirst hrefuses hclicked hvisible

/-- Choosing an input ends in one of these ways. -/
theorem choice (l : Locator) (description : String) (s : Scene) :
    Choice l s (chooseInput l description s) := by
  unfold chooseInput
  simp only [Act.bind_eq, Act.pure_eq, describe_eq, Act.bind_assoc]
  obtain ⟨message, hrefused⟩ | ⟨e, hfirst, hcalled⟩ := l.call_cases .describe s
  · rw [Act.bind_of_error hrefused]
    refine .unread rfl (Or.inl hrefused) fun m hm => ?_
    rw [Locator.call_trace, Option.mem_toList, Option.map_eq_some_iff] at hm
    obtain ⟨_, -, rfl⟩ := hm
    exact ⟨rfl, rfl⟩
  rw [Act.bind_of_ok (by rw [hcalled]), hcalled]
  -- Up to the click only the description has left a mark.
  have hunread : ∀ {f : Failure}, Unread l s f →
      Choice l s ⟨.error f, described l s, [.element .describe e.name], []⟩ := by
    intro f hf
    refine .unread rfl hf fun m hm => ?_
    rw [List.mem_singleton.mp hm]
    exact ⟨rfl, rfl⟩
  cases hfacts : e.facts with
  | error f => exact hunread (Or.inr ⟨e, hfirst, Or.inl hfacts⟩)
  | ok info =>
    rw [Act.bind_of_silent (Act.ofExcept_eq _ _)]
    cases hfillable : isFillable info with
    | error f => exact hunread (Or.inr ⟨e, hfirst, Or.inr ⟨info, hfacts, Or.inl hfillable⟩⟩)
    | ok fillable =>
      rw [Act.bind_of_silent (Act.ofExcept_eq _ _)]
      have htakes : e.takesText = fillable := by
        rw [Element.takesText_of_facts hfacts, hfillable]
        rfl
      cases fillable with
      | true => exact .itself hfirst htakes
      | false =>
        simp only [Bool.false_eq_true, if_false]
        cases hsummary : summary info with
        | error f => exact hunread (Or.inr ⟨e, hfirst, Or.inr ⟨info, hfacts, Or.inr hsummary⟩⟩)
        | ok text =>
          rw [Act.bind_of_silent (Act.ofExcept_eq _ _)]
          exact choice_of_refuses hfirst htakes rfl

/-- The scene in which the chosen input is filled. -/
def ready (l : Locator) (s : Scene) : Scene :=
  if (l.first? s.page).any (·.takesText) then described l s else clicked l s

theorem ready_of_takes {e : Element} (hfirst : l.first? s.page = some e)
    (htakes : e.takesText = true) : ready l s = described l s := by
  rw [ready, hfirst, Option.any_some, if_pos htakes]

theorem ready_of_refuses {e : Element} (hfirst : l.first? s.page = some e)
    (hrefuses : e.takesText = false) : ready l s = clicked l s := by
  rw [ready, hfirst, Option.any_some, hrefuses, if_neg Bool.false_ne_true]

theorem not_takes_of_refuses {e e' : Element} (hfirst : l.first? s.page = some e)
    (hrefuses : e.takesText = false) (hfirst' : l.first? s.page = some e') :
    ¬ e'.takesText = true := by
  obtain rfl := Option.some.inj (hfirst.symm.trans hfirst')
  rw [hrefuses]
  exact Bool.false_ne_true

/-- Filling the chosen input is refused by the page, or gives that input back. -/
theorem fill_chosen_cases (input : Locator) (value : String) (options : Members) (s : Scene) :
    let o := Act.bind (input.fill value options) (fun _ => Act.pure input) s
    o.trace = ((input.first? s.page).map (Mark.element (.fill value options) ·.name)).toList ∧
      o.state = (input.fill value options s).state ∧
      ((∃ message, o.result = .error (.page message) ∧
          (input.fill value options s).result = .error (.page message)) ∨
        ∃ e, input.first? s.page = some e ∧ o.result = .ok input) := by
  intro o
  refine ⟨(Locator.bind_fill_trace input value options input s).trans (Locator.call_trace _ _ _), ?_⟩
  obtain ⟨message, hrefused⟩ | ⟨e, hfirst, hfilled⟩ := input.fill_cases value options s
  · have ho : o = _ := Act.bind_of_error hrefused
    rw [ho]
    exact ⟨rfl, Or.inl ⟨message, rfl, hrefused⟩⟩
  · have ho : o = _ := Act.bind_of_ok hfilled
    rw [ho]
    exact ⟨rfl, Or.inr ⟨e, hfirst, rfl⟩⟩

/-- The fills that a call has made. -/
def fills (o : Outcome Scene Locator) : List Mark := o.trace.filter Mark.isFill

/-- The clicks that a call has made. -/
def clicks (o : Outcome Scene Locator) : List Mark := o.trace.filter Mark.isClick

/-- What is promised of filling an element. -/
structure FilledOnce (l : Locator) (value : String) (options : Members) (s : Scene)
    (o : Outcome Scene Locator) : Prop where
  /-- There is one fill at most, with the text and the options that were given. -/
  once : fills o = [] ∨ ∃ name, fills o = [.element (.fill value options) name]
  /-- A call that returns has made one fill, on the locator that it returns. -/
  returned : ∀ input, o.result = .ok input → ∃ received,
    input.first? (ready l s).page = some received ∧
      fills o = [.element (.fill value options) received.name] ∧
      o.state = (input.fill value options (ready l s)).state
  /-- An element that takes text is not clicked. -/
  direct : ∀ e, l.first? s.page = some e → e.takesText = true →
    clicks o = [] ∧ ∀ input, o.result = .ok input → input = l
  /-- Any other one is clicked once before the fill, which goes to the first visible input. -/
  behindClick : ∀ e, l.first? s.page = some e → e.takesText = false → fills o ≠ [] →
    ∃ (e' received : Element) (n : Nat),
      o.trace = [.element .describe e.name, .element (.click []) e'.name, .descend l.label,
        .element (.fill value options) received.name] ∧
      IsFirstVisible (revealed l s.page) n received ∧
      ∀ input, o.result = .ok input → input = l.inputs.nth n
  /-- The call fails for want of an input just where the click brings none to light. -/
  unfound : (∃ f, o.result = .error f ∧ f.isNotFillable = true) ↔
    clicks o ≠ [] ∧ (l.click [] (described l s)).result = .ok () ∧
      ∀ e ∈ revealed l s.page, e.traits.visible = false
  /-- Then nothing has been filled. -/
  unfilled : (∃ f, o.result = .error f ∧ f.isNotFillable = true) → fills o = []
  /-- It fails in no other way, unless the page refuses a call or the description cannot be read. -/
  stopped : ∀ f, o.result = .error f → f.isNotFillable = false →
    Unread l s f ∨ (l.click [] (described l s)).result = .error f ∨
      ∃ input, IsChosen l s input ∧ (input.fill value options (ready l s)).result = .error f

/-- Where no input was chosen, none is filled. -/
theorem FilledOnce.of_failed {o : Outcome Scene Locator} {f : Failure}
    (hfailed : o.result = .error f) (hfills : fills o = [])
    (hclicks : ∀ e, l.first? s.page = some e → e.takesText = true → clicks o = [])
    (hkind : f.isNotFillable = true ↔ clicks o ≠ [] ∧
      (l.click [] (described l s)).result = .ok () ∧
        ∀ e ∈ revealed l s.page, e.traits.visible = false)
    (hstopped : f.isNotFillable = false →
      Unread l s f ∨ (l.click [] (described l s)).result = .error f) :
    FilledOnce l value options s o where
  once := Or.inl hfills
  returned input h := by
    rw [hfailed] at h
    cases h
  direct e hfirst htakes := by
    refine ⟨hclicks e hfirst htakes, fun input h => ?_⟩
    rw [hfailed] at h
    cases h
  behindClick _ _ _ hne := absurd hfills hne
  unfound := by
    rw [← hkind, hfailed]
    exact ⟨fun ⟨_, hf, hkind⟩ => by cases hf; exact hkind, fun hkind => ⟨f, rfl, hkind⟩⟩
  unfilled _ := hfills
  stopped f' h hother := by
    rw [hfailed] at h
    cases h
    exact (hstopped hother).imp_right Or.inl

/-- Where an input was chosen, it is filled, unless the page refuses. -/
theorem FilledOnce.of_chosen {first : Outcome Scene Locator} {input : Locator}
    (hready : first.state = ready l s) (hfills : fills first = [])
    (htakes : ∀ e, l.first? s.page = some e → e.takesText = true → clicks first = [] ∧ input = l)
    (hrefuses : ∀ e, l.first? s.page = some e → e.takesText = false →
      ∃ (e' received : Element) (n : Nat),
        first.trace = [.element .describe e.name, .element (.click []) e'.name, .descend l.label] ∧
        IsFirstVisible (revealed l s.page) n received ∧ input = l.inputs.nth n ∧
        input.first? first.state.page = some received)
    (hfound : clicks first ≠ [] → ∃ e ∈ revealed l s.page, e.traits.visible = true)
    (hchosen : IsChosen l s input) :
    FilledOnce l value options s
      ((Act.bind (input.fill value options) (fun _ => Act.pure input) first.state).after first) := by
  obtain ⟨htrace, hstate, hways⟩ := fill_chosen_cases input value options first.state
  generalize Act.bind (input.fill value options) (fun _ => Act.pure input) first.state = last
    at htrace hstate hways
  have hfilled : fills (last.after first) = last.trace := by
    unfold fills at hfills ⊢
    rw [Outcome.after, List.filter_append, hfills, List.nil_append, htrace]
    cases input.first? first.state.page <;> rfl
  have hclicked : clicks (last.after first) = clicks first := by
    unfold clicks
    rw [Outcome.after, List.filter_append, htrace]
    cases input.first? first.state.page <;> simp [Mark.isClick]
  have hnot : ¬ ∃ f, (last.after first).result = .error f ∧ f.isNotFillable = true := by
    rintro ⟨f, hf, hkind⟩
    rw [Outcome.after_result] at hf
    obtain ⟨message, hrefused, -⟩ | ⟨e, -, hok⟩ := hways
    · cases hrefused.symm.trans hf
      cases hkind
    · cases hok.symm.trans hf
  have hreturned : ∀ input', (last.after first).result = .ok input' → input' = input ∧
      ∃ e, input.first? first.state.page = some e := by
    intro input' h
    rw [Outcome.after_result] at h
    obtain ⟨message, hrefused, -⟩ | ⟨e, hfirst, hok⟩ := hways
    · cases hrefused.symm.trans h
    · cases hok.symm.trans h
      exact ⟨rfl, e, hfirst⟩
  refine ⟨?once, ?returned, ?direct, ?behindClick, ?unfound, fun h => absurd h hnot, ?stopped⟩
  case once =>
    rw [hfilled, htrace]
    cases input.first? first.state.page with
    | none => exact Or.inl rfl
    | some e => exact Or.inr ⟨e.name, rfl⟩
  case returned =>
    intro input' h
    obtain ⟨rfl, e, he⟩ := hreturned input' h
    rw [← hready, hfilled, htrace, he, Outcome.after_state, hstate]
    exact ⟨e, rfl, rfl, rfl⟩
  case direct =>
    intro e hfirst htake
    obtain ⟨hnone, rfl⟩ := htakes e hfirst htake
    exact ⟨hclicked.trans hnone, fun input' h => (hreturned input' h).1⟩
  case behindClick =>
    intro e hfirst hrefuse _
    obtain ⟨e', received, n, hmarks, hvisible, rfl, hreceived⟩ := hrefuses e hfirst hrefuse
    refine ⟨e', received, n, ?_, hvisible, fun input' h => (hreturned input' h).1⟩
    rw [Outcome.after, hmarks, htrace, hreceived]
    rfl
  case unfound =>
    refine iff_of_false hnot ?_
    rintro ⟨hne, -, hhidden⟩
    obtain ⟨e, he, hvisible⟩ := hfound (by rwa [hclicked] at hne)
    rw [hhidden e he] at hvisible
    cases hvisible
  case stopped =>
    intro f hf _
    rw [Outcome.after_result] at hf
    obtain ⟨message, hrefused, hfill⟩ | ⟨e, -, hok⟩ := hways
    · cases hrefused.symm.trans hf
      exact Or.inr (Or.inr ⟨input, hchosen, hready ▸ hfill⟩)
    · cases hok.symm.trans hf

/-- An element is filled at most once, and just once by a call that returns: the locator that it
returns is filled. An element that takes text is not clicked. Any other one is clicked once, without
options, and then the first of the inputs behind the click that is visible is filled; if none is, the
call fails for that and nothing is filled. -/
theorem fillOrReveal_fills_once (l : Locator) (value : String) (options : Members)
    (description : String) (s : Scene) :
    FilledOnce l value options s (fillOrReveal l value options description s) := by
  have hchoice := choice l description s
  change FilledOnce l value options s (Act.bind (chooseInput l description)
    (fun input => Act.bind (input.fill value options) fun _ => Act.pure input) s)
  generalize hchosen : chooseInput l description s = chosen at hchoice
  cases hchoice with
  | unread failed cause marks =>
    rw [Act.bind_of_error (by rw [hchosen, failed]), hchosen]
    have hclicks : chosen.trace.filter Mark.isClick = [] := by
      simpa using fun m hm => (marks m hm).1
    refine .of_failed rfl (by simpa [fills] using fun m hm => (marks m hm).2)
      (fun _ _ _ => hclicks) ?_ (fun _ => Or.inl cause)
    simp [cause.isNotFillable, clicks, hclicks]
  | unclicked first refuses failed kind click marks =>
    rw [Act.bind_of_error (by rw [hchosen, failed]), hchosen]
    refine .of_failed rfl (by simpa [fills] using marks)
      (fun e he htakes => absurd htakes (not_takes_of_refuses first refuses he)) ?_
      (fun _ => Or.inr click)
    simp [kind, click]
  | unfound first refuses kind click hidden =>
    rw [Act.bind_of_error (by rw [hchosen]), hchosen]
    refine .of_failed rfl rfl
      (fun e he htakes => absurd htakes (not_takes_of_refuses first refuses he)) ?_
      (fun hother => ?_)
    · simpa [kind, clicks, Mark.isClick, click] using hidden
    · rw [kind] at hother
      cases hother
  | itself first takes =>
    rw [Act.bind_of_ok (by rw [hchosen]), hchosen]
    refine .of_chosen (ready_of_takes first takes).symm rfl (fun _ _ _ => ⟨rfl, rfl⟩)
      (fun e he hrefuses => absurd takes (not_takes_of_refuses he hrefuses first))
      (fun hne => absurd rfl hne) ⟨_, first, Or.inl ⟨takes, rfl⟩⟩
  | found first refuses click visible =>
    rw [Act.bind_of_ok (by rw [hchosen]), hchosen]
    refine .of_chosen (ready_of_refuses first refuses).symm rfl
      (fun e he htakes => absurd htakes (not_takes_of_refuses first refuses he))
      (fun e he _ => ?_)
      (fun _ => ⟨_, List.mem_of_getElem? visible.1, visible.2.1⟩)
      ⟨_, first, Or.inr ⟨refuses, _, _, visible, rfl⟩⟩
    obtain rfl := Option.some.inj (first.symm.trans he)
    refine ⟨_, _, _, rfl, visible, rfl, ?_⟩
    rw [Locator.nth_first?]
    exact visible.1

/-- A page with a box that a click fills with a hidden input and a visible one. -/
def revealingBox : Scene :=
  let hidden := .mk { name := "token", tag := "input", visible := false } [] []
  let shown := inputNamed "city" "text"
  { page := { elements := [("#box", [.mk { name := "box" } []
    [("click", [.child "#box" 0 hidden, .child "#box" 0 shown])]])] } }

theorem fillOrReveal_fills_once_behind_hidden :
    let o := fillOrReveal (.all "#box") "Berlin" [] "" revealingBox
    ∃ received, o.result = .ok ((Locator.all "#box").inputs.nth 1) ∧
      fills o = [.element (.fill "Berlin" []) received.name] ∧
      IsFirstVisible (revealed (.all "#box") revealingBox.page) 1 received := by
  intro o
  have hreturned : o.result.toOption = some ((Locator.all "#box").inputs.nth 1) := by
    decide +kernel
  have hok := toOption_eq_some.mp hreturned
  have hpromised := fillOrReveal_fills_once (.all "#box") "Berlin" [] "" revealingBox
  obtain ⟨received, -, hfills, -⟩ := hpromised.returned _ hok
  obtain ⟨e, hfirst, hrefuses⟩ : ∃ e, (Locator.all "#box").first? revealingBox.page = some e ∧
      e.takesText = false := ⟨_, rfl, by decide +kernel⟩
  obtain ⟨_, received', n, htrace, hvisible, hwhich⟩ :=
    hpromised.behindClick e hfirst hrefuses (by rw [hfills]; simp)
  obtain rfl : 1 = n := Int.ofNat_inj.mp (Locator.nth.inj (hwhich _ hok)).2
  refine ⟨received', hok, ?_, hvisible⟩
  change o.trace.filter Mark.isFill = _
  rw [htrace]
  rfl

end Fill
end Walkthrough
