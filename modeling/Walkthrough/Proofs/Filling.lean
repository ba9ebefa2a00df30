import Walkthrough.Engine.Fill
import Walkthrough.Proofs.Act
import Walkthrough.Proofs.Context

/-!
Which element takes the text when one is filled: the element itself if it takes text, and otherwise
the first visible input that a click on it reveals. Inputs are looked for by their tags and attributes,
so that one which takes no text can be the first.
-/
namespace Walkthrough

namespace Fill

variable {info : Members} {tag type role : String} {disabled readOnly editable : Bool}

theorem lowered_str (s : String) : lowered (.str s) = .ok (.str (Text.lower s)) := by
  unfold lowered
  split
  · rfl
  · rename_i h
    obtain rfl : s = "" := by simpa [Json.truthy] using h
    rfl

theorem normalized_of_texts (htag : get info "tag" = .str tag) (htype : get info "type" = .str type)
    (hrole : get info "role" = .str role) : normalized info = .ok
      (((info.put "tag" (.str (Text.lower tag))).put "type" (.str (Text.lower type))).put "role"
        (.str (Text.lower role))) := by
  have hother : ∀ {ms : Members} {key other : String} {v : Json}, other ≠ key →
      get (ms.put key v) other = get ms other := by
    intro ms key other v hne
    unfold get
    rw [Members.get?_put, if_neg hne.symm]
  unfold normalized
  rw [htag, lowered_str]
  simp only [bind, Except.bind]
  rw [hother (by decide), htype, lowered_str]
  simp only
  rw [hother (by decide), hother (by decide), hrole, lowered_str]
  rfl

theorem isFillable_of_texts (hinfo : info.isEmpty = false) (htag : get info "tag" = .str tag)
    (htype : get info "type" = .str type) (hrole : get info "role" = .str role)
    (hdisabled : get info "disabled" = .bool disabled)
    (hreadOnly : get info "readOnly" = .bool readOnly)
    (heditable : get info "contentEditable" = .bool editable) :
    isFillable info = .ok (!disabled && !readOnly && (editable || textRoles.contains role ||
      tag == "textarea" || (tag == "input" && textInputTypes.contains type))) := by
  unfold isFillable
  rw [hinfo, hdisabled, hreadOnly, heditable, hrole, htag, htype]
  cases disabled <;> cases readOnly <;> cases editable <;> try rfl
  -- An element that is not blocked and no editable region goes by its role, its tag and its type.
  have htyped : (if (Json.str type).truthy then isAmong (.str type) textInputTypes else pure true) =
      .ok (textInputTypes.contains type) := by
    split
    · rfl
    · rename_i hempty
      obtain rfl : type = "" := by simpa [Json.truthy] using hempty
      rfl
  simp only [htyped]
  by_cases hrole : role ∈ textRoles <;> by_cases harea : tag = "textarea" <;>
    by_cases hinput : tag = "input" <;>
    simp [Json.truthy, Json.isText, Json.asStr?, isAmong, hrole, harea, hinput, bind, Except.bind,
      pure, Except.pure]

end Fill

namespace Element

variable {e : Element}

/-- The facts of the element that a step reads. -/
def facts (e : Element) : Except Failure Members :=
  match e.description with
  | .obj info => Fill.normalized info
  | _ => .ok []

/-- Whether the element takes text, by its own description. -/
def takesText (e : Element) : Bool := (e.facts >>= Fill.isFillable).toOption.getD false

theorem takesText_of_facts {info : Members} (h : e.facts = .ok info) :
    e.takesText = (Fill.isFillable info).toOption.getD false := by
  unfold takesText
  rw [h]
  rfl

/-- The role that the element is given. -/
def role (e : Element) : String := ((e.attribute? "role").bind Json.asStr?).getD ""

/-- An element that is described by what it is, and whose role is a text. -/
structure Plain (e : Element) : Prop where
  info : e.traits.info = none
  role : ∀ v, e.attribute? "role" = some v → ∃ s, v = .str s

/-- An element into which no text can go although it looks like an input: it is blocked, or it is an
input of another type and nothing else makes up for that. -/
def RefusesText (e : Element) : Prop :=
  e.traits.disabled = true ∨ e.traits.readOnly = true ∨
    (e.traits.tag = "input" ∧ Text.lower e.traits.type ∉ Fill.textInputTypes ∧
      e.hasAttribute "contenteditable" "true" = false ∧ Text.lower e.role ∉ Fill.textRoles)

/-- The description of a plain element, as far as it matters for what the element takes. -/
theorem Plain.facts (h : e.Plain) : ∃ info, e.facts = .ok info ∧ info.isEmpty = false ∧
    Fill.get info "tag" = .str (Text.lower e.traits.tag) ∧
    Fill.get info "type" = .str (Text.lower e.traits.type) ∧
    Fill.get info "role" = .str (Text.lower e.role) ∧
    Fill.get info "disabled" = .bool e.traits.disabled ∧
    Fill.get info "readOnly" = .bool e.traits.readOnly ∧
    Fill.get info "contentEditable" = .bool (e.hasAttribute "contenteditable" "true") := by
  have hrole : (e.attribute? "role").getD (.str "") = .str e.role := by
    unfold Element.role
    cases hr : e.attribute? "role" with
    | none => rfl
    | some v =>
      obtain ⟨s, rfl⟩ := h.role v hr
      rfl
  unfold Element.facts description
  rw [h.info]
  exact ⟨_, Fill.normalized_of_texts rfl rfl hrole, rfl, rfl, rfl, rfl, rfl, rfl, rfl⟩

/-- Which of the parts of its description let an element take text. -/
theorem Plain.takesText_iff (h : e.Plain) : e.takesText = true ↔
    e.traits.disabled = false ∧ e.traits.readOnly = false ∧
      (e.hasAttribute "contenteditable" "true" = true ∨ Text.lower e.role ∈ Fill.textRoles ∨
        Text.lower e.traits.tag = "textarea" ∨
          (Text.lower e.traits.tag = "input" ∧ Text.lower e.traits.type ∈ Fill.textInputTypes)) := by
  obtain ⟨info, hfacts, hinfo, htag, htype, hrole, hdisabled, hreadOnly, heditable⟩ := h.facts
  have hfillable := Fill.isFillable_of_texts hinfo htag htype hrole hdisabled hreadOnly heditable
  rw [takesText_of_facts hfacts, hfillable]
  simp [Except.toOption, and_assoc, or_assoc]

theorem role_of_hasAttribute {s : String} (h : e.hasAttribute "role" s = true) : e.role = s := by
  unfold hasAttribute at h
  unfold role
  split at h
  · rename_i r hr
    rw [hr]
    exact beq_iff_eq.mp h
  · cases h

/-- An element that looks like an input takes text unless it refuses it. -/
theorem Plain.takesText_iff_of_looksLikeInput (h : e.Plain) (hlook : e.looksLikeInput = true) :
    e.takesText = true ↔ ¬ e.RefusesText := by
  have hinput : e.traits.tag = "input" → Text.lower e.traits.tag = "input" := by
    intro htag
    rw [htag]
    decide +kernel
  have harea : e.traits.tag = "textarea" → Text.lower e.traits.tag = "textarea" := by
    intro htag
    rw [htag]
    decide +kernel
  have hbox : e.hasAttribute "role" "textbox" = true → Text.lower e.role ∈ Fill.textRoles := by
    intro hrole
    rw [role_of_hasAttribute hrole]
    decide +kernel
  simp only [looksLikeInput, Bool.or_eq_true, beq_iff_eq] at hlook
  rw [h.takesText_iff, RefusesText, not_or, not_or, Bool.not_eq_true, Bool.not_eq_true]
  refine and_congr_right' (and_congr_right' ⟨?_, fun hnot => ?_⟩)
  · rintro (heditable | hrole | harea' | ⟨-, htype⟩) ⟨htag, hother, hfixed, hnone⟩
    · rw [heditable] at hfixed
      cases hfixed
    · exact hnone hrole
    · rw [hinput htag] at harea'
      exact absurd harea' (by decide)
    · exact hother htype
  · obtain ((htag | htag) | heditable) | hrole := hlook
    · by_cases heditable : e.hasAttribute "contenteditable" "true" = true
      · exact Or.inl heditable
      by_cases hrole : Text.lower e.role ∈ Fill.textRoles
      · exact Or.inr (Or.inl hrole)
      by_cases htype : Text.lower e.traits.type ∈ Fill.textInputTypes
      · exact Or.inr (Or.inr (Or.inr ⟨hinput htag, htype⟩))
      · exact absurd ⟨htag, htype, eq_false_of_ne_true heditable, hrole⟩ hnot
    · exact Or.inr (Or.inr (Or.inl (harea htag)))
    · exact Or.inl heditable
    · exact Or.inr (Or.inl (hbox hrole))

end Element

/-- The element that is filled, and with which text. -/
def Mark.filled? : Mark → Option (String × String)
  | .element (.fill value _) name => some (name, value)
  | _ => none

theorem Mark.exists_of_filled? {trace : List Mark} {name value : String}
    (h : (name, value) ∈ trace.filterMap Mark.filled?) :
    ∃ os, Mark.element (.fill value os) name ∈ trace := by
  obtain ⟨m, hm, hfilled⟩ := List.mem_filterMap.mp h
  unfold Mark.filled? at hfilled
  split at hfilled
  · cases hfilled
    exact ⟨_, hm⟩
  · cases hfilled

namespace Locator

variable {l : Locator} {c : ElementCall} {s : Scene} {e : Element}

/-- The page after a call on the first element, with the changes that the call brings about. -/
def afterCall (l : Locator) (c : ElementCall) (p : Page) : Page :=
  match l.first? p with
  | some e => p.mutateAll (e.reactionsTo c.name)
  | none => p

theorem target_eq (l : Locator) (s : Scene) : l.target s = match l.first? s.page with
    | some e => ⟨.ok e, s, [], []⟩
    | none => ⟨.error (.page ("no element for " ++ l.label)), s, [], []⟩ := by
  have hget : (Act.get : Play Scene) s = ⟨.ok s, s, [], []⟩ := rfl
  unfold target
  rw [Act.bind_eq, Act.bind_of_silent hget]
  cases l.first? s.page <;> rfl

theorem call_of_none (h : l.first? s.page = none) :
    l.call c s = ⟨.error (.page ("no element for " ++ l.label)), s, [], []⟩ := by
  have htarget := target_eq l s
  rw [h] at htarget
  unfold call
  rw [Act.bind_eq, Act.bind_of_error (by rw [htarget]), htarget]

/-- What a call comes to where the first element is there. -/
theorem call_of_some (h : l.first? s.page = some e) :
    l.call c s = match namedValue? e.traits.errors c.name with
      | some message => ⟨.error (.page message), s, [.element c e.name], []⟩
      | none => ⟨.ok e, { s with page := l.afterCall c s.page }, [.element c e.name], []⟩ := by
  have htarget := target_eq l s
  rw [h] at htarget
  unfold call afterCall
  rw [Act.bind_eq, Act.bind_of_silent htarget, h]
  cases namedValue? e.traits.errors c.name <;> rfl

theorem call_ok (h : (l.call c s).result = .ok e) :
    l.first? s.page = some e ∧ (l.call c s).state = { s with page := l.afterCall c s.page } := by
  cases hfirst : l.first? s.page with
  | none =>
    rw [call_of_none hfirst] at h
    cases h
  | some e' =>
    rw [call_of_some hfirst] at h ⊢
    split at h <;> cases h
    exact ⟨rfl, rfl⟩

/-- A call leaves a mark with the name of the first element. -/
theorem call_trace (l : Locator) (c : ElementCall) (s : Scene) :
    (l.call c s).trace = ((l.first? s.page).map (Mark.element c ·.name)).toList := by
  cases h : l.first? s.page with
  | none => rw [call_of_none h]; rfl
  | some e =>
    rw [call_of_some h]
    split <;> rfl

theorem nth_first? (base : Locator) (n : Nat) (p : Page) :
    (base.nth n).first? p = (base.found p)[n]? := by
  have hbounds : ¬ (n : Int) < 0 ∧ ¬ (n : Int) + 1 < 0 := by omega
  simp [first?, found, slice, hbounds]

theorem leaves_call {Q : Mark → Prop} (h : ∀ name, Q (.element c name)) :
    Act.Leaves Q (l.call c) := by
  intro s m hm
  rw [call_trace, Option.mem_toList, Option.map_eq_some_iff] at hm
  obtain ⟨e, -, rfl⟩ := hm
  exact h e.name

/-- What follows a call that is not refused goes on with the first element and the changed page. -/
theorem bind_call_ok {α : Type} {f : Element → Play α} {a : α}
    (h : (Act.bind (l.call c) f s).result = .ok a) : ∃ e, l.first? s.page = some e ∧
      Act.bind (l.call c) f s = (f e { s with page := l.afterCall c s.page }).after (l.call c s) := by
  obtain ⟨e, he, -⟩ := Act.ok_of_bind h
  obtain ⟨hfirst, hstate⟩ := call_ok he
  exact ⟨e, hfirst, by rw [Act.bind_of_ok he, hstate]⟩

theorem bind_click_ok {β : Type} {f : Unit → Play β} {b : β} {os : Members}
    (h : (Act.bind (l.click os) f s).result = .ok b) : Act.bind (l.click os) f s =
      (f () { s with page := l.afterCall (.click os) s.page }).after (l.call (.click os) s) := by
  unfold click at h ⊢
  simp only [Act.bind_eq, Act.bind_assoc, Act.pure_eq, Act.pure_bind] at h ⊢
  obtain ⟨e, -, hcalled⟩ := bind_call_ok h
  exact hcalled

theorem bind_fill_trace {α : Type} (l : Locator) (v : String) (os : Members) (a : α) (s : Scene) :
    (Act.bind (l.fill v os) (fun _ => Act.pure a) s).trace = (l.call (.fill v os) s).trace := by
  unfold fill
  simp only [Act.bind_eq, Act.bind_assoc]
  cases h : (l.call (.fill v os) s).result with
  | error e => rw [Act.bind_of_error h]
  | ok e =>
    rw [Act.bind_of_ok h]
    exact List.append_nil _

theorem afterCall_of_quiet {p : Page} (h : l.first? p = some e)
    (hquiet : e.reactionsTo c.name = []) : l.afterCall c p = p := by
  unfold afterCall
  rw [h]
  change p.mutateAll (e.reactionsTo c.name) = p
  rw [hquiet]
  rfl

theorem looksLikeInput_of_mem {base : Locator} {p : Page} (h : e ∈ base.inputs.found p) :
    e.looksLikeInput = true := by
  obtain ⟨_, -, he⟩ := List.mem_flatMap.mp h
  exact (List.mem_filter.mp he).2

end Locator

namespace Fill

variable {l input : Locator} {s : Scene} {description value : String} {options os : Members}

theorem describe_eq (l : Locator) :
    describe l = Act.bind (l.call .describe) fun e => Act.ofExcept e.facts := by
  unfold describe Locator.describe
  simp only [Act.bind_eq, Act.pure_eq, Act.bind_assoc, Act.pure_bind]
  congr 1
  funext e
  unfold Element.facts
  cases e.description <;> rfl

theorem bind_describe_ok {β : Type} {f : Members → Play β} {b : β}
    (h : (Act.bind (describe l) f s).result = .ok b) :
    ∃ e info, l.first? s.page = some e ∧ e.facts = .ok info ∧ Act.bind (describe l) f s =
      (f info { s with page := l.afterCall .describe s.page }).after (l.call .describe s) := by
  rw [describe_eq, Act.bind_assoc] at h ⊢
  obtain ⟨e, hfirst, hcalled⟩ := Locator.bind_call_ok h
  rw [hcalled] at h ⊢
  obtain ⟨info, hinfo, hread⟩ := Act.bind_ofExcept_ok h
  exact ⟨e, info, hfirst, hinfo, by rw [hread]⟩

theorem firstVisible_eq (candidates : Locator) (ns : List Nat) (s : Scene) :
    firstVisible candidates ns s =
      ⟨.ok ((ns.find? fun n => ((candidates.found s.page)[n]?).any (·.traits.visible)).map
        fun n : Nat => candidates.nth n), s, [], []⟩ := by
  induction ns with
  | nil => rfl
  | cons n ns ih =>
    have hvisible : (candidates.nth n).isVisible s =
        ⟨.ok ((candidates.found s.page)[n]?.any (·.traits.visible)), s, [], []⟩ := by
      rw [← Locator.nth_first?]
      rfl
    unfold firstVisible
    simp only [Act.bind_eq]
    rw [Act.bind_of_silent hvisible, List.find?_cons]
    split
    · rename_i h
      rw [h]
      rfl
    · rename_i h
      rw [eq_false_of_ne_true h, ih]

theorem findInput_eq (l : Locator) (s : Scene) : findInput l s =
    ⟨.ok (((List.range (l.inputs.found s.page).length).find? fun n =>
      (l.inputs.found s.page)[n]?.any (·.traits.visible)).map fun n : Nat => l.inputs.nth n), s,
      [.descend l.label], []⟩ := by
  have hdescend : l.descend s = ⟨.ok l.inputs, s, [.descend l.label], []⟩ := rfl
  have hcount : l.inputs.count s = ⟨.ok (l.inputs.found s.page).length, s, [], []⟩ := rfl
  unfold findInput
  rw [Act.bind_eq, Act.bind_of_ok (by rw [hdescend]), hdescend]
  simp only [Act.bind_eq]
  rw [Act.bind_of_silent hcount, firstVisible_eq]
  rfl

/-- What is found below an element is the first visible input there. -/
theorem findInput_ok (h : (findInput l s).result = .ok (some input)) :
    ∃ e, (l.inputs.found s.page).find? (·.traits.visible) = some e ∧
      input.first? s.page = some e := by
  rw [findInput_eq] at h
  obtain ⟨n, hn, rfl⟩ := Option.map_eq_some_iff.mp (Except.ok.inj h)
  obtain ⟨hvisible, -, hbefore⟩ := List.find?_range_eq_some.mp hn
  obtain ⟨e, he, hvisible⟩ := (Option.any_eq_true _ _).mp hvisible
  refine ⟨e, ?_, by rw [Locator.nth_first?, he]⟩
  obtain ⟨hlength, hget⟩ := List.getElem?_eq_some_iff.mp he
  refine List.find?_eq_some_iff_getElem.mpr ⟨hvisible, n, hlength, hget, fun m hm => ?_⟩
  have hinvisible := hbefore m hm
  rwa [List.getElem?_eq_getElem (Nat.lt_trans hm hlength), Option.any_some] at hinvisible

/-- The inputs below an element once it has been described and clicked. -/
def revealed (l : Locator) (p : Page) : List Element :=
  l.inputs.found (l.afterCall (.click []) (l.afterCall .describe p))

/-- An element is chosen itself if it takes text, and else the first visible input that a click on it
reveals. -/
theorem chooseInput_ok (h : (chooseInput l description s).result = .ok input) :
    ∃ e, l.first? s.page = some e ∧
      ((e.takesText = true ∧ input = l ∧
          (chooseInput l description s).state.page = l.afterCall .describe s.page) ∨
        (e.takesText = false ∧ ∃ e', (revealed l s.page).find? (·.traits.visible) = some e' ∧
          input.first? (chooseInput l description s).state.page = some e')) := by
  unfold chooseInput at h ⊢
  simp only [Act.bind_eq] at h ⊢
  obtain ⟨e, info, hfirst, hfacts, hdescribed⟩ := bind_describe_ok h
  rw [hdescribed, Outcome.after_result] at h
  rw [hdescribed, Outcome.after_state]
  obtain ⟨fillable, hfillable, hread⟩ := Act.bind_ofExcept_ok h
  rw [hread] at h ⊢
  have htakes : e.takesText = fillable := by
    rw [Element.takesText_of_facts hfacts, hfillable]
    rfl
  refine ⟨e, hfirst, ?_⟩
  cases fillable with
  | true =>
    cases h
    exact Or.inl ⟨htakes, rfl, rfl⟩
  | false =>
    refine Or.inr ⟨htakes, ?_⟩
    simp only [Bool.false_eq_true, if_false] at h ⊢
    obtain ⟨text, -, hread⟩ := Act.bind_ofExcept_ok h
    rw [hread] at h ⊢
    have hclicked := Locator.bind_click_ok h
    rw [hclicked, Outcome.after_result] at h
    rw [hclicked, Outcome.after_state]
    obtain ⟨found?, hfound, hlast⟩ := Act.ok_of_bind h
    rw [Act.bind_of_ok hfound, Outcome.after_state]
    cases found? with
    | none => cases hlast
    | some found =>
      cases hlast
      obtain ⟨e', he', hfirst'⟩ := findInput_ok hfound
      rw [findInput_eq]
      exact ⟨e', he', hfirst'⟩

/-- Choosing an element leaves the marks of describing it, of clicking it and of looking below it. -/
theorem leaves_chooseInput {Q : Mark → Prop} (hdescribe : ∀ name, Q (.element .describe name))
    (hclick : ∀ name, Q (.element (.click []) name)) (hdescend : Q (.descend l.label)) :
    Act.Leaves Q (chooseInput l description) := by
  have hP := (Act.closed_leaves (σ := Scene) Q).closedFor
  have hread : ∀ {α : Type} (r : Except Failure α), Act.Leaves Q (Act.ofExcept r : Play α) :=
    fun r => hP.ofExcept fun _ _ => trivial
  have hfind : Act.Leaves Q (findInput l) := by
    intro s m hm
    rw [findInput_eq] at hm
    rwa [List.mem_singleton.mp hm]
  unfold chooseInput
  simp only [Act.bind_eq, describe_eq]
  refine hP.bind (hP.bind (Locator.leaves_call hdescribe) fun _ => hread _) fun info => ?_
  refine hP.bind (hread _) fun fillable => ?_
  split
  · exact hP.pure l
  · refine hP.bind (hread _) fun _ => hP.bind (hP.bind (Locator.leaves_call hclick) fun _ =>
      hP.pure ()) fun _ => hP.bind hfind fun found? => ?_
    cases found? with
    | some found => exact hP.pure found
    | none => exact hP.fail trivial

/-- The first of those with two properties is the first one with one of them, just if it has the
other. -/
theorem find?_and_iff {α : Type} {xs : List α} {p q : α → Bool} {a : α} (h : xs.find? p = some a) :
    xs.find? (fun x => p x && q x) = some a ↔ q a = true := by
  constructor
  · intro hboth
    have hpq := List.find?_some hboth
    exact (Bool.and_eq_true_iff.mp hpq).2
  · intro hq
    obtain ⟨hp, n, hn, hget, hbefore⟩ := List.find?_eq_some_iff_getElem.mp h
    refine List.find?_eq_some_iff_getElem.mpr ⟨by rw [hp, hq]; rfl, n, hn, hget, fun m hm => ?_⟩
    rw [Bool.not_and, hbefore m hm]
    rfl

/-- A text goes to the element that is to be filled if that takes text, and else to the first visible
one of the inputs that a click reveals. That one takes text, and so is the first visible one that does,
just if it does not refuse it. -/
theorem fillOrReveal_fills {v name : String}
    (h : Mark.element (.fill v os) name ∈ (fillOrReveal l value options description s).trace) :
    v = value ∧ os = options ∧
      ∃ described received, l.first? s.page = some described ∧ received.name = name ∧
        ((described.takesText = true ∧ l.first? (l.afterCall .describe s.page) = some received ∧
            (described.reactionsTo ElementCall.describe.name = [] → received = described)) ∨
          (described.takesText = false ∧
            (revealed l s.page).find? (·.traits.visible) = some received ∧
            ((revealed l s.page).find? (fun e => e.traits.visible && e.takesText) = some received ↔
              received.takesText = true) ∧
            (received.Plain → (received.takesText = true ↔ ¬ received.RefusesText)))) := by
  have hchosen : Act.Leaves (fun m => m ≠ .element (.fill v os) name) (chooseInput l description) :=
    leaves_chooseInput (fun _ => by simp) (fun _ => by simp) (by simp)
  unfold fillOrReveal at h
  simp only [Act.bind_eq, Act.pure_eq] at h
  cases hresult : (chooseInput l description s).result with
  | error e =>
    rw [Act.bind_of_error hresult] at h
    exact (hchosen s _ h rfl).elim
  | ok input =>
    rw [Act.bind_of_ok hresult] at h
    obtain hbefore | hfilled := List.mem_append.mp h
    · exact (hchosen s _ hbefore rfl).elim
    rw [Locator.bind_fill_trace, Locator.call_trace, Option.mem_toList,
      Option.map_eq_some_iff] at hfilled
    obtain ⟨received, hreceived, hmark⟩ := hfilled
    obtain ⟨⟨rfl, rfl⟩, rfl⟩ : (value = v ∧ options = os) ∧ received.name = name := by
      simpa using hmark
    obtain ⟨described, hdescribed, hways⟩ := chooseInput_ok hresult
    refine ⟨rfl, rfl, described, received, hdescribed, rfl, ?_⟩
    obtain ⟨htakes, rfl, hpage⟩ | ⟨htakes, e', hfind, hfirst⟩ := hways
    · rw [hpage] at hreceived
      refine Or.inl ⟨htakes, hreceived, fun hquiet => ?_⟩
      rw [Locator.afterCall_of_quiet hdescribed hquiet, hdescribed] at hreceived
      exact (Option.some.inj hreceived).symm
    · obtain rfl : e' = received := Option.some.inj (hfirst.symm.trans hreceived)
      have hlook : e'.looksLikeInput = true :=
        Locator.looksLikeInput_of_mem (List.mem_of_find?_eq_some hfind)
      exact Or.inr ⟨htakes, hfind, find?_and_iff hfind,
        fun hplain => hplain.takesText_iff_of_looksLikeInput hlook⟩

/-- A page with a box that holds some elements. -/
def boxed (children : List Element) : Scene :=
  { page := { elements := [("#box", [.mk { name := "box" } children []])] } }

/-- An input of a type. -/
def inputNamed (name type : String) : Element := .mk { name, tag := "input", type } [] []

theorem fillOrReveal_fills_lone_input :
    let s := boxed [inputNamed "city" "text"]
    ∃ os received, Mark.element (.fill "Berlin" os) received.name ∈
        (fillOrReveal (.all "#box") "Berlin" [] "" s).trace ∧
      (revealed (.all "#box") s.page).find? (fun e => e.traits.visible && e.takesText) =
        some received ∧ ¬ received.RefusesText := by
  intro s
  have hfilled : ("city", "Berlin") ∈
      (fillOrReveal (.all "#box") "Berlin" [] "" s).trace.filterMap Mark.filled? := by
    decide +kernel
  obtain ⟨os, h⟩ := Mark.exists_of_filled? hfilled
  obtain ⟨-, -, described, received, hdescribed, -, hways⟩ := fillOrReveal_fills h
  obtain rfl : .mk { name := "box" } [inputNamed "city" "text"] [] = described :=
    Option.some.inj hdescribed
  obtain ⟨htakes, -⟩ | ⟨-, hfind, hfirst, hplain⟩ := hways
  · exact absurd htakes (by decide +kernel)
  obtain rfl : inputNamed "city" "text" = received := Option.some.inj hfind
  have htakes : (inputNamed "city" "text").takesText = true := by decide +kernel
  have hcity : (inputNamed "city" "text").Plain := ⟨rfl, fun _ hrole => by cases hrole⟩
  exact ⟨os, inputNamed "city" "text", h, hfirst.mpr htakes, (hplain hcity).mp htakes⟩

/-- A box to be ticked that stands in front of an input for text is filled in its place. -/
theorem fillOrReveal_fills_tick_box :
    let s := boxed [inputNamed "agree" "checkbox", inputNamed "city" "text"]
    (fillOrReveal (.all "#box") "Berlin" [] "" s).trace.filterMap Mark.filled? =
        [("agree", "Berlin")] ∧
      ((revealed (.all "#box") s.page).filter (·.traits.visible)).map
        (fun e => (e.name, e.takesText)) = [("agree", false), ("city", true)] := by
  decide +kernel

end Fill
end Walkthrough
