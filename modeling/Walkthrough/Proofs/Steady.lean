import Walkthrough.Engine.Step
import Walkthrough.Proofs.Query
import Walkthrough.Proofs.Result

/-!
What steps and checks do on a page is built of a few single acts, during which no time passes unless a
step waits: a property of these is one of all that is built of them. A step or a check fails because it
is refused, for something that it lacks, or else midway, for what comes up on the page.
-/
namespace Walkthrough

variable {α β : Type}

/-- The failures of a value that is used for what its kind is not made. -/
def Failure.IsMisuse : Failure → Prop
  | .misuse _ | .noOperation _ _ => True
  | _ => False

namespace Fill

variable {info : Members} {v : Json} {e : Failure}

theorem isMisuse_of_isAmong {texts : List String} (h : isAmong v texts = .error e) :
    e.IsMisuse := by
  unfold isAmong at h
  split at h <;> cases h <;> trivial

theorem isMisuse_of_isFillable (h : isFillable info = .error e) : e.IsMisuse := by
  unfold isFillable at h
  split at h
  · cases h
  split at h
  · cases h
  split at h
  · cases h
  obtain h | ⟨role, -, h⟩ := except_bind_eq_error.mp h
  · exact isMisuse_of_isAmong h
  split at h
  · cases h
  split at h
  · cases h
  split at h
  · dsimp only at h
    split at h
    · exact isMisuse_of_isAmong h
    · cases h
  · cases h

theorem isMisuse_of_identifierText (h : identifierText info = .error e) : e.IsMisuse := by
  unfold identifierText at h
  dsimp only at h
  split at h
  · split at h <;> cases h
    trivial
  · cases h

theorem isMisuse_of_summary (h : summary info = .error e) : e.IsMisuse := by
  obtain h | ⟨name, -, h⟩ := except_bind_eq_error.mp h
  · exact isMisuse_of_identifierText h
  dsimp only at h
  split at h
  · split at h <;> cases h
    trivial
  · cases h

theorem isMisuse_of_lowered (h : lowered v = .error e) : e.IsMisuse := by
  unfold lowered at h
  split at h
  · split at h <;> cases h
    trivial
  · cases h

theorem isMisuse_of_normalized (h : normalized info = .error e) : e.IsMisuse := by
  obtain h | ⟨_, -, h⟩ := except_bind_eq_error.mp h
  · exact isMisuse_of_lowered h
  obtain h | ⟨_, -, h⟩ := except_bind_eq_error.mp h
  · exact isMisuse_of_lowered h
  obtain h | ⟨_, -, h⟩ := except_bind_eq_error.mp h
  · exact isMisuse_of_lowered h
  · cases h

end Fill

theorem Check.isMisuse_of_scope {c : Check} {outer : Option Query} {ctx : Context} {e : Failure}
    (h : c.scope outer ctx = .error e) : e.IsMisuse := by
  unfold scope at h
  dsimp only at h
  split at h
  · cases h
  · split at h
    · cases h
    · split at h
      · have hindex := except_map_eq_error.mp h
        unfold contextIndex at hindex
        split at hindex <;> cases hindex
        trivial
      · cases h

/-- The failures that come up midway: the page refuses or is not as expected, a value is used for what
it is not made, or an element takes no text. -/
def Failure.IsMidway : Failure → Prop
  | .page _ | .assertion _ | .misuse _ | .noOperation _ _ => True
  | .engine e => e.fault = .notFillable ∨ e.fault = .checkFailed
  | _ => False

theorem Failure.IsMisuse.isMidway {e : Failure} (h : e.IsMisuse) : e.IsMidway := by
  unfold IsMisuse at h
  split at h <;> trivial

/-- What a step needs is not there or cannot be read: an element, an address, files or a plugin. -/
inductive Step.Refused (engine : Engine) (s : Step) : Option Locator → Failure → Prop
  | element (needs : s.needsElement = true) : Refused engine s none s.missingElement
  | address {path : String} {element : Option Locator} {e : Failure}
      (action : s.action = .navigate path) (unread : engine.settings.targetUrl path = .error e) :
      Refused engine s element e
  | files {u : Upload} {l : Locator} {e : Failure} (action : s.action = .upload u)
      (missing : u.require engine.environment engine.settings.uploadBaseDir s.title = .error e) :
      Refused engine s (some l) e
  | plugin {name : String} {data : Json} {element : Option Locator} {e : Failure}
      (action : s.action = .custom name data)
      (unknown : engine.plugins.action (some name) = .error e) : Refused engine s element e

/-- What a check needs is not there: a field, a plugin or an element. -/
inductive Check.Refused (engine : Engine) (c : Check) (outer : Option Query) (ctx : Context) :
    Failure → Prop
  | field {m : Companion} (known : c.kind.isKnown = true) (lacks : c.missing? = some m) :
      Refused engine c outer ctx (c.missingField m)
  | plugin {e : Failure} (kind : c.kind = .custom)
      (unknown : engine.plugins.check c.customName = .error e) : Refused engine c outer ctx e
  | element (known : c.kind.isKnown = true) (complete : c.missing? = none)
      (kind : c.kind ≠ .custom) (onElement : c.kind.targetsPage = false)
      (scope : c.scope outer ctx = .ok none) : Refused engine c outer ctx c.noElement

/-- The call on the browser that left a mark. -/
def Mark.browserCall? : Mark → Option BrowserCall
  | browser c => some c
  | _ => none

/-- How long the page was asked to wait by the call that left a mark. -/
def Mark.wait? : Mark → Option Nat
  | page (.wait ms) => some ms
  | _ => none

/-- A property that everything has which is built of single acts that have it, none of them a wait, as
long as it fails only in the ways that `E` allows; these are at least all failures midway. -/
structure Play.Steady (E : Failure → Prop) (P : ∀ {α : Type}, Play α → Prop) : Prop
    extends Act.ClosedFor E P where
  midway : ∀ e : Failure, e.IsMidway → E e
  mark : ∀ m : Mark, m.browserCall? = none → m.wait? = none → P (Act.mark m)
  change : ∀ f, P (modifyPage f)
  look : ∀ {α : Type} {f : Scene → Play α}, (∀ s clock, f { s with clock } = f s) →
    (∀ s, P (f s)) → P (Act.bind Act.get f)

/-- The query asks in a way that is known, or else it may fail for that. -/
def Query.Asks (E : Failure → Prop) (q : Query) : Prop :=
  (∃ k : SelectorKind, q.kind = k.name) ∨
    ∀ message details, E (Failure.engineError .unsupportedSelector message details)

/-- The query of a check is its own one, or that of its step with another index. -/
theorem Check.asks_scope {E : Failure → Prop} {c : Check} {outer q : Option Query}
    {ctx : Context} (h : c.scope outer ctx = .ok q) (houter : ∀ x ∈ outer, Query.Asks E x) :
    ∀ x ∈ q, Query.Asks E x := by
  -- Whatever index it is given, a query asks in the same way.
  have hindex : ∀ {x : Query}, x.Asks E → ∀ index, (x.withIndex index).Asks E := fun hx _ => hx
  unfold scope at h
  dsimp only at h
  split at h
  · cases h
    simp
  · rename_i b hb
    have hasks : b.Asks E := by
      split at hb
      · cases hb
        exact Or.inl ⟨c.selectorKind, rfl⟩
      · exact houter b hb
    split at h
    · cases h
      rintro x ⟨⟩
      exact hindex hasks _
    · split at h
      · obtain ⟨n, -, rfl⟩ := except_map_eq_ok.mp h
        rintro x ⟨⟩
        exact hindex hasks _
      · cases h
        rintro x ⟨⟩
        exact hasks

section Steady

variable {E : Failure → Prop} {P : ∀ {α : Type}, Play α → Prop} (hP : Play.Steady E P)
include hP

theorem Play.Steady.ofMisuse {r : Except Failure α} (hr : ∀ e, r = .error e → e.IsMisuse) :
    P (Act.ofExcept r) := hP.ofExcept fun e he => hP.midway e (hr e he).isMidway

namespace Locator

theorem steady_count (l : Locator) : P l.count := hP.look (fun _ _ => rfl) fun _ => hP.pure _

theorem steady_isVisible (l : Locator) : P l.isVisible :=
  hP.look (fun _ _ => rfl) fun _ => hP.pure _

theorem steady_target (l : Locator) : P l.target := by
  refine hP.look (fun _ _ => rfl) fun s => ?_
  cases l.first? s.page with
  | some e => exact hP.pure e
  | none => exact hP.fail (hP.midway _ trivial)

theorem steady_descend (l : Locator) : P l.descend := hP.bind (hP.mark _ rfl rfl) fun _ => hP.pure _

/-- A call tells nothing of the time, and its changes concern the page alone. -/
theorem steady_call (l : Locator) (c : ElementCall) : P (l.call c) := by
  refine hP.bind (steady_target hP l) fun e => hP.bind (hP.mark _ rfl rfl) fun _ => ?_
  cases namedValue? e.traits.errors c.name with
  | some message => exact hP.fail (hP.midway _ trivial)
  | none => exact hP.bind (hP.change _) fun _ => hP.pure e

/-- A call whose answer does not matter, such as a click. -/
theorem steady_act (l : Locator) (c : ElementCall) : P (do let _ ← l.call c : Play Unit) :=
  hP.bind (steady_call hP l c) fun _ => hP.pure ()

/-- A call behind which the page is changed once more, such as filling an input. -/
theorem steady_edit (l : Locator) (c : ElementCall) (f : Element → Page → Page) :
    P (l.call c >>= fun e => modifyPage (f e)) :=
  hP.bind (steady_call hP l c) fun e => hP.change (f e)

/-- A call whose answer is looked at, such as asking for the texts of an element. -/
theorem steady_ask (l : Locator) (c : ElementCall) (f : Element → α) :
    P (l.call c >>= fun e => pure (f e)) :=
  hP.bind (steady_call hP l c) fun e => hP.pure (f e)

end Locator

namespace Page

theorem steady_call {c : PageCall} (hmark : P (Act.mark (.page c))) : P (call c) := by
  refine hP.bind hmark fun _ => hP.look (fun _ _ => rfl) fun s => ?_
  cases namedValue? s.page.errors c.name with
  | some message => exact hP.fail (hP.midway _ trivial)
  | none => exact hP.pure ()

theorem steady_goto (url : String) (options : Members) : P (goto url options) :=
  hP.bind (steady_call hP (hP.mark _ rfl rfl)) fun _ => hP.change _

theorem steady_findWord (root : Option String) (word : Json) (nth : Int) :
    P (findWord root word nth) :=
  hP.bind (steady_call hP (hP.mark _ rfl rfl)) fun _ => hP.look (fun _ _ => rfl) fun _ => hP.pure _

theorem steady_locate (key : String) : P (locate key) := hP.bind (hP.mark _ rfl rfl) fun _ => hP.pure _

end Page

theorem steady_expect (target : Target) (m : Matcher) (options : Members)
    (message : Option String) : P (expect target m options message) := by
  refine hP.look (fun _ _ => rfl) fun s => hP.bind (hP.mark _ rfl rfl) fun _ => ?_
  cases namedValue? s.page.errors m.name with
  | some refusal => exact hP.fail (hP.midway _ trivial)
  | none =>
    dsimp only
    split
    · exact hP.pure ()
    · exact hP.fail (hP.midway _ trivial)

namespace Fill

theorem steady_describe (l : Locator) : P (describe l) := by
  refine hP.bind (Locator.steady_ask hP l _ _) fun v => ?_
  split
  · exact hP.ofMisuse fun _ => isMisuse_of_normalized
  · exact hP.pure _

theorem steady_firstVisible (candidates : Locator) (ns : List Nat) :
    P (firstVisible candidates ns) := by
  induction ns with
  | nil => exact hP.pure none
  | cons n rest ih =>
    unfold firstVisible
    refine hP.bind (Locator.steady_isVisible hP _) fun visible => ?_
    split
    · exact hP.pure _
    · exact ih

theorem steady_findInput (l : Locator) : P (findInput l) := by
  unfold findInput
  refine hP.bind (Locator.steady_descend hP l) fun candidates => ?_
  exact hP.bind (Locator.steady_count hP candidates) fun _ => steady_firstVisible hP candidates _

theorem steady_chooseInput (l : Locator) (description : String) :
    P (chooseInput l description) := by
  refine hP.bind (steady_describe hP l) fun info => ?_
  refine hP.bind (hP.ofMisuse fun _ => isMisuse_of_isFillable) fun fillable => ?_
  split
  · exact hP.pure l
  · refine hP.bind (hP.ofMisuse fun _ => isMisuse_of_summary) fun s => ?_
    refine hP.bind (Locator.steady_act hP l _) fun _ => ?_
    refine hP.bind (steady_findInput hP l) fun found => ?_
    cases found with
    | some input => exact hP.pure input
    | none => exact hP.fail (hP.midway _ (Or.inl rfl))

theorem steady_fillOrReveal (l : Locator) (value : String) (options : Members)
    (description : String) : P (fillOrReveal l value options description) :=
  hP.bind (steady_chooseInput hP l description) fun input =>
    hP.bind (Locator.steady_edit hP input _ _) fun _ => hP.pure input

end Fill

namespace Query

theorem steady_locate {q : Query} (hq : q.Asks E) : P q.locate := by
  refine hP.bind ?_ fun l => hP.pure _
  obtain ⟨k, hk⟩ | hunsupported := hq
  · rw [hk, resolve_name]
    exact Page.steady_locate hP _
  · unfold resolve
    split
    · exact Page.steady_locate hP _
    · exact Page.steady_locate hP _
    · exact Page.steady_locate hP _
    · exact Page.steady_locate hP _
    · exact Page.steady_locate hP _
    · exact hP.fail (hunsupported _ _)

theorem steady_count {q : Query} (hq : q.Asks E) : P q.count :=
  hP.bind (steady_locate hP hq) fun l => Locator.steady_count hP l

theorem steady_locateOptional {q : Option Query} (hq : ∀ x ∈ q, Asks E x) :
    P (locateOptional q) := by
  cases q with
  | none => exact hP.pure none
  | some q => exact hP.bind (steady_locate hP (hq q rfl)) fun l => hP.pure (some l)

end Query

namespace Step

/-- An action has a property if it may fail where it is refused, and if a wait and its handler have the
property. -/
theorem steady_perform {engine : Engine} {s : Step} {ctx : Context} (element : Option Locator)
    (hrefused : ∀ e, s.Refused engine element e → E e)
    (hwait : s.action = .wait → P (Page.wait (s.waitTime.getD 0)))
    (hknown : s.action = .unspecified → E s.unsupported)
    (hcustom : ∀ name data h, s.action = .custom name data →
      engine.plugins.action (some name) = .ok h → P (h.run s ctx element)) :
    P (s.perform engine element ctx) := by
  have honElement : ∀ f : Locator → Play Unit, s.needsElement = true →
      (∀ l, element = some l → P (f l)) → P (s.onElement element f) := by
    intro f hneeds hf
    cases element with
    | some l => exact hf l rfl
    | none => exact hP.fail (hrefused _ (.element hneeds))
  have hneeds : ∀ k, s.action.kind? = some k → k.needsElement = true → s.needsElement = true :=
    fun k hk hneeds => by rw [needsElement, hk, Option.any_some, hneeds]
  unfold perform
  cases haction : s.action with
  | navigate path =>
    exact hP.ofExcept_bind (fun e he => hrefused e (.address haction he)) fun url _ =>
      Page.steady_goto hP url _
  | fill text =>
    exact honElement _ (hneeds .fill (by rw [haction]; rfl) rfl) fun l _ =>
      hP.bind (Fill.steady_fillOrReveal hP l _ _ _) fun _ => hP.pure ()
  | type text =>
    exact honElement _ (hneeds .type (by rw [haction]; rfl) rfl) fun l _ =>
      Locator.steady_edit hP l _ _
  | click =>
    exact honElement _ (hneeds .click (by rw [haction]; rfl) rfl) fun l _ =>
      Locator.steady_act hP l _
  | hover =>
    exact honElement _ (hneeds .hover (by rw [haction]; rfl) rfl) fun l _ =>
      Locator.steady_act hP l _
  | pressKey key =>
    cases element with
    | none => exact Page.steady_call hP (hP.mark _ rfl rfl)
    | some l => exact Locator.steady_act hP l _
  | wait => exact hwait haction
  | upload u =>
    refine honElement _ (hneeds .upload (by rw [haction]; rfl) rfl) fun l hl => ?_
    subst hl
    refine hP.ofExcept_bind (fun e he => hrefused e (.files haction he)) fun files _ => ?_
    dsimp only
    split
    · exact hP.bind (Locator.steady_act hP l _) fun _ => Locator.steady_act hP l _
    · exact hP.bind (hP.pure ()) fun _ => Locator.steady_act hP l _
  | custom name data =>
    exact hP.ofExcept_bind (fun e he => hrefused e (.plugin haction he)) fun h hfound =>
      hcustom name data h haction hfound
  | unspecified => exact hP.fail (hknown haction)

end Step

namespace Check

section Declared

variable {engine : Engine} {c : Check} {outer : Option Query} {ctx : Context}
  (houter : ∀ x ∈ outer, Query.Asks E x)
  (hrefused : ∀ e, c.Refused engine outer ctx e → E e)
include houter hrefused

/-- What a check expects has a property if it may fail where the check is refused, and where its data is
no search pattern. -/
theorem steady_expectDeclared (hunread : ∀ s e, readPattern s = .error e → E e)
    (known : c.kind.isKnown = true) (complete : c.missing? = none) (kind : c.kind ≠ .custom) :
    P (c.expectDeclared engine outer ctx) := by
  unfold expectDeclared
  cases htarget : c.kind.targetsPage with
  | true =>
    refine hP.ofExcept_bind (fun e he => ?_) fun m _ => steady_expect hP _ m _ _
    unfold pageMatcher at he
    split at he
    · cases he
    · exact hunread _ e (except_map_eq_error.mp he)
  | false =>
    refine hP.ofExcept_bind (fun e he => hP.midway e (isMisuse_of_scope he).isMidway) fun q hq => ?_
    cases q with
    | none => exact hP.fail (hrefused _ (.element known complete kind htarget hq))
    | some q =>
      refine hP.bind (Query.steady_locate hP (asks_scope hq houter q rfl)) fun l => ?_
      refine hP.ofExcept_bind (fun e he => ?_) fun m _ => ?_
      · unfold elementMatcher? at he
        split at he
        case h_8 => exact hunread _ e (except_map_eq_error.mp he)
        all_goals cases he
      · cases m with
        | some m => exact steady_expect hP _ m _ _
        | none => exact hP.pure ()

/-- A check has a property if moreover its handler has it, whatever that fails with. -/
theorem steady_run (hunread : ∀ s e, readPattern s = .error e → E e)
    (hcheck : ∀ h element, c.kind = .custom → engine.plugins.check c.customName = .ok h →
      P (Act.handle (h.run c ctx element) fun e => Act.fail (c.ofHandler e))) :
    P (c.run engine outer ctx) := by
  unfold run
  cases hknown : c.kind.isKnown with
  | false => exact hP.bind (hP.log _ _ _) fun _ => hP.pure none
  | true =>
    cases hcomplete : c.missing? with
    | some m =>
      rw [checkRequired, hcomplete]
      exact hP.fail (hrefused _ (.field hknown hcomplete))
    | none =>
      rw [checkRequired, hcomplete]
      refine hP.handle (hP.bind ?_ fun _ => hP.pure none) fun e he => ?_
      · unfold verify
        split
        · rename_i hkind
          refine hP.ofExcept_bind (fun e he => hrefused e (.plugin hkind he)) fun h hfound => ?_
          refine hP.ofExcept_bind (fun e he => hP.midway e (isMisuse_of_scope he).isMidway)
            fun q hq => ?_
          exact hP.bind (Query.steady_locateOptional hP (asks_scope hq houter)) fun element =>
            hcheck h element hkind hfound
        · rename_i hkind
          refine hP.handle (steady_expectDeclared hP houter hrefused hunread hknown hcomplete hkind)
            fun e he => hP.fail ?_
          unfold ofExpectation
          split
          · exact hP.midway _ (Or.inr rfl)
          · exact he
      · unfold soften
        split
        · exact hP.bind (hP.log _ _ _) fun _ => hP.pure _
        · exact hP.fail he

end Declared

end Check

end Steady

end Walkthrough
