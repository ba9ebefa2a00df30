import Walkthrough.Proofs.Softening
import Walkthrough.Proofs.Unsupported

/-!
What is found out beforehand: that a step or a check lacks its element, its plugin, its files or a field,
or that the content of a file cannot be read. Nothing has been done by then, to the page or to the
records, and nothing has been asked of the page.
-/
namespace Walkthrough

namespace Failure

/-- The failures of what lacks something that it needs. -/
def IsMissing : Failure → Prop
  | .engine e => e.fault ∈ [.missingElement, .missingField, .unknownPlugin, .noFiles]
  | _ => False

/-- The failures of what lacks something, or comes with a content or an address that cannot be read. -/
def IsEarly (e : Failure) : Prop :=
  e.IsMissing ∨ (∃ m, e = .base64 m) ∨ ∃ m, e = .value m

theorem IsMidway.not_missing {e : Failure} (h : e.IsMidway) : ¬ e.IsMissing := by
  intro hmissing
  unfold IsMissing at hmissing
  split at hmissing
  · rcases h with h | h <;> rw [h] at hmissing <;> revert hmissing <;> decide
  · exact hmissing

theorem IsMidway.not_early {e : Failure} (h : e.IsMidway) : ¬ e.IsEarly := by
  rintro (hmissing | ⟨m, rfl⟩ | ⟨m, rfl⟩)
  · exact h.not_missing hmissing
  · exact h
  · exact h

end Failure

/-- Plays that fail midway, or else in the allowed ways. -/
theorem Play.steady_failsBy {E : Failure → Prop} (hE : ∀ e : Failure, e.IsMidway → E e) :
    Play.Steady E (Act.FailsBy (fun _ => True) E) where
  toClosedFor := Act.closedFor_failsBy _ E
  midway := hE
  mark _ _ _ _ _ := ⟨trivial, fun _ he => by cases he⟩
  change _ _ _ := ⟨trivial, fun _ he => by cases he⟩
  look _ hf s _ := hf s s trivial

namespace Step

/-- The action of a step is left to the handler of a plugin. -/
def IsHandled (engine : Engine) (s : Step) : Prop :=
  ∃ name data h, s.action = .custom name data ∧ engine.plugins.action (some name) = .ok h

variable {engine : Engine} {s : Step} {element : Option Locator} {e : Failure} {ctx : Context}
  {scene : Scene}

/-- Nothing is done for a step that is refused. -/
theorem Refused.perform (h : s.Refused engine element e) (ctx : Context) (scene : Scene) :
    s.perform engine element ctx scene = ⟨.error e, scene, [], []⟩ := by
  unfold Step.perform
  cases h with
  | element needs =>
    unfold needsElement at needs
    cases haction : s.action <;> rw [haction] at needs <;> first | rfl | cases needs
  | address action unread =>
    rw [action]
    dsimp only [navigate]
    rw [unread]
    rfl
  | files action missing =>
    rw [action]
    dsimp only [onElement, upload]
    rw [missing]
    rfl
  | plugin action unknown =>
    rw [action]
    dsimp only
    rw [unknown]
    rfl

/-- Unless it is left to a plugin, a step fails early just because it is refused. -/
theorem refused_of_early (hown : ¬ s.IsHandled engine)
    (h : (s.perform engine element ctx scene).result = .error e) (he : e.IsEarly) :
    s.Refused engine element e := by
  have hsteady := Play.steady_failsBy (E := fun e => e.IsEarly → s.Refused engine element e)
    fun _ hmidway hearly => absurd hearly hmidway.not_early
  refine (steady_perform hsteady element (fun _ h _ => h) (fun _ => ?wait) (fun _ hearly => ?known)
    (fun name data h haction hfound => ?custom) scene trivial).2 e h he
  case wait =>
    refine hsteady.bind (Page.steady_call hsteady fun _ _ => ⟨trivial, fun _ he => ?_⟩)
      fun _ _ _ => ⟨trivial, fun _ he => ?_⟩ <;> cases he
  case known =>
    obtain hmissing | ⟨m, hm⟩ | ⟨m, hm⟩ := hearly
    · refine absurd (show EngineFault.unsupportedAction ∈ _ from hmissing) ?_
      decide
    · cases hm
    · cases hm
  case custom => exact absurd ⟨name, data, h, haction, hfound⟩ hown

end Step

theorem Plugins.error_of_lookUp {α : Type} {table : List (String × α)} {kind : String}
    {name : Option String} {e : Failure} (h : lookUp table kind name = .error e) :
    ∃ message details, e = Failure.engineError .unknownPlugin message details := by
  unfold lookUp at h
  split at h
  · cases h
    exact ⟨_, _, rfl⟩
  · split at h
    · cases h
    · cases h
      exact ⟨_, _, rfl⟩

namespace Check

/-- A check is left to the handler of a plugin. -/
def IsHandled (engine : Engine) (c : Check) : Prop :=
  c.kind = .custom ∧ ∃ h, engine.plugins.check c.customName = .ok h

variable {engine : Engine} {c : Check} {query : Option Query} {ctx : Context} {e : Failure}

/-- Whether a check is soft does not matter for its refusal. -/
theorem Refused.soft (h : c.Refused engine query ctx e) (soft : Bool) :
    ({ c with soft } : Check).Refused engine query ctx e := by
  cases h with
  | field known lacks => exact .field (c := { c with soft }) known lacks
  | plugin kind unknown => exact .plugin (c := { c with soft }) kind unknown
  | element known complete kind onElement scope =>
    exact .element (c := { c with soft }) known complete kind onElement scope

theorem checkRequired_of_complete (h : c.missing? = none) : c.checkRequired = .ok () := by
  rw [checkRequired, h]

/-- A refusal is no failed check. -/
theorem Refused.not_failed (h : c.Refused engine query ctx e) : failedMessage? e = none := by
  cases h with
  | field => rfl
  | plugin kind unknown =>
    obtain ⟨message, details, rfl⟩ := Plugins.error_of_lookUp unknown
    rfl
  | element => rfl

/-- Nothing is looked at for a check that is refused. -/
theorem Refused.run (h : c.Refused engine query ctx e) (scene : Scene) :
    c.run engine query ctx scene = ⟨.error e, scene, [], []⟩ := by
  have hfailed := h.not_failed
  cases h with
  | field known lacks =>
    unfold Check.run checkRequired
    rw [known, lacks]
    rfl
  | plugin kind unknown =>
    have hknown : c.kind.isKnown = true := by rw [kind]; rfl
    have hcomplete : c.missing? = none := by rw [missing?, kind]; rfl
    have hverify : c.verify engine query ctx scene = ⟨.error e, scene, [], []⟩ := by
      rw [verify, if_pos kind, runHandler, unknown]
      rfl
    rw [run_of_unmet hknown (checkRequired_of_complete hcomplete) (e := e) (by rw [hverify]),
      soften_raised (.inr hfailed), hverify]
    rfl
  | element known complete kind onElement scope =>
    have hverify : c.verify engine query ctx scene = ⟨.error c.noElement, scene, [], []⟩ := by
      rw [verify, if_neg kind, expectDeclared, onElement, scope]
      rfl
    rw [run_of_unmet known (checkRequired_of_complete complete) (e := c.noElement)
      (by rw [hverify]), soften_raised (.inr hfailed), hverify]
    rfl

/-- Unless it is left to a plugin, a check lacks something just because it is refused. -/
theorem refused_of_missing {scene : Scene} (hown : ¬ c.IsHandled engine)
    (h : (c.run engine query ctx scene).result = .error e) (he : e.IsMissing) :
    c.Refused engine query ctx e := by
  have hsteady := Play.steady_failsBy (E := fun e => e.IsMissing → c.Refused engine query ctx e)
    fun _ hmidway hmissing => absurd hmissing hmidway.not_missing
  refine (steady_run hsteady (fun _ _ => Or.inr fun _ _ hmissing => ?selector) (fun _ h _ => h)
    (fun s e hread hmissing => ?pattern) (fun h element hkind hfound => ?custom) scene trivial).2 e
      h he
  case selector =>
    refine absurd (show EngineFault.unsupportedSelector ∈ _ from hmissing) ?_
    decide
  case pattern =>
    obtain ⟨fault, -, rfl⟩ := mapError_eq_error.mp hread
    cases fault <;> cases hmissing
  case custom => exact absurd ⟨hkind, h, hfound⟩ hown

end Check

section Untouched

variable {engine : Engine} {ctx : Context} {c : Check} {query : Option Query} {w : Walk}
  {e : Failure}

/-- Only those who are told of it fail the noting of a soft failure. -/
theorem Recorder.raised_of_softFailure {message : String}
    (h : (softFailure message w).result = .error e) : w.RaisedByListener e :=
  (failsBy_change (deaf_softening message) (fun _ h => h) w rfl).2 e h

/-- What is not noted leaves no trace. -/
theorem Step.run_of_runCheck (hlistener : ¬ w.RaisedByListener e)
    (h : (runCheck engine query ctx c w).result = .error e) :
    (c.run engine query ctx w.scene).result = .error e := by
  obtain ⟨e', hrun, hresult, -⟩ | ⟨noted, hrun, hrest⟩ :=
    Act.bind_cases (Run.onScene (c.run engine query ctx)) _ w
  · cases hresult.symm.trans h
    exact hrun
  · have hnoted := (congrArg Outcome.result hrest).symm.trans h
    cases noted with
    | none => cases hnoted
    | some message => exact absurd (Recorder.raised_of_softFailure hnoted) hlistener

/-- A check that lacks something leaves no trace of itself, be it soft or not. -/
theorem Step.runCheck_of_missing (hown : ¬ c.IsHandled engine) (hlistener : ¬ w.RaisedByListener e)
    (h : (runCheck engine query ctx c w).result = .error e) (he : e.IsMissing) (soft : Bool) :
    runCheck engine query ctx { c with soft } w = ⟨.error e, w, [], []⟩ := by
  have hrefused := (Check.refused_of_missing hown (run_of_runCheck hlistener h) he).soft soft
  have hscene : Run.onScene (Check.run engine { c with soft } query ctx) w =
      ⟨.error e, w, [], []⟩ := by
    unfold Run.onScene Act.zoom
    rw [hrefused.run]
  unfold runCheck
  rw [Act.bind_eq, Act.bind_of_error (by rw [hscene]), hscene]

/-- Where an action fails because something is missing that it needs, or cannot be read, the page is as
it was before and nothing has been asked of it, unless the handler of a plugin has failed. The same holds
of a check that lacks something, for the records as well, and whether or not the check is soft. -/
theorem Engine.missing_beforehand (engine : Engine) (ctx : Context) (e : Failure) :
    (∀ (s : Step) element scene, ¬ s.IsHandled engine → e.IsEarly →
      (s.perform engine element ctx scene).result = .error e →
      s.perform engine element ctx scene = ⟨.error e, scene, [], []⟩) ∧
    ∀ (c : Check) query (w : Walk), ¬ c.IsHandled engine → ¬ w.RaisedByListener e → e.IsMissing →
      (Step.runCheck engine query ctx c w).result = .error e →
      ∀ soft, Step.runCheck engine query ctx { c with soft } w = ⟨.error e, w, [], []⟩ :=
  ⟨fun _ _ scene hown he h => (Step.refused_of_early hown h he).perform ctx scene,
    fun _ _ _ hown hlistener he h => Step.runCheck_of_missing hown hlistener h he⟩

/-- An upload without files does not empty the input, and a soft check without an element is not noted. -/
theorem Engine.missing_beforehand_of_upload :
    let engine : Engine := { settings := default }
    let s : Step := { action := .upload { paths := .one " ", clearFirst := true } }
    let c : Check := { kind := .visible, soft := true }
    let scene : Scene := { page := { elements := [("#file", [.mk { name := "file" } [] []])] } }
    let w : Walk := { scene, recorder := some default }
    ∃ e e', e.IsEarly ∧ e'.IsMissing ∧
      s.perform engine (some (.all "#file")) {} scene = ⟨.error e, scene, [], []⟩ ∧
      Step.runCheck engine none {} { c with soft := true } w = ⟨.error e', w, [], []⟩ := by
  intro engine s c scene w
  have hstep : ¬ s.IsHandled engine := by
    rintro ⟨name, data, h, haction, -⟩
    cases haction
  have hcheck : ¬ c.IsHandled engine := fun h => by cases h.1
  have hmissing : c.noElement.IsMissing := by
    show EngineFault.missingElement ∈ _
    decide
  have hlistener : ∀ e, ¬ w.RaisedByListener e := by
    rintro e ⟨r, hr, l, hl, -⟩
    cases hr
    cases hl
  obtain ⟨hperform, -⟩ := missing_beforehand engine {} (Failure.engineError .noFiles
    "Upload step 'upload' did not provide any files" [("step", .str "upload")])
  obtain ⟨-, hrun⟩ := missing_beforehand engine {} c.noElement
  have hearly : (Failure.engineError .noFiles "Upload step 'upload' did not provide any files"
      [("step", .str "upload")]).IsEarly := by
    refine Or.inl (show EngineFault.noFiles ∈ _ from ?_)
    decide
  exact ⟨_, _, hearly, hmissing, hperform s _ scene hstep hearly rfl,
    hrun c none w hcheck (hlistener _) hmissing rfl true⟩

end Untouched

end Walkthrough
