import Walkthrough.Proofs.Steady

/-!
What steps and checks do on a page, waiting among it, is built of a few single acts: a property of these
is one of all that is built of them. Steps fail for want of support only if they have no action, or ask
for elements in a way that is not known.
-/
namespace Walkthrough

variable {α β : Type}

/-- The failures that say that a kind of selector or an action is not known. -/
def Failure.Unsupported : Failure → Prop
  | .engine e => e.fault = .unsupportedSelector ∨ e.fault = .unsupportedAction
  | _ => False

/-- A result that is no failure for want of support. -/
def Supported (r : Except Failure α) : Prop := ∀ e, r = .error e → ¬ e.Unsupported

section Supported

variable {r : Except Failure α}

theorem Failure.supported_engineError {fault : EngineFault}
    (h : fault ≠ .unsupportedSelector ∧ fault ≠ .unsupportedAction) (message : String)
    (details : Members) : ¬ (engineError fault message details).Unsupported :=
  fun hu => hu.elim h.1 h.2

theorem supported_ok (a : α) : Supported (.ok a : Except Failure α) := fun _ h => by cases h

theorem supported_error {e : Failure} (h : ¬ e.Unsupported) :
    Supported (.error e : Except Failure α) := fun _ he => by cases he; exact h

theorem Supported.bind {f : α → Except Failure β} (hr : Supported r)
    (hf : ∀ a, Supported (f a)) : Supported (r >>= f) := by
  cases r with
  | ok a => exact hf a
  | error e => exact supported_error (hr e rfl)

theorem Supported.map (hr : Supported r) (f : α → β) : Supported (r.map f) := by
  cases r with
  | ok a => exact supported_ok (f a)
  | error e => exact supported_error (hr e rfl)

theorem supported_mapError {ε : Type} {f : ε → Failure} (hf : ∀ e, ¬ (f e).Unsupported)
    (r : Except ε α) : Supported (r.mapError f) := by
  cases r with
  | ok a => exact supported_ok a
  | error e => exact supported_error (hf e)

theorem supported_mapM {f : α → Except Failure β} (hf : ∀ a, Supported (f a)) (as : List α) :
    Supported (as.mapM f) := by
  induction as with
  | nil => exact supported_ok []
  | cons a as ih =>
    rw [List.mapM_cons]
    exact (hf a).bind fun b => ih.bind fun bs => supported_ok (b :: bs)

end Supported

/-- Failures midway are none for want of support. -/
theorem Failure.IsMidway.supported {e : Failure} (h : e.IsMidway) : ¬ e.Unsupported := by
  intro hu
  unfold Unsupported at hu
  split at hu
  · rcases h with h | h <;> rcases hu with hu | hu <;> cases h.symm.trans hu
  · exact hu

namespace Upload

theorem supported_resolvePath (env : Environment) (base : Path) (resolveFromBase : Bool)
    (raw : String) : Supported (resolvePath env base resolveFromBase raw) := by
  unfold resolvePath
  split
  · unfold noHome
    dsimp only
    split
    · exact supported_error id
    · exact supported_error id
  · split
    · exact supported_ok _
    · dsimp only
      split
      · exact supported_error id
      · exact supported_ok _

theorem supported_decode (e : Encoding) (content : String) : Supported (e.decode content) := by
  unfold Encoding.decode
  cases e with
  | utf8 => exact supported_ok _
  | base64 =>
    refine supported_mapError (fun fault => ?_) _
    cases fault <;> exact id

theorem supported_require (env : Environment) (base : Path) (title : String) (u : Upload) :
    Supported (u.require env base title) := by
  refine Supported.bind ?_ fun files => ?_
  · unfold collect
    split
    · exact supported_mapM (fun p => (supported_resolvePath env base _ p).map _) _
    · refine supported_mapM (fun f => ?_) _
      unfold ofEntry
      split
      · exact (supported_decode f.encoding _).map _
      · exact (supported_resolvePath env base _ _).map _
  · split
    · exact supported_error (Failure.supported_engineError (by decide) _ _)
    · exact supported_ok files

end Upload

theorem Settings.supported_targetUrl (s : Settings) (path : String) :
    Supported (s.targetUrl path) := supported_mapError (fun _ => id) _

theorem Plugins.supported_lookUp {table : List (String × α)} (kind : String)
    (name : Option String) : Supported (lookUp table kind name) := by
  unfold lookUp
  split
  · exact supported_error (Failure.supported_engineError (by decide) _ _)
  · split
    · exact supported_ok _
    · exact supported_error (Failure.supported_engineError (by decide) _ _)

namespace Check

theorem supported_readPattern (s : String) : Supported (readPattern s) := by
  refine supported_mapError (fun e => ?_) _
  cases e <;> exact id

end Check

/-- A step is not refused for want of support. -/
theorem Step.Refused.supported {engine : Engine} {s : Step} {element : Option Locator} {e : Failure}
    (h : s.Refused engine element e) : ¬ e.Unsupported := by
  cases h with
  | element => exact Failure.supported_engineError (by decide) _ _
  | address _ unread => exact Settings.supported_targetUrl _ _ e unread
  | files _ missing => exact Upload.supported_require _ _ _ _ e missing
  | plugin _ unknown => exact Plugins.supported_lookUp _ _ e unknown

/-- A check is not refused for want of support. -/
theorem Check.Refused.supported {engine : Engine} {c : Check} {outer : Option Query}
    {ctx : Context} {e : Failure} (h : c.Refused engine outer ctx e) : ¬ e.Unsupported := by
  cases h with
  | field => exact Failure.supported_engineError (by decide) _ _
  | plugin _ unknown => exact Plugins.supported_lookUp _ _ e unknown
  | element => exact Failure.supported_engineError (by decide) _ _

/-- A property that everything has which is built of single acts that have it, as long as it fails
only in the ways that `E` allows; these are at least all but those for want of support. -/
structure Play.Closed (E : Failure → Prop) (P : ∀ {α : Type}, Play α → Prop) : Prop
    extends Act.ClosedFor E P where
  supported : ∀ e, ¬ e.Unsupported → E e
  mark : ∀ m : Mark, m.browserCall? = none → P (Act.mark m)
  change : ∀ f, P (modifyPage f)
  pass : ∀ ms : Nat, P (Act.modify fun s => { s with clock := s.clock + ms })
  look : ∀ {α : Type} {f : Scene → Play α}, (∀ s clock, f { s with clock } = f s) →
    (∀ s, P (f s)) → P (Act.bind Act.get f)

/-- The query asks in a way that is known, or else it may fail for that. -/
def Query.Allowed (E : Failure → Prop) (q : Query) : Prop :=
  (∃ k : SelectorKind, q.kind = k.name) ∨ ∀ e, E e

theorem Query.Allowed.asks {E : Failure → Prop} {q : Query} (h : q.Allowed E) : q.Asks E :=
  h.imp_right fun hall _ _ => hall _

section Closed

variable {E : Failure → Prop} {P : ∀ {α : Type}, Play α → Prop} (hP : Play.Closed E P)
include hP

theorem Play.Closed.steady : Play.Steady E P where
  toClosedFor := hP.toClosedFor
  midway e he := hP.supported e he.supported
  mark m hm _ := hP.mark m hm
  change := hP.change
  look := hP.look

theorem Page.closed_call (c : PageCall) : P (call c) := steady_call hP.steady (hP.mark _ rfl)

theorem Page.closed_wait (ms : Nat) : P (wait ms) :=
  hP.bind (Page.closed_call hP _) fun _ => hP.pass ms

namespace Step

/-- An action has a property if it is a known one and its handler has the property. -/
theorem closed_perform {engine : Engine} {s : Step} {ctx : Context} (element : Option Locator)
    (hknown : s.action = .unspecified → E s.unsupported)
    (hcustom : ∀ name data h, s.action = .custom name data →
      engine.plugins.action (some name) = .ok h → P (h.run s ctx element)) :
    P (s.perform engine element ctx) :=
  steady_perform hP.steady element (fun e he => hP.supported e he.supported)
    (fun _ => Page.closed_wait hP _) hknown hcustom

theorem closed_postWait (s : Step) : P s.postWait := by
  unfold postWait
  split
  · exact hP.pure ()
  · split
    · exact hP.pure ()
    · exact hP.pure ()
    · exact Page.closed_wait hP _

end Step

theorem Check.closed_run {engine : Engine} (c : Check) {outer : Option Query} (ctx : Context)
    (houter : ∀ x ∈ outer, Query.Allowed E x)
    (hcheck : ∀ h element, engine.plugins.check c.customName = .ok h →
      P (Act.handle (h.run c ctx element) fun e => Act.fail (c.ofHandler e))) :
    P (c.run engine outer ctx) :=
  steady_run hP.steady (fun x hx => (houter x hx).asks) (fun e he => hP.supported e he.supported)
    (fun s e he => hP.supported e (supported_readPattern s e he)) fun h element _ => hcheck h element

end Closed

end Walkthrough
