import Mathlib.Order.Defs.Unbundled
import Walkthrough.Act.Basic

/-! Laws of acts: how they are put together, and properties that are kept by that. -/
namespace Walkthrough

variable {σ τ α β γ : Type}

/-- An outcome with what another one left in front of it. -/
def Outcome.after (second : Outcome σ β) (first : Outcome σ α) : Outcome σ β :=
  { second with
    trace := first.trace ++ second.trace
    logs := first.logs ++ second.logs }

@[simp] theorem Outcome.after_nothing (o : Outcome σ β) (r : Except Failure α) (s : σ) :
    o.after ⟨r, s, [], []⟩ = o := rfl

@[simp] theorem Outcome.after_result (second : Outcome σ β) (first : Outcome σ α) :
    (second.after first).result = second.result := rfl

@[simp] theorem Outcome.after_state (second : Outcome σ β) (first : Outcome σ α) :
    (second.after first).state = second.state := rfl

theorem Outcome.after_assoc (o : Outcome σ γ) (p : Outcome σ β) (q : Outcome σ α) :
    (o.after p).after q = o.after (p.after q) := by
  simp only [after, List.append_assoc]

theorem exists_error_of_toOption {r : Except Failure α} (h : r.toOption = none) :
    ∃ e, r = .error e := by
  cases r with
  | error e => exact ⟨e, rfl⟩
  | ok a => cases h

namespace Act

variable {x : Act σ α} {f : α → Act σ β} {s : σ} {a : α} {e : Failure}

theorem bind_eq (x : Act σ α) (f : α → Act σ β) : x >>= f = bind x f := rfl

theorem pure_eq (a : α) : (Pure.pure a : Act σ α) = pure a := rfl

theorem ofExcept_eq (r : Except Failure α) (s : σ) : ofExcept r s = ⟨r, s, [], []⟩ := by
  cases r <;> rfl

theorem bind_of_ok (h : (x s).result = .ok a) :
    bind x f s = (f a (x s).state).after (x s) := by
  simp only [bind, h]
  rfl

theorem bind_of_error (h : (x s).result = .error e) :
    bind x f s = ⟨.error e, (x s).state, (x s).trace, (x s).logs⟩ := by
  simp only [bind, h]

/-- What leaves nothing in front of it may be left out. -/
theorem bind_of_silent {s' : σ} (h : x s = ⟨.ok a, s', [], []⟩) : bind x f s = f a s' := by
  rw [bind_of_ok (by rw [h]), h]
  rfl

theorem bind_congr_left {y : Act σ α} (h : x s = y s) : bind x f s = bind y f s := by
  simp only [bind, h]

/-- What comes second matters only for the value and in the state that the first part leaves. -/
theorem bind_congr_right {g : α → Act σ β}
    (h : ∀ a, (x s).result = .ok a → f a (x s).state = g a (x s).state) :
    bind x f s = bind x g s := by
  cases hx : (x s).result with
  | error e => rw [bind_of_error hx, bind_of_error hx]
  | ok a => rw [bind_of_ok hx, bind_of_ok hx, h a hx]

theorem bind_eq_left {x : Act σ α} {f : α → Act σ α} (h : (x s).result = .error e) :
    bind x f s = x s := by
  rw [bind_of_error h, ← h]

theorem handle_of_ok {x : Act σ α} {g : Failure → Act σ α} (h : (x s).result = .ok a) :
    handle x g s = x s := by
  simp only [handle, h]
  rw [← h]

theorem handle_of_error {x : Act σ α} {g : Failure → Act σ α} (h : (x s).result = .error e) :
    handle x g s = (g e (x s).state).after (x s) := by
  simp only [handle, h]
  rfl

/-- What an act in two parts comes to: the first part fails, or the second goes on from it. -/
theorem bind_cases (x : Act σ α) (f : α → Act σ β) (s : σ) :
    (∃ e, (x s).result = .error e ∧ (bind x f s).result = .error e ∧
      (bind x f s).state = (x s).state) ∨
    (∃ a, (x s).result = .ok a ∧ bind x f s = (f a (x s).state).after (x s)) := by
  cases h : (x s).result with
  | error e => exact Or.inl ⟨e, rfl, by rw [bind_of_error h], by rw [bind_of_error h]⟩
  | ok a => exact Or.inr ⟨a, rfl, bind_of_ok h⟩

theorem ok_of_bind {b : β} (h : (bind x f s).result = .ok b) :
    ∃ a, (x s).result = .ok a ∧ (f a (x s).state).result = .ok b := by
  obtain ⟨e, -, he, -⟩ | ⟨a, ha, hs⟩ := bind_cases x f s
  · rw [h] at he
    cases he
  · refine ⟨a, ha, ?_⟩
    rw [hs] at h
    exact h

/-- What follows a value goes on from the same state, if there is a value. -/
theorem bind_ofExcept_ok {r : Except Failure α} {b : β}
    (h : (bind (ofExcept r) f s).result = .ok b) : ∃ a, r = .ok a ∧ bind (ofExcept r) f s = f a s := by
  cases r with
  | ok a => exact ⟨a, rfl, bind_of_silent (ofExcept_eq _ _)⟩
  | error e => cases h

/-- What an act leaves is followed by what the next one leaves. -/
theorem trace_prefix_bind (x : Act σ α) (f : α → Act σ β) (s : σ) :
    (x s).trace <+: (bind x f s).trace := by
  cases h : (x s).result with
  | error e => exact ⟨[], by rw [bind_of_error h, List.append_nil]⟩
  | ok a =>
    rw [bind_of_ok h]
    exact List.prefix_append _ _

theorem bind_fail_result (x : Act σ α) (e : Failure) (s : σ) :
    ∃ e', (bind x (fun _ => (fail e : Act σ β)) s).result = .error e' := by
  obtain ⟨e', -, he, -⟩ | ⟨_, -, he⟩ := bind_cases x (fun _ => (fail e : Act σ β)) s
  · exact ⟨e', he⟩
  · exact ⟨e, congrArg Outcome.result he⟩

/-- An act that leaves lines in the log and nothing else. -/
def Quiet (x : Act σ α) : Prop := ∀ s, (x s).state = s ∧ (x s).trace = []

theorem Quiet.eq (hx : x.Quiet) (s : σ) : ∃ logs, x s = ⟨(x s).result, s, [], logs⟩ := by
  obtain ⟨hstate, htrace⟩ := hx s
  generalize x s = o at hstate htrace
  obtain ⟨result, state, trace, logs⟩ := o
  subst hstate htrace
  exact ⟨logs, rfl⟩

theorem quiet_ofExcept (r : Except Failure α) : (ofExcept r : Act σ α).Quiet := by
  intro s
  rw [ofExcept_eq]
  exact ⟨rfl, rfl⟩

theorem Quiet.bind (hx : x.Quiet) (hf : ∀ a, (f a).Quiet) : (Act.bind x f).Quiet := by
  intro s
  obtain ⟨hstate, htrace⟩ := hx s
  cases h : (x s).result with
  | error e =>
    rw [bind_of_error h]
    exact ⟨hstate, htrace⟩
  | ok a =>
    rw [bind_of_ok h, hstate]
    obtain ⟨hstate', htrace'⟩ := hf a s
    exact ⟨hstate', by rw [Outcome.after, htrace, htrace', List.append_nil]⟩

/-- What is done last does not matter for the result, unless it fails itself. -/
theorem thenAlways_of_ok {last : Act σ Unit} (h : (last (x s).state).result = .ok ()) :
    (thenAlways x last s).result = (x s).result ∧
      (thenAlways x last s).state = (last (x s).state).state := by
  have hx : thenAlways x last s =
      (bind last (fun _ => ofExcept (x s).result) (x s).state).after (x s) := rfl
  rw [hx, bind_of_ok h, ofExcept_eq]
  exact ⟨rfl, rfl⟩

/-- What is done last is done in any case, and a result remains only if it does not fail. -/
theorem thenAlways_cases (x : Act σ α) (last : Act σ Unit) (s : σ) :
    (thenAlways x last s).state = (last (x s).state).state ∧
      ∀ a, (thenAlways x last s).result = .ok a → (x s).result = .ok a := by
  have hx : thenAlways x last s =
      (bind last (fun _ => ofExcept (x s).result) (x s).state).after (x s) := rfl
  obtain ⟨e, -, hresult, hstate⟩ | ⟨_, -, hsecond⟩ :=
    bind_cases last (fun _ => ofExcept (x s).result) (x s).state
  · rw [hx]
    exact ⟨hstate, fun a ha => by cases hresult.symm.trans ha⟩
  · rw [hx, hsecond, ofExcept_eq]
    exact ⟨rfl, fun a ha => ha⟩

theorem pure_bind (a : α) (f : α → Act σ β) : bind (pure a) f = f a := by
  funext s
  rfl

theorem bind_pure (x : Act σ α) : bind x pure = x := by
  funext s
  cases h : x s with
  | mk result state trace logs => cases result <;> simp [bind, pure, h]

theorem bind_assoc (x : Act σ α) (f : α → Act σ β) (g : β → Act σ γ) :
    bind (bind x f) g = bind x fun a => bind (f a) g := by
  funext s
  cases h : x s with
  | mk result state trace logs =>
    cases result with
    | error e => simp [bind, h]
    | ok a =>
      cases k : f a state with
      | mk result' _ _ _ => cases result' <;> simp [bind, h, k]

theorem each_singleton (b : β) (f : β → Act σ Unit) : each [b] f = f b := bind_pure (f b)

theorem each_append (xs ys : List β) (f : β → Act σ Unit) :
    each (xs ++ ys) f = bind (each xs f) fun _ => each ys f := by
  induction xs with
  | nil => exact (pure_bind () fun _ => each ys f).symm
  | cons x xs ih => simp only [List.cons_append, each, bind_assoc, ih]

theorem each_map (g : α → β) (xs : List α) (f : β → Act σ Unit) :
    each (xs.map g) f = each xs (f ∘ g) := by
  induction xs with
  | nil => rfl
  | cons x xs ih => simp only [List.map_cons, each, ih, Function.comp_apply]

theorem each_flatMap (g : α → List β) (xs : List α) (f : β → Act σ Unit) :
    each (xs.flatMap g) f = each xs fun x => each (g x) f := by
  induction xs with
  | nil => rfl
  | cons x xs ih => rw [List.flatMap_cons, each_append, ih]; rfl

theorem each_congr {xs : List α} {f g : α → Act σ Unit} (h : ∀ x ∈ xs, f x = g x) :
    each xs f = each xs g := by
  induction xs with
  | nil => rfl
  | cons x xs ih =>
    have hx := h x List.mem_cons_self
    have hxs := ih fun y hy => h y (List.mem_cons_of_mem x hy)
    simp only [each, hx, hxs]

theorem each_of_inv {I : σ → Prop} {xs : List β} {f : β → Act σ Unit}
    (h : ∀ x ∈ xs, ∀ s, I s → (f x s).result = .ok () ∧ I (f x s).state) (hs : I s) :
    (each xs f s).result = .ok () ∧ I (each xs f s).state := by
  induction xs generalizing s with
  | nil => exact ⟨rfl, hs⟩
  | cons x xs ih =>
    obtain ⟨hok, hi⟩ := h x List.mem_cons_self s hs
    unfold each
    rw [bind_of_ok hok]
    exact ih (fun y hy => h y (List.mem_cons_of_mem x hy)) hi

/-- A property of acts that whatever is put together from such acts has as well. -/
structure Closed (P : ∀ {α : Type}, Act σ α → Prop) : Prop where
  pure : ∀ {α : Type} (a : α), P (pure a)
  fail : ∀ {α : Type} (e : Failure), P (fail e : Act σ α)
  log : ∀ level source message, P (log level source message)
  bind : ∀ {α β : Type} {x : Act σ α} {f : α → Act σ β}, P x → (∀ a, P (f a)) → P (bind x f)
  handle : ∀ {α : Type} {x : Act σ α} {g : Failure → Act σ α}, P x → (∀ e, P (g e)) →
    P (handle x g)
  attempt : ∀ {α : Type} {x : Act σ α}, P x → P (attempt x)

section Closed

variable {P : ∀ {α : Type}, Act σ α → Prop} (hP : Closed P)
include hP

theorem Closed.each {xs : List β} {f : β → Act σ Unit} (hf : ∀ x ∈ xs, P (f x)) :
    P (each xs f) := by
  induction xs with
  | nil => exact hP.pure ()
  | cons x xs ih =>
    exact hP.bind (hf x List.mem_cons_self) fun _ => ih fun y hy => hf y (List.mem_cons_of_mem x hy)

end Closed

theorem Closed.and {P Q : ∀ {α : Type}, Act σ α → Prop} (hP : Closed P) (hQ : Closed Q) :
    Closed fun x => P x ∧ Q x where
  pure a := ⟨hP.pure a, hQ.pure a⟩
  fail e := ⟨hP.fail e, hQ.fail e⟩
  log level source message := ⟨hP.log level source message, hQ.log level source message⟩
  bind hx hf := ⟨hP.bind hx.1 fun a => (hf a).1, hQ.bind hx.2 fun a => (hf a).2⟩
  handle hx hg := ⟨hP.handle hx.1 fun e => (hg e).1, hQ.handle hx.2 fun e => (hg e).2⟩
  attempt hx := ⟨hP.attempt hx.1, hQ.attempt hx.2⟩

/-- A property of acts that whatever is put together from such acts has as well, as long as it fails
only in the ways that `E` allows. -/
structure ClosedFor (E : Failure → Prop) (P : ∀ {α : Type}, Act σ α → Prop) : Prop where
  pure : ∀ {α : Type} (a : α), P (pure a)
  fail : ∀ {α : Type} {e : Failure}, E e → P (fail e : Act σ α)
  log : ∀ level source message, P (log level source message)
  bind : ∀ {α β : Type} {x : Act σ α} {f : α → Act σ β}, P x → (∀ a, P (f a)) → P (bind x f)
  handle : ∀ {α : Type} {x : Act σ α} {g : Failure → Act σ α}, P x → (∀ e, E e → P (g e)) →
    P (handle x g)
  attempt_bind : ∀ {α β : Type} {x : Act σ α} {f : Except Failure α → Act σ β}, P x →
    (∀ r, (∀ e, r = .error e → E e) → P (f r)) → P (Act.bind (attempt x) f)

section ClosedFor

variable {E : Failure → Prop} {P : ∀ {α : Type}, Act σ α → Prop}

theorem Closed.closedFor (hP : Closed P) : ClosedFor (fun _ => True) P where
  pure := hP.pure
  fail _ := hP.fail _
  log := hP.log
  bind := hP.bind
  handle hx hg := hP.handle hx fun e => hg e trivial
  attempt_bind hx hf := hP.bind (hP.attempt hx) fun r => hf r fun _ _ => trivial

variable (hP : ClosedFor E P)
include hP

theorem ClosedFor.ofExcept {r : Except Failure α} (hr : ∀ e, r = .error e → E e) :
    P (ofExcept r) := by
  cases r with
  | ok a => exact hP.pure a
  | error e => exact hP.fail (hr e rfl)

/-- What follows a value need only be considered where there is one. -/
theorem ClosedFor.ofExcept_bind {r : Except Failure α} {f : α → Act σ β}
    (hr : ∀ e, r = .error e → E e) (hf : ∀ a, r = .ok a → P (f a)) :
    P (Act.bind (Act.ofExcept r) f) := by
  cases r with
  | ok a => exact hf a rfl
  | error e => exact hP.fail (hr e rfl)

theorem ClosedFor.each {xs : List β} {f : β → Act σ Unit} (hf : ∀ x ∈ xs, P (f x)) :
    P (Act.each xs f) := by
  induction xs with
  | nil => exact hP.pure ()
  | cons x xs ih =>
    exact hP.bind (hf x List.mem_cons_self) fun _ => ih fun y hy => hf y (List.mem_cons_of_mem x hy)

end ClosedFor

/-- Acts that lead from states of a kind to such states, and fail only in the ways that `E` allows. -/
def FailsBy (I : σ → Prop) (E : Failure → Prop) (x : Act σ α) : Prop :=
  ∀ s, I s → I (x s).state ∧ ∀ e, (x s).result = .error e → E e

/-- Where failures are handled, only those of the handling are left. -/
theorem failsBy_handle {I : σ → Prop} {E F : Failure → Prop} {x : Act σ α}
    {g : Failure → Act σ α} (hx : FailsBy I F x) (hg : ∀ e, F e → FailsBy I E (g e)) :
    FailsBy I E (handle x g) := by
  intro s h
  obtain ⟨hstate, herror⟩ := hx s h
  cases hr : (x s).result with
  | error e =>
    rw [handle_of_error hr]
    exact hg e (herror e hr) _ hstate
  | ok a =>
    rw [handle_of_ok hr, hr]
    exact ⟨hstate, fun e he => by cases he⟩

theorem closedFor_failsBy (I : σ → Prop) (E : Failure → Prop) : ClosedFor E (FailsBy I E) where
  pure _ _ h := ⟨h, fun _ he => by cases he⟩
  fail he _ h := ⟨h, fun _ he' => by cases he'; exact he⟩
  log _ _ _ _ h := ⟨h, fun _ he => by cases he⟩
  bind := by
    intro α β x f hx hf s h
    obtain ⟨hstate, herror⟩ := hx s h
    cases hr : (x s).result with
    | error e =>
      rw [bind_of_error hr]
      exact ⟨hstate, fun e' he' => by cases he'; exact herror e hr⟩
    | ok a =>
      rw [bind_of_ok hr]
      exact hf a _ hstate
  handle := failsBy_handle
  attempt_bind := by
    intro α β x f hx hf s h
    obtain ⟨hstate, herror⟩ := hx s h
    rw [bind_of_ok (a := (x s).result) rfl]
    exact hf (x s).result herror _ hstate

/-- Acts that lead from every state to one that it is related to, failed or not. -/
def Within (R : σ → σ → Prop) (x : Act σ α) : Prop := ∀ s, R s (x s).state

theorem closed_within (R : σ → σ → Prop) [IsPreorder σ R] : Closed (Within R) where
  pure _ s := refl_of R s
  fail _ s := refl_of R s
  log _ _ _ s := refl_of R s
  bind := by
    intro α β x f hx hf s
    obtain ⟨e, _, _, hs⟩ | ⟨a, _, hs⟩ := bind_cases x f s
    · rw [hs]
      exact hx s
    · rw [hs]
      exact trans_of R (hx s) (hf a _)
  handle := by
    intro α x g hx hg s
    cases h : (x s).result with
    | ok a =>
      rw [handle_of_ok h]
      exact hx s
    | error e =>
      rw [handle_of_error h]
      exact trans_of R (hx s) (hg e _)
  attempt hx := hx

/-- What comes to its end for each of several values does so for every single one, in a state that the
acts before lead to. -/
theorem each_ok_of_within {R : σ → σ → Prop} [IsPreorder σ R] {xs : List β} {f : β → Act σ Unit}
    (hf : ∀ x ∈ xs, Within R (f x)) (h : (each xs f s).result = .ok ()) :
    ∀ x ∈ xs, ∃ s', R s s' ∧ (f x s').result = .ok () := by
  induction xs generalizing s with
  | nil => simp
  | cons x xs ih =>
    obtain ⟨_, hfirst, hrest⟩ := ok_of_bind h
    intro y hy
    rcases List.mem_cons.mp hy with rfl | hy
    · exact ⟨s, refl_of R s, hfirst⟩
    · obtain ⟨s', hs', hok⟩ := ih (fun z hz => hf z (List.mem_cons_of_mem x hz)) hrest y hy
      exact ⟨s', trans_of R (hf x List.mem_cons_self s) hs', hok⟩

/-- A property of states that is kept on the way from one to another. -/
def Keeps (I : σ → Prop) (s s' : σ) : Prop := I s → I s'

instance (I : σ → Prop) : IsPreorder σ (Keeps I) where
  refl _ := fun h => h
  trans _ _ _ := fun h h' hs => h' (h hs)

/-- Acts that come to the same from related states, and leave related states. -/
def Respects (R : σ → σ → Prop) (x : Act σ α) : Prop :=
  ∀ s s', R s s' → (x s').result = (x s).result ∧ R (x s).state (x s').state

theorem closed_respects (R : σ → σ → Prop) : Closed (Respects R) where
  pure _ _ _ h := ⟨rfl, h⟩
  fail _ _ _ h := ⟨rfl, h⟩
  log _ _ _ _ _ h := ⟨rfl, h⟩
  bind := by
    intro α β x f hx hf s s' h
    obtain ⟨hresult, hstate⟩ := hx s s' h
    cases hr : (x s).result with
    | error e =>
      rw [hr] at hresult
      rw [bind_of_error hr, bind_of_error hresult]
      exact ⟨rfl, hstate⟩
    | ok a =>
      rw [hr] at hresult
      rw [bind_of_ok hr, bind_of_ok hresult]
      exact hf a _ _ hstate
  handle := by
    intro α x g hx hg s s' h
    obtain ⟨hresult, hstate⟩ := hx s s' h
    cases hr : (x s).result with
    | error e =>
      rw [hr] at hresult
      rw [handle_of_error hr, handle_of_error hresult]
      exact hg e _ _ hstate
    | ok a =>
      rw [hr] at hresult
      rw [handle_of_ok hr, handle_of_ok hresult]
      exact ⟨hresult.trans hr.symm, hstate⟩
  attempt := by
    intro α x hx s s' h
    obtain ⟨hresult, hstate⟩ := hx s s' h
    exact ⟨congrArg Except.ok hresult, hstate⟩

/-- An act that leaves only marks of a kind. -/
def Leaves (Q : Mark → Prop) (x : Act σ α) : Prop := ∀ s, ∀ m ∈ (x s).trace, Q m

theorem closed_leaves (Q : Mark → Prop) : Closed (σ := σ) (Leaves Q) where
  pure _ _ _ hm := nomatch hm
  fail _ _ _ hm := nomatch hm
  log _ _ _ _ _ hm := nomatch hm
  bind := by
    intro α β x f hx hf s m hm
    cases hr : (x s).result with
    | error e =>
      rw [bind_of_error hr] at hm
      exact hx s m hm
    | ok a =>
      rw [bind_of_ok hr] at hm
      rcases List.mem_append.mp hm with hm | hm
      · exact hx s m hm
      · exact hf a _ m hm
  handle := by
    intro α x g hx hg s m hm
    cases hr : (x s).result with
    | ok a =>
      rw [handle_of_ok hr] at hm
      exact hx s m hm
    | error e =>
      rw [handle_of_error hr] at hm
      rcases List.mem_append.mp hm with hm | hm
      · exact hx s m hm
      · exact hg e _ m hm
  attempt hx := hx

/-- An act without its log lines. -/
def unlogged (x : Act σ α) : Act σ α := fun s => { x s with logs := [] }

@[simp] theorem unlogged_pure (a : α) : unlogged (pure a : Act σ α) = pure a := rfl

@[simp] theorem unlogged_fail (e : Failure) : unlogged (fail e : Act σ α) = fail e := rfl

@[simp] theorem unlogged_log (level : LogLevel) (source message : String) :
    unlogged (log level source message : Act σ Unit) = pure () := rfl

theorem unlogged_bind (x : Act σ α) (f : α → Act σ β) :
    unlogged (bind x f) = bind (unlogged x) fun a => unlogged (f a) := by
  funext s
  cases h : x s with
  | mk result state trace logs => cases result <;> simp [unlogged, bind, h]

theorem unlogged_handle (x : Act σ α) (g : Failure → Act σ α) :
    unlogged (handle x g) = handle (unlogged x) fun e => unlogged (g e) := by
  funext s
  cases h : x s with
  | mk result state trace logs => cases result <;> simp [unlogged, handle, h]

theorem unlogged_each (xs : List β) (f : β → Act σ Unit) :
    unlogged (each xs f) = each xs fun x => unlogged (f x) := by
  induction xs with
  | nil => rfl
  | cons x xs ih => simp only [each, unlogged_bind, ih]

end Act
end Walkthrough
