import Mathlib.Data.List.Forall2
import Walkthrough.Proofs.Drive
import Walkthrough.Proofs.Registry

/-!
Soft checks. Making a check soft changes nothing until the check fails its assertion, which is then
noted instead of raised. So a step with softer checks does the same up to the first of these.
-/
namespace Walkthrough

/-- A check that may have been made soft. -/
def Check.Softened (c c' : Check) : Prop := c' = c ∨ c' = { c with soft := true }

/-- A step some of whose checks may have been made soft. -/
def Step.Softened (s s' : Step) : Prop :=
  ∃ checks, List.Forall₂ Check.Softened s.checks checks ∧ s' = { s with checks }

/-- Handlers that do not look whether checks are soft. -/
structure Plugins.IgnoresSoft (p : Plugins) : Prop where
  actions : ∀ x ∈ p.actions, ∀ s s', s.Softened s' → x.2.run s' = x.2.run s
  checks : ∀ x ∈ p.checks, ∀ c c', c.Softened c' → x.2.run c' = x.2.run c

section Checks

variable {engine : Engine} {c c' : Check} {cs cs' : List Check} {query : Option Query}
  {ctx : Context} {scene : Scene} {w : Walk} {e : Failure} {n : Nat}

namespace Check

/-- What a check looks at is not as it expects. -/
structure Fails (engine : Engine) (c : Check) (query : Option Query) (ctx : Context)
    (scene : Scene) (e : Failure) : Prop where
  known : c.kind.isKnown = true
  complete : c.checkRequired = .ok ()
  verify : (c.verify engine query ctx scene).result = .error e
  assertion : failedMessage? e = some e.message

theorem failedMessage?_eq_some {message : String} (h : failedMessage? e = some message) :
    e.message = message := by
  unfold failedMessage? at h
  split at h
  · split at h
    · exact Option.some.inj h
    · cases h
  · cases h

/-- Only a failed assertion of a soft check is noted. -/
theorem soften_raised (h : c.soft = false ∨ failedMessage? e = none) : c.soften e = Act.fail e := by
  unfold soften
  rcases h with h | h
  · rw [h]
  · rw [h]
    cases c.soft <;> rfl

/-- Makes sure of what a check needs and looks whether the page is as it expects. -/
def tried (engine : Engine) (c : Check) (query : Option Query) (ctx : Context) : Play Unit :=
  Act.bind (Act.ofExcept c.checkRequired) fun _ => c.verify engine query ctx

/-- What a check of a known kind that gives all it needs comes to. -/
theorem run_eq (hknown : c.kind.isKnown = true) (hcomplete : c.checkRequired = .ok ()) :
    c.run engine query ctx =
      Act.handle (Act.bind (c.verify engine query ctx) fun _ => Act.pure none) c.soften := by
  unfold run
  rw [hknown, hcomplete]
  rfl

theorem run_of_met (hknown : c.kind.isKnown = true) (hcomplete : c.checkRequired = .ok ())
    (h : (c.verify engine query ctx scene).result = .ok ()) :
    c.run engine query ctx scene =
      (Act.pure none (c.verify engine query ctx scene).state).after
        (c.verify engine query ctx scene) := by
  have hbind := Act.bind_of_ok (f := fun _ => (Act.pure none : Play (Option String))) h
  rw [run_eq hknown hcomplete, Act.handle_of_ok (a := none) (by rw [hbind]; rfl), hbind]

/-- When a check is not met, it depends on its error whether it is noted. -/
theorem run_of_unmet (hknown : c.kind.isKnown = true) (hcomplete : c.checkRequired = .ok ())
    (h : (c.verify engine query ctx scene).result = .error e) :
    c.run engine query ctx scene =
      (c.soften e (c.verify engine query ctx scene).state).after
        (c.verify engine query ctx scene) := by
  have hbind := Act.bind_of_error (f := fun _ => (Act.pure none : Play (Option String))) h
  rw [run_eq hknown hcomplete, Act.handle_of_error (e := e) (by rw [hbind]), hbind]
  rfl

/-- Whatever a hard check fails with, and whatever any check fails with that is not its assertion,
is the failure of the run. -/
theorem run_raised (hknown : c.kind.isKnown = true)
    (h : (c.tried engine query ctx scene).result = .error e)
    (hraised : c.soft = false ∨ failedMessage? e = none) :
    (c.run engine query ctx scene).result = .error e := by
  unfold tried at h
  cases hcomplete : c.checkRequired with
  | error e' =>
    have he : e' = e := by
      rw [hcomplete] at h
      exact Except.error.inj h
    unfold run
    rw [hknown, hcomplete, he]
    rfl
  | ok _ =>
    have hverify : (c.verify engine query ctx scene).result = .error e := by
      rw [hcomplete] at h
      exact h
    rw [run_of_unmet hknown hcomplete hverify, soften_raised hraised]
    rfl

theorem Softened.eq_or (h : c.Softened c') : c' = c ∨ c.soft = false ∧ c' = { c with soft := true } := by
  rcases h with rfl | rfl
  · exact Or.inl rfl
  · cases hsoft : c.soft with
    | true =>
      refine Or.inl ?_
      rw [← hsoft]
    | false => exact Or.inr ⟨rfl, rfl⟩

theorem verify_softened (hplugins : engine.plugins.IgnoresSoft) (h : c.Softened c')
    (query : Option Query) (ctx : Context) :
    c'.verify engine query ctx = c.verify engine query ctx := by
  have hrun := fun x hx => hplugins.checks x hx c c' h
  rcases h with rfl | rfl
  · rfl
  · by_cases hkind : c.kind = .custom
    · have hhandler : runHandler engine { c with soft := true } query ctx =
          c.runHandler engine query ctx := by
        show Act.bind (Act.ofExcept (engine.plugins.check c.customName)) (fun h =>
            Act.bind (Act.ofExcept (c.scope query ctx)) fun q =>
              Act.bind (Query.locateOptional q) fun element =>
                Act.handle (h.run { c with soft := true } ctx element) fun e =>
                  Act.fail (c.ofHandler e)) = _
        unfold runHandler
        cases hfound : engine.plugins.check c.customName with
        | error e => rfl
        | ok handler =>
          obtain ⟨n, hn⟩ := Plugins.mem_of_lookUp hfound
          have hsame : handler.run { c with soft := true } = handler.run c := hrun _ hn
          calc Act.bind (Act.pure handler) _
              = Act.bind (Act.ofExcept (c.scope query ctx)) fun q =>
                  Act.bind (Query.locateOptional q) fun element =>
                    Act.handle (handler.run { c with soft := true } ctx element) fun e =>
                      Act.fail (c.ofHandler e) := rfl
            _ = _ := by
              rw [hsame]
              rfl
      unfold verify
      rw [if_pos hkind, if_pos hkind, hhandler]
    · unfold verify
      rw [if_neg hkind, if_neg hkind]
      rfl

/-- A check made soft does the same, unless it was hard and fails its assertion. -/
theorem run_softened (hplugins : engine.plugins.IgnoresSoft) (h : c.Softened c')
    (query : Option Query) (ctx : Context) (scene : Scene) :
    c'.run engine query ctx scene = c.run engine query ctx scene ∨
    c.soft = false ∧ c' = { c with soft := true } ∧ ∃ e, c.Fails engine query ctx scene e := by
  have hsame := verify_softened hplugins h query ctx
  obtain rfl | ⟨hhard, rfl⟩ := h.eq_or
  · exact Or.inl rfl
  cases hknown : c.kind.isKnown with
  | false =>
    refine Or.inl ?_
    unfold run
    simp only [hknown]
    rfl
  | true =>
    cases hcomplete : c.checkRequired with
    | error e =>
      have hcomplete' : checkRequired { c with soft := true } = .error e := hcomplete
      refine Or.inl ?_
      unfold run
      rw [hcomplete, hcomplete']
      rfl
    | ok _ =>
      cases hverify : (c.verify engine query ctx scene).result with
      | ok _ =>
        refine Or.inl ?_
        rw [run_of_met hknown hcomplete hverify, run_of_met (c := { c with soft := true }) hknown
          hcomplete (by rw [hsame]; exact hverify), hsame]
      | error e =>
        cases hmessage : failedMessage? e with
        | none =>
          refine Or.inl ?_
          rw [run_of_unmet hknown hcomplete hverify, run_of_unmet (c := { c with soft := true })
            hknown hcomplete (by rw [hsame]; exact hverify), hsame, soften_raised (Or.inr hmessage),
            soften_raised (Or.inr hmessage)]
        | some message =>
          obtain rfl := failedMessage?_eq_some hmessage
          exact Or.inr ⟨hhard, rfl, e, hknown, hcomplete, hverify, hmessage⟩

/-- Check number `n` parts two lists of checks. It is hard in the first and soft in the second, and
it fails its assertion where a run has reached it with the outcome `o`. -/
structure Parts (engine : Engine) (query : Option Query) (ctx : Context) (cs cs' : List Check)
    (n : Nat) (o : Outcome Walk Unit) (c : Check) (e : Failure) : Prop where
  hard : cs[n]? = some c ∧ c.soft = false
  softer : cs'[n]? = some { c with soft := true }
  reached : o.result = .ok ()
  fails : c.Fails engine query ctx o.state.scene e

theorem Parts.reached_by {o p : Outcome Walk Unit} (h : Parts engine query ctx cs cs' n o c e)
    (hok : p.result = .ok ()) (hstate : p.state = o.state) :
    Parts engine query ctx cs cs' n p c e :=
  ⟨h.hard, h.softer, hok, by rw [hstate]; exact h.fails⟩

end Check

namespace Step

theorem runCheck_softened (hplugins : engine.plugins.IgnoresSoft) (h : c.Softened c')
    (query : Option Query) (ctx : Context) (w : Walk) :
    runCheck engine query ctx c' w = runCheck engine query ctx c w ∨
    c.soft = false ∧ c' = { c with soft := true } ∧ ∃ e, c.Fails engine query ctx w.scene e := by
  obtain hsame | hparted := Check.run_softened hplugins h query ctx w.scene
  · have hscene : Run.onScene (c'.run engine query ctx) w = Run.onScene (c.run engine query ctx) w := by
      simp only [Run.onScene, Act.zoom, hsame]
    exact Or.inl (Act.bind_congr_left hscene)
  · exact Or.inr hparted

/-- Where a hard check fails, the check made soft leaves the same state and notes the failure. -/
theorem runCheck_parted (hplugins : engine.plugins.IgnoresSoft) (hhard : c.soft = false)
    (hfails : c.Fails engine query ctx w.scene e) :
    let failed := Act.unlogged (runCheck engine query ctx c) w
    failed.result = .error e ∧
    Act.unlogged (runCheck engine query ctx { c with soft := true }) w =
      (Act.unlogged (Recorder.softFailure e.message) failed.state).after failed := by
  obtain ⟨hknown, hcomplete, hverify, hassertion⟩ := hfails
  have hsame : Check.verify engine { c with soft := true } query ctx = c.verify engine query ctx :=
    Check.verify_softened hplugins (Or.inr rfl) query ctx
  have hrun := Check.run_of_unmet hknown hcomplete hverify
  have hrun' := Check.run_of_unmet (c := { c with soft := true }) hknown hcomplete
    (by rw [hsame]; exact hverify)
  rw [Check.soften_raised (Or.inl hhard)] at hrun
  rw [hsame] at hrun'
  have hfailed : Run.onScene (c.run engine query ctx) w = ⟨.error e,
      { w with scene := (c.verify engine query ctx w.scene).state },
      (c.verify engine query ctx w.scene).trace ++ [],
      (c.verify engine query ctx w.scene).logs ++ []⟩ := by
    simp only [Run.onScene, Act.zoom, hrun]
    rfl
  have hsoften : Check.soften { c with soft := true } e =
      Act.bind (Act.log .warning Check.logName ("Soft validation failed: " ++ e.message))
        fun _ => Act.pure (some e.message) := by
    unfold Check.soften
    rw [hassertion]
    rfl
  have hnoted : Act.unlogged (Run.onScene (Check.run engine { c with soft := true } query ctx)) w =
      ⟨.ok (some e.message), { w with scene := (c.verify engine query ctx w.scene).state },
        (c.verify engine query ctx w.scene).trace ++ [], []⟩ := by
    simp only [Act.unlogged, Run.onScene, Act.zoom, hrun', hsoften]
    rfl
  have hnotes : Act.unlogged (runCheck engine query ctx { c with soft := true }) w =
      (Act.unlogged (Recorder.softFailure e.message)
        { w with scene := (c.verify engine query ctx w.scene).state }).after
        (Act.unlogged (Run.onScene (Check.run engine { c with soft := true } query ctx)) w) := by
    unfold runCheck
    rw [Act.bind_eq, Act.unlogged_bind, Act.bind_of_ok (by rw [hnoted]), hnoted]
  have hfails : Act.unlogged (runCheck engine query ctx c) w = ⟨.error e,
      { w with scene := (c.verify engine query ctx w.scene).state },
      (c.verify engine query ctx w.scene).trace ++ [], []⟩ := by
    unfold runCheck
    rw [Act.bind_eq, Act.unlogged_bind, Act.bind_of_error (e := e) (by simp only [Act.unlogged, hfailed])]
    simp only [Act.unlogged, hfailed]
  intro failed
  have hstate : failed = _ := hfails
  rw [hnotes, hnoted, hstate]
  exact ⟨rfl, rfl⟩

/-- What a step does behind its action and pause: it runs checks. -/
def runChecks (engine : Engine) (query : Option Query) (ctx : Context) (cs : List Check) : Run Unit :=
  Act.each cs (runCheck engine query ctx)

theorem runChecks_cut (cs : List Check) (n : Nat) :
    runChecks engine query ctx cs =
      Act.bind (runChecks engine query ctx (cs.take n)) fun _ =>
        runChecks engine query ctx (cs.drop n) := by
  unfold runChecks
  rw [← Act.each_append, List.take_append_drop]

theorem runChecks_next (hc : cs[n]? = some c) :
    runChecks engine query ctx (cs.take (n + 1)) =
      Act.bind (runChecks engine query ctx (cs.take n)) fun _ => runCheck engine query ctx c := by
  unfold runChecks
  rw [List.take_add_one, hc, Act.each_append]
  congr 1
  funext _
  exact Act.each_singleton c _

/-- Some checks and the same ones made softer do the same, or one of them parts the two. -/
theorem runChecks_softened (hplugins : engine.plugins.IgnoresSoft)
    (h : List.Forall₂ Check.Softened cs cs') (query : Option Query) (ctx : Context) (w : Walk) :
    runChecks engine query ctx cs' w = runChecks engine query ctx cs w ∨
    ∃ n c e, Check.Parts engine query ctx cs cs' n (runChecks engine query ctx (cs.take n) w) c e := by
  induction h generalizing w with
  | nil => exact Or.inl rfl
  | @cons c c' cs cs' hc _ ih =>
    obtain hsame | ⟨hhard, rfl, e, hfails⟩ := runCheck_softened hplugins hc query ctx w
    · cases hres : (runCheck engine query ctx c w).result with
      | error e =>
        refine Or.inl ?_
        unfold runChecks Act.each
        rw [Act.bind_of_error hres, Act.bind_of_error (by rw [hsame]; exact hres), hsame]
      | ok _ =>
        have hnext : ∀ ds, runChecks engine query ctx (c :: ds) w =
            (runChecks engine query ctx ds (runCheck engine query ctx c w).state).after
              (runCheck engine query ctx c w) := fun ds => Act.bind_of_ok hres
        obtain hrest | ⟨n, d, e, hd⟩ := ih (runCheck engine query ctx c w).state
        · refine Or.inl ?_
          calc runChecks engine query ctx (c' :: cs') w
              = runChecks engine query ctx (c :: cs') w := Act.bind_congr_left hsame
            _ = _ := by rw [hnext, hnext, hrest]
        · have hreach : runChecks engine query ctx ((c :: cs).take (n + 1)) w = _ :=
            hnext (cs.take n)
          refine Or.inr ⟨n + 1, d, e, hd.hard, hd.softer, ?_, ?_⟩
          · rw [hreach]
            exact hd.reached
          · rw [hreach]
            exact hd.fails
    · exact Or.inr ⟨0, c, e, ⟨rfl, hhard⟩, rfl, rfl, hfails⟩

/-- A check that parts the two ends the first run. -/
theorem runChecks_parted (hplugins : engine.plugins.IgnoresSoft)
    (h : Check.Parts engine query ctx cs cs' n (runChecks engine query ctx (cs.take n) w) c e) :
    (runChecks engine query ctx cs w).result = .error e := by
  have hfailed : (runChecks engine query ctx (cs.take (n + 1)) w).result = .error e := by
    rw [runChecks_next h.hard.1, Act.bind_of_ok h.reached]
    exact (runCheck_parted hplugins h.hard.2 h.fails).1
  rw [runChecks_cut cs (n + 1), Act.bind_of_error hfailed]

/-- Up to a check that is reached the softer checks do the same. -/
theorem runChecks_take_softened (hplugins : engine.plugins.IgnoresSoft)
    (h : List.Forall₂ Check.Softened cs cs')
    (hreach : (runChecks engine query ctx (cs.take n) w).result = .ok ()) :
    runChecks engine query ctx (cs'.take n) w = runChecks engine query ctx (cs.take n) w := by
  obtain hsame | ⟨m, c, e, hparts⟩ :=
    runChecks_softened hplugins (List.forall₂_take n h) query ctx w
  · exact hsame
  · rw [runChecks_parted hplugins hparts] at hreach
    cases hreach

variable {s s' : Step}

/-- What a step does before its checks. -/
def prepare (engine : Engine) (s : Step) (query : Option Query) (ctx : Context) : Run Unit :=
  Act.bind (Run.onScene (Query.locateOptional query)) fun element =>
    Act.bind (Run.onScene (s.perform engine element ctx)) fun _ => Run.onScene s.postWait

/-- What a step does before its check number `n`. -/
def upTo (engine : Engine) (s : Step) (query : Option Query) (ctx : Context) (n : Nat) : Run Unit :=
  Act.bind (s.prepare engine query ctx) fun _ => runChecks engine query ctx (s.checks.take n)

theorem body_eq (engine : Engine) (s : Step) (query : Option Query) (ctx : Context) :
    s.body engine query ctx =
      Act.bind (s.prepare engine query ctx) fun _ => runChecks engine query ctx s.checks := by
  unfold prepare
  rw [Act.bind_assoc]
  simp only [Act.bind_assoc]
  rfl

theorem body_cut (engine : Engine) (s : Step) (query : Option Query) (ctx : Context) (n : Nat) :
    s.body engine query ctx = Act.bind (s.upTo engine query ctx n) fun _ =>
      runChecks engine query ctx (s.checks.drop n) := by
  rw [body_eq, runChecks_cut s.checks n, upTo, Act.bind_assoc]

theorem upTo_next (hc : s.checks[n]? = some c) :
    s.upTo engine query ctx (n + 1) =
      Act.bind (s.upTo engine query ctx n) fun _ => runCheck engine query ctx c := by
  unfold upTo
  rw [runChecks_next hc, Act.bind_assoc]

/-- A step ends at a check whose error is raised. -/
theorem upTo_raised (hc : s.checks[n]? = some c) (hknown : c.kind.isKnown = true)
    (hreach : (s.upTo engine query ctx n w).result = .ok ())
    (h : (c.tried engine query ctx (s.upTo engine query ctx n w).state.scene).result = .error e)
    (hraised : c.soft = false ∨ Check.failedMessage? e = none) :
    (s.upTo engine query ctx (n + 1) w).result = .error e := by
  have hrun : (Run.onScene (c.run engine query ctx)
      (s.upTo engine query ctx n w).state).result = .error e := Check.run_raised hknown h hraised
  rw [upTo_next hc, Act.bind_of_ok hreach, Outcome.after_result]
  unfold runCheck
  rw [Act.bind_eq, Act.bind_of_error hrun]

theorem prepare_softened (hplugins : engine.plugins.IgnoresSoft) (h : s.Softened s') :
    s'.prepare engine query ctx = s.prepare engine query ctx := by
  have hrun := fun x hx => hplugins.actions x hx s s' h
  obtain ⟨checks, -, rfl⟩ := h
  have hperform : ∀ element, perform engine { s with checks } element ctx =
      s.perform engine element ctx := by
    intro element
    cases s with
    | mk name selector selectorKind waitTime index iterate group options old action =>
      cases action with
      | custom custom data =>
        cases hfound : engine.plugins.action (some custom) with
        | error e =>
          unfold perform
          simp only [hfound]
          rfl
        | ok handler =>
          obtain ⟨n, hn⟩ := Plugins.mem_of_lookUp hfound
          unfold perform
          simp only [hfound, Act.ofExcept, Act.bind_eq, Act.pure_bind]
          rw [hrun _ hn]
      | _ => rfl
  unfold prepare
  simp only [hperform]
  rfl

theorem Softened.checks (h : s.Softened s') : List.Forall₂ Check.Softened s.checks s'.checks := by
  obtain ⟨checks, hchecks, rfl⟩ := h
  exact hchecks

theorem Softened.title (h : s.Softened s') : s'.title = s.title := by
  obtain ⟨checks, -, rfl⟩ := h
  rfl

/-- A step made softer does the same, or a check parts the two. -/
theorem body_softened (hplugins : engine.plugins.IgnoresSoft) (h : s.Softened s')
    (query : Option Query) (ctx : Context) (w : Walk) :
    s'.body engine query ctx w = s.body engine query ctx w ∨
    ∃ n c e, Check.Parts engine query ctx s.checks s'.checks n (s.upTo engine query ctx n w) c e := by
  rw [body_eq, body_eq, prepare_softened hplugins h]
  cases hres : (s.prepare engine query ctx w).result with
  | error e => exact Or.inl (by rw [Act.bind_of_error hres, Act.bind_of_error hres])
  | ok _ =>
    obtain hsame | ⟨n, c, e, hparts⟩ :=
      runChecks_softened hplugins h.checks query ctx (s.prepare engine query ctx w).state
    · exact Or.inl (by rw [Act.bind_of_ok hres, Act.bind_of_ok hres, hsame])
    · have hreach := Act.bind_of_ok (f := fun _ => runChecks engine query ctx (s.checks.take n)) hres
      refine Or.inr ⟨n, c, e, hparts.reached_by ?_ ?_⟩
      · rw [upTo, hreach]
        exact hparts.reached
      · rw [upTo, hreach]
        rfl

theorem upTo_softened (hplugins : engine.plugins.IgnoresSoft) (h : s.Softened s')
    (hreach : (s.upTo engine query ctx n w).result = .ok ()) :
    s'.upTo engine query ctx n w = s.upTo engine query ctx n w := by
  unfold upTo at hreach ⊢
  rw [prepare_softened hplugins h]
  refine Act.bind_congr_right fun _ hprepared => ?_
  rw [Act.bind_of_ok hprepared] at hreach
  exact runChecks_take_softened hplugins h.checks hreach

/-- Where a check parts a step and one made softer, the first fails with its error. The second is
in the same state, notes the failure and goes on. -/
theorem body_parted (hplugins : engine.plugins.IgnoresSoft) (h : s.Softened s')
    (hparts : Check.Parts engine query ctx s.checks s'.checks n (s.upTo engine query ctx n w) c e) :
    let failed := Act.unlogged (s.body engine query ctx) w
    failed.result = .error e ∧
    Act.unlogged (s'.upTo engine query ctx (n + 1)) w =
      (Act.unlogged (Recorder.softFailure e.message) failed.state).after failed := by
  have hok : (Act.unlogged (s.upTo engine query ctx n) w).result = .ok () := hparts.reached
  have hsame : Act.unlogged (s'.upTo engine query ctx n) w =
      Act.unlogged (s.upTo engine query ctx n) w := by
    simp only [Act.unlogged, upTo_softened hplugins h hparts.reached]
  obtain ⟨hfailed, hnoted⟩ := runCheck_parted hplugins hparts.hard.2 hparts.fails
  have hnext : Act.unlogged (s.upTo engine query ctx (n + 1)) w =
      (Act.unlogged (runCheck engine query ctx c)
        (s.upTo engine query ctx n w).state).after (Act.unlogged (s.upTo engine query ctx n) w) := by
    rw [upTo_next hparts.hard.1, Act.unlogged_bind, Act.bind_of_ok hok]
    rfl
  have hbody : Act.unlogged (s.body engine query ctx) w =
      Act.unlogged (s.upTo engine query ctx (n + 1)) w := by
    rw [body_cut engine s query ctx (n + 1), Act.unlogged_bind]
    exact Act.bind_eq_left (e := e) (by rw [hnext]; exact hfailed)
  intro failed
  have hstate : failed = _ := hbody.trans hnext
  rw [hstate]
  refine ⟨hfailed, ?_⟩
  rw [upTo_next hparts.softer, Act.unlogged_bind, Act.bind_of_ok (by rw [hsame]; exact hok), hsame,
    Outcome.after_state, ← Outcome.after_assoc, ← hnoted]
  rfl

/-- The step made softer leaves all that the other one leaves, and notes the failure before any
other one that it comes to. -/
theorem body_noted (hplugins : engine.plugins.IgnoresSoft) (h : s.Softened s')
    (hparts : Check.Parts engine query ctx s.checks s'.checks n (s.upTo engine query ctx n w) c e) :
    let failed := s.body engine query ctx w
    let o := s'.body engine query ctx w
    failed.trace <+: o.trace ∧ ∃ later : List String,
      o.state.recorder = failed.state.recorder.map fun r =>
        (e.message :: later).foldl Recorder.softening r := by
  intro failed o
  obtain ⟨-, hnext⟩ := body_parted hplugins h hparts
  have ho : Act.unlogged (s'.body engine query ctx) w =
      Act.bind (Act.unlogged (s'.upTo engine query ctx (n + 1))) (fun _ =>
        Act.unlogged (runChecks engine query ctx (s'.checks.drop (n + 1)))) w := by
    rw [body_cut engine s' query ctx (n + 1), Act.unlogged_bind]
  have hnoted : (Act.unlogged (s'.upTo engine query ctx (n + 1)) w).state.recorder =
      failed.state.recorder.map fun r => r.softening e.message := by
    rw [hnext]
    exact Recorder.softFailure_recorder e.message failed.state
  refine ⟨?_, ?_⟩
  · have htrace : failed.trace <+: (Act.unlogged (s'.upTo engine query ctx (n + 1)) w).trace := by
      rw [hnext]
      exact List.prefix_append _ _
    refine htrace.trans ?_
    show _ <+: (Act.unlogged (s'.body engine query ctx) w).trace
    rw [ho]
    exact Act.trace_prefix_bind _ _ w
  · have hstate : o.state.recorder = (Act.unlogged (s'.body engine query ctx) w).state.recorder := rfl
    rw [hstate, ho]
    obtain ⟨e', -, -, hlast⟩ | ⟨_, -, hlast⟩ := Act.bind_cases
      (Act.unlogged (s'.upTo engine query ctx (n + 1)))
      (fun _ => Act.unlogged (runChecks engine query ctx (s'.checks.drop (n + 1)))) w
    · exact ⟨[], by rw [hlast, hnoted]; rfl⟩
    · have hrest : Act.Within Walk.Softened (runChecks engine query ctx (s'.checks.drop (n + 1))) :=
        (Act.closed_within _).each fun c _ => Walk.softened_runCheck engine query ctx c
      obtain ⟨later, hlater⟩ := hrest (Act.unlogged (s'.upTo engine query ctx (n + 1)) w).state
      refine ⟨later, ?_⟩
      rw [hlast]
      refine hlater.trans ?_
      rw [hnoted, Option.map_map]
      rfl

end Step
end Checks
end Walkthrough
