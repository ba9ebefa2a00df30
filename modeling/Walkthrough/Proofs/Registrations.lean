import Mathlib.Data.List.Induction
import Walkthrough.Plugin.Registry

/-!
The use of a registry: handlers are registered in its two tables directly, or by decorators that were
obtained at some time and are applied at another one, until it is frozen. What it answers afterwards is
said by the history of its use alone: the last registration under a name before the first freeze.
-/
namespace Walkthrough

/-- One use of a registry. The decorators for each table are known by their numbers, in the order in
which they were obtained. -/
inductive Use where
  | register (r : Registration)
  | obtainAction (name : String)
  | obtainCheck (name : String)
  | decorateAction (number : Nat) (h : Handler Step)
  | decorateCheck (number : Nat) (h : Handler Check)
  | freeze
  | lookUpAction (name : Option String)
  | lookUpCheck (name : Option String)

/-- What a use gives back. -/
inductive Use.Answer where
  | done
  | action (h : Handler Step)
  | check (h : Handler Check)

/-- A registry with the decorators that were obtained from it, each of which has only kept the name
that it is to register. -/
structure Registry where
  plugins : Plugins := {}
  forActions : List String := []
  forChecks : List String := []

namespace Registry

/-- The registration that is made by a use; a decorator that was never obtained makes none. -/
def registration? (g : Registry) : Use → Option Registration
  | .register r => some r
  | .decorateAction number h => g.forActions[number]?.map fun name => .action name h
  | .decorateCheck number h => g.forChecks[number]?.map fun name => .check name h
  | _ => none

/-- The registry after a registration, which a frozen one refuses. -/
def registering (g : Registry) (r : Registration) : Registry × Except Failure Use.Answer :=
  match g.plugins.register r with
  | .ok plugins => ({ g with plugins }, .ok .done)
  | .error e => (g, .error e)

/-- The registry after a use that registers nothing. -/
def besides (g : Registry) : Use → Registry × Except Failure Use.Answer
  | .obtainAction name => ({ g with forActions := g.forActions ++ [name] }, .ok .done)
  | .obtainCheck name => ({ g with forChecks := g.forChecks ++ [name] }, .ok .done)
  | .freeze => ({ g with plugins := g.plugins.freeze }, .ok .done)
  | .lookUpAction name => (g, (g.plugins.action name).map .action)
  | .lookUpCheck name => (g, (g.plugins.check name).map .check)
  | _ => (g, .ok .done)

/-- The registry after a use, with its answer. -/
def use (g : Registry) (u : Use) : Registry × Except Failure Use.Answer :=
  match g.registration? u with
  | some r => g.registering r
  | none => g.besides u

/-- A new registry after several uses, one behind the other. -/
def after (uses : List Use) : Registry := uses.foldl (fun g u => (g.use u).1) {}

theorem after_concat (uses : List Use) (u : Use) : after (uses ++ [u]) = ((after uses).use u).1 :=
  List.foldl_append

end Registry

namespace Use

/-- The name for which a use obtains a decorator of actions. -/
def obtainsAction? : Use → Option String
  | obtainAction name => some name
  | _ => none

/-- The name for which a use obtains a decorator of checks. -/
def obtainsCheck? : Use → Option String
  | obtainCheck name => some name
  | _ => none

/-- The registration that a use applies when it comes behind others. -/
def applies? (before : List Use) : Use → Option Registration
  | register r => some r
  | decorateAction number h =>
    (before.filterMap obtainsAction?)[number]?.map fun name => .action name h
  | decorateCheck number h =>
    (before.filterMap obtainsCheck?)[number]?.map fun name => .check name h
  | _ => none

/-- Whether a use concerns the table of actions alone. -/
def isOfActions : Use → Bool
  | register (.action _ _) | obtainAction _ | decorateAction _ _ | lookUpAction _ => true
  | _ => false

/-- Whether a use concerns the table of checks alone. -/
def isOfChecks : Use → Bool
  | register (.check _ _) | obtainCheck _ | decorateCheck _ _ | lookUpCheck _ => true
  | _ => false

theorem filterMap_filter {f : Use → Option String} {keep : Use → Bool}
    (h : ∀ u, keep u = false → f u = none) (uses : List Use) :
    (uses.filter keep).filterMap f = uses.filterMap f := by
  have hsame : (fun u => if keep u = true then f u else none) = f := by
    funext u
    cases hu : keep u with
    | true => rfl
    | false => exact (h u hu).symm
  rw [List.filterMap_filter, hsame]

/-- Without the uses that concern actions, registrations of checks are applied just the same. -/
theorem applies?_without_actions {u : Use} (hu : u.isOfActions = false) (before : List Use) :
    u.applies? (before.filter fun v => !v.isOfActions) = u.applies? before := by
  cases u with
  | decorateCheck number h =>
    have hsame : (before.filter fun v => !v.isOfActions).filterMap obtainsCheck? =
        before.filterMap obtainsCheck? := by
      refine filterMap_filter (fun v hv => ?_) before
      cases v <;> first | rfl | cases hv
    simp only [applies?, hsame]
  | decorateAction _ _ => cases hu
  | register _ | obtainAction _ | obtainCheck _ | freeze | lookUpAction _ | lookUpCheck _ => rfl

/-- Without the uses that concern checks, registrations of actions are applied just the same. -/
theorem applies?_without_checks {u : Use} (hu : u.isOfChecks = false) (before : List Use) :
    u.applies? (before.filter fun v => !v.isOfChecks) = u.applies? before := by
  cases u with
  | decorateAction number h =>
    have hsame : (before.filter fun v => !v.isOfChecks).filterMap obtainsAction? =
        before.filterMap obtainsAction? := by
      refine filterMap_filter (fun v hv => ?_) before
      cases v <;> first | rfl | cases hv
    simp only [applies?, hsame]
  | decorateCheck _ _ => cases hu
  | register _ | obtainAction _ | obtainCheck _ | freeze | lookUpAction _ | lookUpCheck _ => rfl

end Use

/-- The handler that a registration puts under a name in the table of actions. -/
def Registration.actionUnder (name : String) : Registration → Option (Handler Step)
  | .action n h => if n = name then some h else none
  | .check _ _ => none

/-- The handler that a registration puts under a name in the table of checks. -/
def Registration.checkUnder (name : String) : Registration → Option (Handler Check)
  | .action _ _ => none
  | .check n h => if n = name then some h else none

namespace Use

variable {u : Use}

theorem checkUnder_of_actions (hu : u.isOfActions = true) (before : List Use) (name : String) :
    (u.applies? before).bind (Registration.checkUnder name) = none := by
  cases u with
  | register r =>
    cases r with
    | action _ _ => rfl
    | check _ _ => cases hu
  | decorateAction number h =>
    simp only [applies?]
    cases (before.filterMap obtainsAction?)[number]? <;> rfl
  | obtainAction _ | lookUpAction _ => rfl
  | obtainCheck _ | decorateCheck _ _ | freeze | lookUpCheck _ => cases hu

theorem actionUnder_of_checks (hu : u.isOfChecks = true) (before : List Use) (name : String) :
    (u.applies? before).bind (Registration.actionUnder name) = none := by
  cases u with
  | register r =>
    cases r with
    | action _ _ => cases hu
    | check _ _ => rfl
  | decorateCheck number h =>
    simp only [applies?]
    cases (before.filterMap obtainsCheck?)[number]? <;> rfl
  | obtainCheck _ | lookUpCheck _ => rfl
  | obtainAction _ | decorateAction _ _ | freeze | lookUpAction _ => cases hu

end Use

/-- A handler is the one of the last registration, of those that say something at all, which was
applied before the first freeze. -/
def LastRegistered {α : Type} (gives : Registration → Option α) (uses : List Use) (a : α) : Prop :=
  ∃ before u later, uses = before ++ u :: later ∧ Use.freeze ∉ before ∧
    (u.applies? before).bind gives = some a ∧
    ∀ between v rest, later = between ++ v :: rest → Use.freeze ∉ between →
      (v.applies? (before ++ u :: between)).bind gives = none

section Last

variable {α : Type} {gives : Registration → Option α} {uses : List Use} {u : Use} {a : α}

theorem Use.ne_freeze_of_applies (h : (u.applies? uses).bind gives = some a) : u ≠ freeze := by
  rintro rfl
  cases h

/-- One more use is the last registration, or it leaves the last one as it was. -/
theorem lastRegistered_concat : LastRegistered gives (uses ++ [u]) a ↔
    Use.freeze ∉ uses ∧ (u.applies? uses).bind gives = some a ∨
    (Use.freeze ∈ uses ∨ (u.applies? uses).bind gives = none) ∧ LastRegistered gives uses a := by
  constructor
  · rintro ⟨before, v, later, huses, hbefore, happlies, hlater⟩
    obtain rfl | ⟨later, u', rfl⟩ := List.eq_nil_or_concat later
    · obtain ⟨rfl, ⟨⟩⟩ := List.append_inj' huses rfl
      exact Or.inl ⟨hbefore, happlies⟩
    · rw [List.concat_eq_append, ← List.cons_append, ← List.append_assoc] at huses
      obtain ⟨rfl, ⟨⟩⟩ := List.append_inj' huses rfl
      refine Or.inr ⟨?_, before, v, later, rfl, hbefore, happlies, fun between x rest hsplit =>
        hlater between x (rest ++ [u]) (by rw [List.concat_eq_append, hsplit]; simp)⟩
      by_cases hfrozen : Use.freeze ∈ later
      · exact Or.inl (by simp [hfrozen])
      · exact Or.inr (hlater later u [] List.concat_eq_append hfrozen)
  · rintro (⟨hbefore, happlies⟩ | ⟨hlast, before, v, later, rfl, hbefore, happlies, hlater⟩)
    · exact ⟨uses, u, [], rfl, hbefore, happlies, by simp⟩
    · refine ⟨before, v, later ++ [u], by simp, hbefore, happlies, fun between x rest hsplit hopen => ?_⟩
      obtain rfl | ⟨rest, u', rfl⟩ := List.eq_nil_or_concat rest
      · obtain ⟨rfl, ⟨⟩⟩ := List.append_inj' hsplit rfl
        refine hlast.resolve_left fun hfrozen => ?_
        rcases List.mem_append.mp hfrozen with hfrozen | hfrozen
        · exact hbefore hfrozen
        · rcases List.mem_cons.mp hfrozen with hfrozen | hfrozen
          · exact Use.ne_freeze_of_applies happlies hfrozen.symm
          · exact hopen hfrozen
      · rw [List.concat_eq_append, ← List.cons_append, ← List.append_assoc] at hsplit
        obtain ⟨rfl, ⟨⟩⟩ := List.append_inj' hsplit rfl
        exact hlater between x rest rfl hopen

/-- Uses that say nothing of what is read may be left out, as long as the others apply the same
without them. -/
theorem lastRegistered_filter {keep : Use → Bool} (hfreeze : keep .freeze = true)
    (hout : ∀ before u, keep u = false → (u.applies? before).bind gives = none)
    (hin : ∀ before u, keep u = true →
      (u.applies? (before.filter keep)).bind gives = (u.applies? before).bind gives) :
    LastRegistered gives (uses.filter keep) a ↔ LastRegistered gives uses a := by
  induction uses using List.reverseRecOn with
  | nil => rfl
  | append_singleton uses u ih =>
    rw [List.filter_append, lastRegistered_concat]
    cases hu : keep u with
    | false =>
      rw [List.filter_cons_of_neg (by simp [hu]), List.filter_nil, List.append_nil, ih, hout uses u hu]
      simp
    | true =>
      rw [List.filter_cons_of_pos hu, List.filter_nil, lastRegistered_concat, hin uses u hu, ih]
      simp [List.mem_filter, hfreeze]

end Last

namespace Plugins

variable {α : Type} {table : List (String × α)} {name : String} {a : α} {p : Plugins}

/-- What stands in a table under a name. -/
def held (table : List (String × α)) (name : String) : Option α :=
  (table.find? (·.1 == name)).map (·.2)

/-- The failure of looking for a name under which there is nothing. -/
def unregistered (kind name : String) : Failure :=
  Failure.engineError .unknownPlugin s!"No custom {kind} registered under '{name}'"
    [("kind", .str kind), ("name", .str name)]

/-- The failure of registering in tables that are frozen. -/
def tooLate : Failure :=
  .state "Plugin registry is frozen; register plugins before the run starts"

theorem held_cons (x : String × α) (table : List (String × α)) (name : String) :
    held (x :: table) name = if x.1 = name then some x.2 else held table name := by
  unfold held
  by_cases h : x.1 = name
  · rw [List.find?_cons_of_pos (by simpa using h), if_pos h]
    rfl
  · rw [List.find?_cons_of_neg (by simpa using h), if_neg h]

/-- An entry that is set stands under its name, and all others stay. -/
theorem held_putEntry (table : List (String × α)) (n : String) (a : α) (name : String) :
    held (putEntry table n a) name = if n = name then some a else held table name := by
  induction table with
  | nil => exact held_cons (n, a) [] name
  | cons x rest ih =>
    unfold putEntry
    by_cases hx : x.1 = n
    · rw [if_pos hx, held_cons, held_cons, hx]
      by_cases hn : n = name <;> simp [hn]
    · rw [if_neg hx, held_cons, held_cons, ih]
      by_cases hn : n = name
      · rw [if_pos hn, if_neg (hn ▸ hx), if_pos hn]
      · rw [if_neg hn, if_neg hn]

theorem lookUp_eq (hname : name ≠ "") (kind : String) : lookUp table kind (some name) =
    match held table name with
    | some a => .ok a
    | none => .error (unregistered kind name) := by
  unfold lookUp held
  simp only [Option.filter_some, hname, ne_eq, not_false_eq_true, decide_true, if_true]
  cases table.find? (·.1 == name) <;> rfl

theorem lookUp_eq_ok (hname : name ≠ "") (kind : String) :
    lookUp table kind (some name) = .ok a ↔ held table name = some a := by
  rw [lookUp_eq hname]
  cases held table name <;> simp

theorem lookUp_eq_unregistered (hname : name ≠ "") (kind : String) :
    lookUp table kind (some name) = .error (unregistered kind name) ↔ held table name = none := by
  rw [lookUp_eq hname]
  cases held table name <;> simp

/-- What is found in a table depends only on what stands in it under a name that is not empty. -/
theorem lookUp_congr {table' : List (String × α)} (h : ∀ name, held table name = held table' name)
    (kind : String) (name : Option String) : lookUp table kind name = lookUp table' kind name := by
  cases name with
  | none => rfl
  | some n =>
    by_cases hn : n = ""
    · subst hn
      rfl
    · rw [lookUp_eq hn, lookUp_eq hn, h n]

theorem register_of_frozen (h : p.frozen = true) (r : Registration) :
    p.register r = .error tooLate := if_pos h

/-- Tables that are not frozen take every registration, in the table that it is for. -/
theorem register_of_open (h : p.frozen = false) (r : Registration) :
    ∃ p', p.register r = .ok p' ∧ p'.frozen = false ∧
      (∀ name, held p'.actions name = (r.actionUnder name).or (held p.actions name)) ∧
      ∀ name, held p'.checks name = (r.checkUnder name).or (held p.checks name) := by
  unfold register
  rw [h]
  cases r with
  | action n handler =>
    refine ⟨_, rfl, rfl, fun name => ?_, fun name => rfl⟩
    rw [held_putEntry, Registration.actionUnder]
    split <;> rfl
  | check n handler =>
    refine ⟨_, rfl, rfl, fun name => rfl, fun name => ?_⟩
    rw [held_putEntry, Registration.checkUnder]
    split <;> rfl

end Plugins

namespace Registry

open Plugins

variable {α : Type} {g : Registry} {uses : List Use} {u : Use} {r : Registration}

theorem registering_of_register {plugins : Plugins} (h : g.plugins.register r = .ok plugins) :
    g.registering r = ({ g with plugins }, .ok .done) := by
  unfold registering
  rw [h]

theorem registering_of_frozen (h : g.plugins.frozen = true) (r : Registration) :
    g.registering r = (g, .error tooLate) := by
  unfold registering
  rw [register_of_frozen h]

theorem use_of_registration (h : g.registration? u = some r) : g.use u = g.registering r := by
  unfold use
  rw [h]

theorem use_of_none (h : g.registration? u = none) : g.use u = g.besides u := by
  unfold use
  rw [h]

theorem besides_tables (g : Registry) (u : Use) :
    (g.besides u).1.plugins.actions = g.plugins.actions ∧
      (g.besides u).1.plugins.checks = g.plugins.checks := by
  cases u <;> exact ⟨rfl, rfl⟩

/-- What is known of a registry besides the entries of its tables: the decorators that were obtained
from it, and whether it is frozen. -/
structure Known (g : Registry) (uses : List Use) : Prop where
  forActions : g.forActions = uses.filterMap Use.obtainsAction?
  forChecks : g.forChecks = uses.filterMap Use.obtainsCheck?
  frozen : g.plugins.frozen = true ↔ Use.freeze ∈ uses

theorem Known.registration? (hg : g.Known uses) (u : Use) :
    g.registration? u = u.applies? uses := by
  cases u <;> simp only [Registry.registration?, Use.applies?, hg.forActions, hg.forChecks]

theorem Known.registering (hg : g.Known uses) (r : Registration) :
    (g.registering r).1.Known uses := by
  cases hf : g.plugins.frozen with
  | true =>
    rw [registering_of_frozen hf]
    exact hg
  | false =>
    obtain ⟨plugins, hok, hstill, -⟩ := register_of_open hf r
    rw [registering_of_register hok]
    refine ⟨hg.forActions, hg.forChecks, ?_⟩
    rw [← hg.frozen, hf, hstill]

theorem Known.besides (hg : g.Known uses) (u : Use) : (g.besides u).1.Known (uses ++ [u]) := by
  obtain ⟨hactions, hchecks, hfrozen⟩ := hg
  cases u <;> constructor <;>
    simp [Registry.besides, Plugins.freeze, Use.obtainsAction?, Use.obtainsCheck?, hactions,
      hchecks, hfrozen]

/-- A use that registers something obtains no decorator and does not freeze. -/
theorem registration?_eq_some (h : g.registration? u = some r) :
    u.obtainsAction? = none ∧ u.obtainsCheck? = none ∧ u ≠ .freeze := by
  cases u with
  | register _ | decorateAction _ _ | decorateCheck _ _ => exact ⟨rfl, rfl, nofun⟩
  | obtainAction _ | obtainCheck _ | freeze | lookUpAction _ | lookUpCheck _ => cases h

theorem Known.use (hg : g.Known uses) (u : Use) : (g.use u).1.Known (uses ++ [u]) := by
  cases hr : g.registration? u with
  | none =>
    rw [use_of_none hr]
    exact hg.besides u
  | some r =>
    rw [use_of_registration hr]
    obtain ⟨haction, hcheck, hfreeze⟩ := registration?_eq_some hr
    obtain ⟨hactions, hchecks, hfrozen⟩ := hg.registering r
    constructor
    · simp [hactions, haction]
    · simp [hchecks, hcheck]
    · simp [hfrozen, hfreeze.symm]

theorem known_after (uses : List Use) : (after uses).Known uses := by
  induction uses using List.reverseRecOn with
  | nil => exact ⟨rfl, rfl, by simp [after]⟩
  | append_singleton uses u ih =>
    rw [after_concat]
    exact ih.use u

/-- What stands in a table after some uses is what was registered there last, for every way of reading
a table and the registrations that are for it. -/
theorem read_after (reads : Registration → Option α) (read : Plugins → Option α) {a : α}
    (hnew : read {} = none)
    (hsame : ∀ p p' : Plugins, p'.actions = p.actions → p'.checks = p.checks → read p' = read p)
    (hregister : ∀ p r p', p.frozen = false → p.register r = .ok p' →
      read p' = (reads r).or (read p)) (uses : List Use) :
    read (after uses).plugins = some a ↔ LastRegistered reads uses a := by
  induction uses using List.reverseRecOn with
  | nil =>
    change read {} = some a ↔ _
    simp [hnew, LastRegistered]
  | append_singleton uses u ih =>
    have hknown := known_after uses
    rw [lastRegistered_concat, after_concat, ← hknown.registration? u, ← hknown.frozen, ← ih]
    cases hr : (after uses).registration? u with
    | none =>
      obtain ⟨hactions, hchecks⟩ := besides_tables (after uses) u
      rw [use_of_none hr, hsame _ _ hactions hchecks]
      simp
    | some r =>
      rw [use_of_registration hr]
      cases hf : (after uses).plugins.frozen with
      | true =>
        rw [registering_of_frozen hf]
        simp
      | false =>
        obtain ⟨plugins, hok, -⟩ := register_of_open hf r
        have hread := hregister _ r plugins hf hok
        rw [registering_of_register hok, hread]
        cases hr : reads r <;> simp [hr]

theorem action_after (uses : List Use) (name : String) (h : Handler Step) :
    held (after uses).plugins.actions name = some h ↔
      LastRegistered (Registration.actionUnder name) uses h := by
  refine read_after (Registration.actionUnder name) (fun p => held p.actions name) rfl
    (fun p p' hactions _ => by rw [hactions]) (fun p r p' hopen hok => ?_) uses
  obtain ⟨p'', hok', -, hactions, -⟩ := register_of_open hopen r
  cases hok.symm.trans hok'
  exact hactions name

theorem check_after (uses : List Use) (name : String) (h : Handler Check) :
    held (after uses).plugins.checks name = some h ↔
      LastRegistered (Registration.checkUnder name) uses h := by
  refine read_after (Registration.checkUnder name) (fun p => held p.checks name) rfl
    (fun p p' _ hchecks => by rw [hchecks]) (fun p r p' hopen hok => ?_) uses
  obtain ⟨p'', hok', -, -, hchecks⟩ := register_of_open hopen r
  cases hok.symm.trans hok'
  exact hchecks name

/-- The table of checks is that of the same history without the uses that concern actions. -/
theorem checks_without_actions (uses : List Use) (name : String) :
    held (after (uses.filter fun u => !u.isOfActions)).plugins.checks name =
      held (after uses).plugins.checks name := by
  refine Option.ext fun h => ?_
  rw [check_after, check_after]
  refine lastRegistered_filter rfl (fun before u hu => ?_) fun before u hu => ?_
  · exact Use.checkUnder_of_actions (by simpa using hu) before name
  · rw [Use.applies?_without_actions (by simpa using hu)]

/-- The table of actions is that of the same history without the uses that concern checks. -/
theorem actions_without_checks (uses : List Use) (name : String) :
    held (after (uses.filter fun u => !u.isOfChecks)).plugins.actions name =
      held (after uses).plugins.actions name := by
  refine Option.ext fun h => ?_
  rw [action_after, action_after]
  refine lastRegistered_filter rfl (fun before u hu => ?_) fun before u hu => ?_
  · exact Use.actionUnder_of_checks (by simpa using hu) before name
  · rw [Use.applies?_without_checks (by simpa using hu)]

theorem lookUpAction_eq_ok {name : Option String} {h : Handler Step} :
    g.use (.lookUpAction name) = (g, .ok (.action h)) ↔ g.plugins.action name = .ok h := by
  change (g, (g.plugins.action name).map Use.Answer.action) = _ ↔ _
  cases g.plugins.action name <;> simp [Except.map]

theorem lookUpAction_eq_error {name : Option String} {e : Failure} :
    g.use (.lookUpAction name) = (g, .error e) ↔ g.plugins.action name = .error e := by
  change (g, (g.plugins.action name).map Use.Answer.action) = _ ↔ _
  cases g.plugins.action name <;> simp [Except.map]

theorem lookUpCheck_eq_ok {name : Option String} {h : Handler Check} :
    g.use (.lookUpCheck name) = (g, .ok (.check h)) ↔ g.plugins.check name = .ok h := by
  change (g, (g.plugins.check name).map Use.Answer.check) = _ ↔ _
  cases g.plugins.check name <;> simp [Except.map]

theorem lookUpCheck_eq_error {name : Option String} {e : Failure} :
    g.use (.lookUpCheck name) = (g, .error e) ↔ g.plugins.check name = .error e := by
  change (g, (g.plugins.check name).map Use.Answer.check) = _ ↔ _
  cases g.plugins.check name <;> simp [Except.map]

/-- Whatever was done with a registry, a name that is not empty leads in each table to the handler that
was registered there last under that name before the first freeze, directly or by a decorator obtained
at any time before; where there is none, it is reported as unknown. What was done for one table makes
no difference to the other. Every registration behind a freeze is refused and changes nothing. -/
theorem answers_last (uses : List Use) :
    let g := after uses
    (∀ name, name ≠ "" →
      (∀ h, g.use (.lookUpAction (some name)) = (g, .ok (.action h)) ↔
        LastRegistered (Registration.actionUnder name) uses h) ∧
      (g.use (.lookUpAction (some name)) = (g, .error (unregistered "action" name)) ↔
        ∀ h, ¬ LastRegistered (Registration.actionUnder name) uses h) ∧
      (∀ h, g.use (.lookUpCheck (some name)) = (g, .ok (.check h)) ↔
        LastRegistered (Registration.checkUnder name) uses h) ∧
      (g.use (.lookUpCheck (some name)) = (g, .error (unregistered "validation" name)) ↔
        ∀ h, ¬ LastRegistered (Registration.checkUnder name) uses h)) ∧
    (∀ name,
      ((after (uses.filter fun u => !u.isOfChecks)).use (.lookUpAction name)).2 =
        (g.use (.lookUpAction name)).2 ∧
      ((after (uses.filter fun u => !u.isOfActions)).use (.lookUpCheck name)).2 =
        (g.use (.lookUpCheck name)).2) ∧
    ∀ u r, u.applies? uses = some r →
      (Use.freeze ∉ uses → (g.use u).2 = .ok .done) ∧
      (Use.freeze ∈ uses → g.use u = (g, .error tooLate)) := by
  intro g
  refine ⟨fun name hname => ⟨fun h => ?_, ?_, fun h => ?_, ?_⟩, fun name => ⟨?_, ?_⟩,
    fun u r hr => ?_⟩
  · rw [lookUpAction_eq_ok, ← action_after]
    exact lookUp_eq_ok hname "action"
  · simp only [lookUpAction_eq_error, ← action_after, ← Option.eq_none_iff_forall_ne_some]
    exact lookUp_eq_unregistered hname "action"
  · rw [lookUpCheck_eq_ok, ← check_after]
    exact lookUp_eq_ok hname "validation"
  · simp only [lookUpCheck_eq_error, ← check_after, ← Option.eq_none_iff_forall_ne_some]
    exact lookUp_eq_unregistered hname "validation"
  · exact congrArg (Except.map Use.Answer.action)
      (lookUp_congr (actions_without_checks uses) "action" name)
  · exact congrArg (Except.map Use.Answer.check)
      (lookUp_congr (checks_without_actions uses) "validation" name)
  · rw [← (known_after uses).registration? u] at hr
    rw [← (known_after uses).frozen, use_of_registration hr, Bool.not_eq_true]
    refine ⟨fun hopen => ?_, fun hfrozen => registering_of_frozen hfrozen r⟩
    obtain ⟨plugins, hok, -⟩ := register_of_open hopen r
    exact congrArg Prod.snd (registering_of_register hok)

/-- A decorator takes the place of a later registration when it is applied behind it, and a decorator
that was obtained before the freeze is of no use afterwards. -/
theorem answers_last_of_decorators :
    let curt : Handler Step := ⟨"curt", fun _ _ _ => Act.pure ()⟩
    let polite : Handler Step := ⟨"polite", fun _ _ _ => Act.pure ()⟩
    let g := after [.obtainAction "greet", .register (.action "greet" curt),
      .decorateAction 0 polite, .obtainAction "greet", .freeze]
    g.use (.lookUpAction (some "greet")) = (g, .ok (.action polite)) ∧
      g.use (.lookUpCheck (some "greet")) = (g, .error (unregistered "validation" "greet")) ∧
      g.use (.decorateAction 1 curt) = (g, .error tooLate) := by
  intro curt polite g
  obtain ⟨hnames, -, hlate⟩ := answers_last [.obtainAction "greet", .register (.action "greet" curt),
    .decorateAction 0 polite, .obtainAction "greet", .freeze]
  obtain ⟨haction, -, -, hcheck⟩ := hnames "greet" (by decide)
  refine ⟨(haction polite).mpr ?_, hcheck.mpr fun h hlast => ?_,
    (hlate (.decorateAction 1 curt) (.action "greet" curt) rfl).2 (by simp)⟩
  · refine ⟨[.obtainAction "greet", .register (.action "greet" curt)], .decorateAction 0 polite,
      [.obtainAction "greet", .freeze], rfl, by simp, rfl, fun between v rest hlater _ => ?_⟩
    obtain rfl | rfl : v = .obtainAction "greet" ∨ v = .freeze := by
      have hv : v ∈ [Use.obtainAction "greet", .freeze] := by rw [hlater]; simp
      simpa using hv
    · rfl
    · rfl
  · cases (check_after _ _ _).mpr hlast

end Registry

end Walkthrough
