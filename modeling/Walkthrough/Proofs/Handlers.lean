import Walkthrough.Plugin.Bundled
import Walkthrough.Proofs.Engine
import Walkthrough.Proofs.Plays
import Walkthrough.Proofs.Registry

/-!
Steps and checks with handlers that have a property: it is one of all that they do if it is one of the
single acts that plays are built of. The handlers that come with the engine have it.
-/
namespace Walkthrough

variable {α β : Type}

/-- A handler that has a property whatever it is run on. -/
def Handler.Has (P : Play Unit → Prop) (h : Handler α) : Prop :=
  ∀ a ctx element, P (h.run a ctx element)

/-- No query is kept from failing where all failures are allowed. -/
theorem Query.allowed_of_all (q : Option Query) : ∀ x ∈ q, x.Allowed fun _ => True :=
  fun _ _ => Or.inr fun _ => trivial

section Handlers

variable {P : ∀ {α : Type}, Play α → Prop} {engine : Engine}
  (hP : Play.Closed (fun _ => True) P) (hplugins : engine.plugins.All (Handler.Has P) (Handler.Has P))
include hP hplugins

theorem Step.perform_of_handlers (s : Step) (element : Option Locator) (ctx : Context) :
    P (s.perform engine element ctx) :=
  closed_perform hP element (fun _ => trivial)
    fun _ _ _ _ hfound => hplugins.action hfound s ctx element

theorem Check.run_of_handlers (c : Check) (outer : Option Query) (ctx : Context) :
    P (c.run engine outer ctx) :=
  closed_run hP c ctx (Query.allowed_of_all outer) fun _ element hfound =>
    hP.handle (hplugins.check hfound c ctx element) fun _ _ => hP.fail trivial

/-- What steps do on the page has a property of runs that the acts on the page have. -/
theorem Engine.touches_of_handlers {Q : ∀ {α : Type}, Run α → Prop}
    (hQ : ∀ {α : Type} {x : Play α}, P x → Q (Run.onScene x)) : engine.Touches Q where
  locate query := hQ (Query.steady_locateOptional hP.steady fun x hx =>
    (Query.allowed_of_all query x hx).asks)
  count _ := hQ (Query.steady_count hP.steady (Or.inr fun _ _ => trivial))
  perform s element ctx := hQ (s.perform_of_handlers hP hplugins element ctx)
  pause s := hQ (Step.closed_postWait hP s)
  check c query ctx := hQ (c.run_of_handlers hP hplugins query ctx)

end Handlers

namespace Bundled

variable {P : ∀ {α : Type}, Play α → Prop} (hP : Play.Closed (fun _ => True) P)
include hP

theorem closed_ofExcept (r : Except Failure α) : P (Act.ofExcept r : Play α) :=
  hP.ofExcept fun _ _ => trivial

theorem closed_dragOver (box : Json) (double : Bool) : P (dragOver box double) := by
  refine hP.bind (closed_ofExcept hP _) fun x => hP.bind (closed_ofExcept hP _) fun y => ?_
  split
  · exact Page.closed_call hP _
  · refine hP.bind (Page.closed_call hP _) fun _ => hP.bind (Page.closed_call hP _) fun _ => ?_
    refine hP.bind (closed_ofExcept hP _) fun endX => hP.bind (closed_ofExcept hP _) fun endY => ?_
    exact hP.bind (Page.closed_call hP _) fun _ => Page.closed_call hP _

theorem closed_pressOver (box word : Json) (wordwise : Bool) :
    P (pressOver box word wordwise) := by
  refine hP.bind (closed_ofExcept hP _) fun x => hP.bind (closed_ofExcept hP _) fun y => ?_
  refine hP.bind (Page.closed_call hP _) fun _ => ?_
  split
  · exact Page.closed_call hP _
  · exact hP.each fun _ _ => Page.closed_call hP _

/-- Marking a word whose place is known, or failing where it is not. -/
theorem closed_markWord (box word : Json) (e : Failure) (drag double wordwise : Bool) :
    P (if (!box.truthy) = true then Act.fail e else do
      let x ← Act.ofExcept (box.lookUp "centerX")
      let y ← Act.ofExcept (box.lookUp "centerY")
      Page.mouse (.move x y)
      if drag = true then dragOver box double else pressOver box word wordwise) := by
  split
  · exact hP.fail trivial
  · refine hP.bind (closed_ofExcept hP _) fun x => hP.bind (closed_ofExcept hP _) fun y => ?_
    refine hP.bind (Page.closed_call hP _) fun _ => ?_
    split
    · exact closed_dragOver hP box double
    · exact closed_pressOver hP box word wordwise

theorem closed_selectWord (s : Step) (ctx : Context) (element : Option Locator) :
    P (selectWord s ctx element) := by
  unfold selectWord
  dsimp only
  split
  · exact hP.fail trivial
  · refine hP.bind (closed_ofExcept hP _) fun nth => ?_
    cases element with
    | none =>
      refine hP.bind (hP.pure none) fun root => ?_
      exact hP.bind (Page.steady_findWord hP.steady root _ nth) fun box =>
        closed_markWord hP box _ _ _ _ _
    | some l =>
      refine hP.bind ?_ fun root => ?_
      · exact hP.bind (Locator.steady_target hP.steady l) fun e => hP.pure (some e.name)
      · exact hP.bind (Page.steady_findWord hP.steady root _ nth) fun box =>
          closed_markWord hP box _ _ _ _ _

theorem closed_ifFound (selector : Json) {f : Locator → Play Unit} (hf : ∀ l, P (f l)) :
    P (ifFound selector f) := by
  refine hP.bind (Page.steady_locate hP.steady _) fun l =>
    hP.bind (Locator.steady_count hP.steady l) fun n => ?_
  split
  · exact hf _
  · exact hP.pure ()

/-- Answering a dialog whose elements are known, or failing where they are not. -/
theorem closed_answer (field done : Json) (e : Failure) (text : String) :
    P (if (!field.truthy || !done.truthy) = true then Act.fail e else do
      ifFound field fun l => l.fill text []
      ifFound done fun l => l.click []) := by
  split
  · exact hP.fail trivial
  · refine hP.bind ?_ fun _ => ?_
    · exact closed_ifFound hP field fun l => Locator.steady_edit hP.steady l _ _
    · exact closed_ifFound hP done fun l => Locator.steady_act hP.steady l _

theorem closed_queryResponse (s : Step) (ctx : Context) (element : Option Locator) :
    P (queryResponse s ctx element) := by
  unfold queryResponse
  dsimp only
  split
  · exact hP.bind (hP.pure _) fun selectors => closed_answer hP _ _ _ _
  · split
    · exact hP.bind (hP.fail trivial) fun selectors => closed_answer hP _ _ _ _
    · exact hP.bind (hP.pure _) fun selectors => closed_answer hP _ _ _ _

theorem closed_textNodesPresent (c : Check) (ctx : Context) (element : Option Locator) :
    P (textNodesPresent c ctx element) := by
  cases element with
  | none => exact hP.fail trivial
  | some l =>
    refine hP.bind (closed_ofExcept hP _) fun expected => ?_
    split
    · exact hP.fail trivial
    · refine hP.bind (closed_ofExcept hP _) fun excluded => ?_
      refine hP.bind (Locator.steady_ask hP.steady l _ _) fun found => ?_
      refine hP.bind (closed_ofExcept hP _) fun nodes => ?_
      dsimp only
      split
      · exact hP.pure ()
      · exact hP.fail trivial

theorem closed_registrations :
    ∀ r ∈ registrations, Plugins.Registers (Handler.Has P) (Handler.Has P) r := by
  intro r hr
  simp only [registrations, List.mem_cons, List.not_mem_nil, or_false] at hr
  rcases hr with rfl | rfl | rfl
  · exact closed_selectWord hP
  · exact closed_queryResponse hP
  · exact closed_textNodesPresent hP

/-- The handlers of an engine have a property if those of its modules have it. -/
theorem all_build {modules : Plugins.Modules} {names : List String} {p : Plugins}
    (hmodules : ∀ name rs, modules name = some (.offers rs) →
      ∀ r ∈ rs, Plugins.Registers (Handler.Has P) (Handler.Has P) r)
    (h : Plugins.build registrations modules names = .ok p) :
    p.All (Handler.Has P) (Handler.Has P) :=
  Plugins.all_build hmodules (closed_registrations hP) h

end Bundled
end Walkthrough
