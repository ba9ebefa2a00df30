import Walkthrough.Proofs.Handlers

/-! What steps do on a page comes to the same whenever it is done. -/
namespace Walkthrough

variable {α β : Type}

/-- The page at a later time. -/
def Scene.later (d : Int) (s : Scene) : Scene := { s with clock := s.clock + d }

theorem Scene.later_zero (s : Scene) : s.later 0 = s := by
  unfold later
  rw [Int.add_zero]

/-- What comes to the same when it is done later, by as much later. -/
def SameLater (d : Int) (x : Play α) : Prop := Act.Respects (fun s s' => s' = s.later d) x

/-- A handler that comes to the same when it is run later. -/
def Handler.SameLater (d : Int) (h : Handler α) : Prop :=
  ∀ a ctx element, Walkthrough.SameLater d (h.run a ctx element)

/-- Handlers that come to the same whenever they are run. -/
def Plugins.Timeless (p : Plugins) : Prop :=
  ∀ d, p.All (Handler.SameLater d) (Handler.SameLater d)

variable {d : Int}

/-- What is built of acts that come to the same when they are done later does so too. -/
theorem sameLater_closed (d : Int) : Play.Closed (fun _ => True) (SameLater d) where
  toClosedFor := (Act.closed_respects _).closedFor
  supported _ _ := trivial
  mark _ _ _ _ h := ⟨rfl, h⟩
  change f := by
    rintro s _ rfl
    exact ⟨rfl, rfl⟩
  pass ms := by
    rintro s _ rfl
    refine ⟨rfl, ?_⟩
    show ({ s.later d with clock := s.clock + d + ms } : Scene) =
      { s with clock := s.clock + ms + d }
    rw [Int.add_right_comm]
    rfl
  look := by
    rintro α f hf hs s _ rfl
    have hbind : ∀ v : Scene, (Act.bind Act.get f) v = f v v := fun _ => rfl
    have hsame : f (s.later d) = f s := hf s (s.clock + d)
    rw [hbind, hbind, hsame]
    exact hs s s _ rfl

theorem sameLater_zero (x : Play α) : SameLater 0 x := by
  intro s s' h
  rw [Scene.later_zero] at h
  subst h
  exact ⟨rfl, (Scene.later_zero _).symm⟩

theorem Plugins.sameLater_zero (p : Plugins) :
    p.All (Handler.SameLater 0) (Handler.SameLater 0) :=
  ⟨fun x _ s ctx element => Walkthrough.sameLater_zero (x.2.run s ctx element),
    fun x _ c ctx element => Walkthrough.sameLater_zero (x.2.run c ctx element)⟩

namespace Bundled

/-- The handlers of an engine come to the same whenever they are run, if those of its modules do. -/
theorem timeless_build {modules : Plugins.Modules} {names : List String} {p : Plugins}
    (hmodules : ∀ name rs, modules name = some (.offers rs) → ∀ d, ∀ r ∈ rs,
      Plugins.Registers (Handler.SameLater d) (Handler.SameLater d) r)
    (h : Plugins.build registrations modules names = .ok p) : p.Timeless :=
  fun d => all_build (sameLater_closed d) (fun name rs hm => hmodules name rs hm d) h

end Bundled
end Walkthrough
