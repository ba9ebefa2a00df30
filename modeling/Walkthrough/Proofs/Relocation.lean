import Mathlib.Data.List.Pairwise
import Walkthrough.Proofs.Spelling

/-!
Documents under other spellings. Where the members of an object keep their places and their values
but spell the same fields by other keys, a model reads the same from both, or finds the same
problems in both, each at the place that the renaming carries it to.
-/
namespace Walkthrough.Schema

open Checked

variable {α β : Type}

/-- A place in one document as it is in another one with the same parts: each key is the key of the
same member there. -/
def relocate : List Place → Json → Json → List Place
  | .key k :: rest, .obj ms, .obj ms' =>
    match (ms.zip ms').find? fun m => m.1.1 == k with
    | some (m, m') => .key m'.1 :: relocate rest m.2 m'.2
    | none => .key k :: rest
  | .item n :: rest, .arr vs, .arr vs' =>
    match (vs.zip vs')[n]? with
    | some (v, v') => .item n :: relocate rest v v'
    | none => .item n :: rest
  | place, _, _ => place

theorem relocate_nil (v v' : Json) : relocate [] v v' = [] := by
  cases v <;> rfl

theorem eq_of_mem_zip_self {as : List α} {p : α × α} (h : p ∈ as.zip as) : p.1 = p.2 := by
  induction as with
  | nil => cases h
  | cons a as ih =>
    rcases List.mem_cons.mp h with rfl | h
    · rfl
    · exact ih h

/-- A document carries its places to themselves. -/
theorem relocate_self (place : List Place) (v : Json) : relocate place v v = place := by
  induction place generalizing v with
  | nil => exact relocate_nil v v
  | cons p rest ih =>
    cases p with
    | key k =>
      cases v with
      | obj ms =>
        unfold relocate
        split
        · rename_i m m' hfound
          obtain rfl : m = m' := eq_of_mem_zip_self (List.mem_of_find?_eq_some hfound)
          have hkey := List.find?_some hfound
          rw [ih, eq_of_beq hkey]
        · rfl
      | _ => rfl
    | item n =>
      cases v with
      | arr vs =>
        unfold relocate
        split
        · rename_i v v' hfound
          obtain rfl : v = v' := eq_of_mem_zip_self (List.mem_of_getElem? hfound)
          rw [ih]
        · rfl
      | _ => rfl

/-- The problem with its place changed. -/
def Problem.moved (g : List Place → List Place) (p : Problem) : Problem :=
  { p with place := g p.place }

theorem map_moved_eq_self {g : List Place → List Place} (h : ∀ place, g place = place)
    (ps : List Problem) : ps.map (·.moved g) = ps := by
  refine (List.map_congr_left fun p _ => ?_).trans (List.map_id ps)
  exact congrArg (Problem.mk · p.fault) (h p.place)

namespace Checked

variable {g g' : List Place → List Place}

/-- The problems with their places changed. -/
def moved (g : List Place → List Place) : Checked α → Checked α
  | good a => good a
  | bad ps => bad (ps.map (·.moved g))

theorem moved_map (f : α → β) (x : Checked α) : (f <$> x).moved g = f <$> x.moved g := by
  cases x <;> rfl

theorem moved_seq (f : Checked (α → β)) (x : Checked α) :
    (f <*> x).moved g = f.moved g <*> x.moved g := by
  cases f with
  | good f => cases x <;> rfl
  | bad ps =>
    cases x with
    | good a => rfl
    | bad qs => exact congrArg bad List.map_append

theorem moved_andThen {f : α → Checked β} (hf : ∀ a, (f a).moved g = f a) (x : Checked α) :
    (x.andThen f).moved g = (x.moved g).andThen f := by
  cases x with
  | good a => exact hf a
  | bad ps => rfl

theorem moved_under {p p' : Place} (h : ∀ place, g (p :: place) = p' :: g' place)
    (x : Checked α) : (x.under p).moved g = (x.moved g').under p' := by
  cases x with
  | good a => rfl
  | bad ps =>
    refine congrArg bad ?_
    rw [List.map_map, List.map_map]
    exact List.map_congr_left fun q _ => congrArg (Problem.mk · q.fault) (h q.place)

theorem moved_fail (h : g [] = []) (fault : Fault) :
    (fail fault : Checked α).moved g = fail fault :=
  congrArg (fun place => bad [⟨place, fault⟩]) h

theorem moved_require (h : g [] = []) (condition : Bool) (message : String) (a : α) :
    (require condition message a).moved g = require condition message a := by
  cases condition with
  | true => rfl
  | false => exact moved_fail h _

theorem moved_eq_self (h : ∀ place, g place = place) (x : Checked α) : x.moved g = x := by
  cases x with
  | good a => rfl
  | bad ps => exact congrArg bad (map_moved_eq_self h ps)

end Checked

/-- A reader makes the same of two values, or finds the same problems in the same parts. -/
def Agrees (read : Json → Checked α) (v v' : Json) : Prop :=
  read v' = (read v).moved fun place => relocate place v v'

theorem Agrees.refl (read : Json → Checked α) (v : Json) : Agrees read v v :=
  (moved_eq_self (fun place => relocate_self place v) (read v)).symm

theorem Agrees.of_eq {v v' : Json} (h : v = v') (read : Json → Checked α) : Agrees read v v' :=
  h ▸ Agrees.refl read v

theorem moved_itemsFrom {read : Json → Checked α} {vs vs' : List Json}
    (h : List.Forall₂ (Agrees read) vs vs') {g : List Place → List Place} {n : Nat}
    (hg : ∀ i v v', (vs.zip vs')[i]? = some (v, v') → ∀ place,
      g (.item (n + i) :: place) = .item (n + i) :: relocate place v v') :
    itemsFrom read n vs' = (itemsFrom read n vs).moved g := by
  -- on the items; behind the first one, each stands one further on
  induction h generalizing n with
  | nil => rfl
  | @cons v v' vs vs' hv _ ih =>
    have hrest : itemsFrom read (n + 1) vs' = (itemsFrom read (n + 1) vs).moved g := by
      refine ih fun i v v' hi place => ?_
      rw [Nat.add_assoc, Nat.add_comm 1]
      exact hg (i + 1) v v' hi place
    have hfirst : (read v').under (.item n) = ((read v).under (.item n)).moved g := by
      have hplace : ∀ place, g (.item n :: place) = .item n :: relocate place v v' := hg 0 v v' rfl
      rw [moved_under hplace]
      exact congrArg (under (.item n)) hv
    unfold itemsFrom
    rw [moved_seq, moved_map, hfirst, hrest]

theorem Agrees.list {read : Json → Checked α} {vs vs' : List Json}
    (h : List.Forall₂ (Agrees read) vs vs') : Agrees (list read) (.arr vs) (.arr vs') := by
  refine moved_itemsFrom h fun i v v' hi place => ?_
  simp only [relocate, Nat.zero_add, hi]

/-- A member of two objects: it spells none of the fields, or it spells one of them in both, with
values that are alike for that field. -/
inductive Respelled (fields : List Field) (alike : Field → Json → Json → Prop) :
    String × Json → String × Json → Prop
  | unknown {m} (hnone : ∀ f ∈ fields, m.1 ∉ f.spellings) : Respelled fields alike m m
  | spelled {f k k' v v'} (hf : f ∈ fields) (hk : k ∈ f.spellings) (hk' : k' ∈ f.spellings)
    (hv : alike f v v') : Respelled fields alike (k, v) (k', v')

/-- Members that spell each field at most once, and the same members under other spellings. -/
structure Respelling (fields : List Field) (alike : Field → Json → Json → Prop)
    (ms ms' : Members) : Prop where
  members : List.Forall₂ (Respelled fields alike) ms ms'
  once : ms.Pairwise fun m m₁ => ∀ f ∈ fields, m.1 ∈ f.spellings → m₁.1 ∉ f.spellings

/-- Two values of which the second is the first one, or has the first one's members respelled. -/
inductive ModelRespelled (fields : List Field) (alike : Field → Json → Json → Prop) :
    Json → Json → Prop
  | same (v) : ModelRespelled fields alike v v
  | members {ms ms'} (h : Respelling fields alike ms ms') :
    ModelRespelled fields alike (.obj ms) (.obj ms')

section Respelling

variable {fields : List Field} {alike : Field → Json → Json → Prop} {ms ms' : Members}
  {f : Field} {m m' : String × Json} {p q : (String × Json) × (String × Json)}

/-- The only member that spells a field is found for it. -/
theorem Field.find?_of_unique (hm : m ∈ ms) (hspells : m.1 ∈ f.spellings)
    (hunique : ∀ m₁ ∈ ms, m₁.1 ∈ f.spellings → m₁ = m) : f.find? ms = some m := by
  obtain ⟨w, hw⟩ := Members.exists_of_mem_keys (List.mem_map_of_mem hm)
  have hm' : (m.1, w) = m := hunique (m.1, w) (Members.mem_of_get? hw) hspells
  rw [← hm']
  refine Field.find?_of_only hspells hw fun other hother hspells' => ?_
  obtain ⟨m₁, hm₁, rfl⟩ := List.mem_map.mp hother
  rw [hunique m₁ hm₁ hspells']

theorem Respelled.spells_iff (hfields : Unambiguous fields) (h : Respelled fields alike m m')
    (hf : f ∈ fields) : m'.1 ∈ f.spellings ↔ m.1 ∈ f.spellings := by
  cases h with
  | unknown hnone => exact Iff.rfl
  | spelled hf₁ hk hk' hv =>
    -- A key of the field that both spell is no key of any other.
    constructor
    · intro hspells
      rwa [hfields f hf _ hf₁ _ hspells hk']
    · intro hspells
      rwa [hfields f hf _ hf₁ _ hspells hk]

namespace Respelling

variable (hfields : Unambiguous fields) (h : Respelling fields alike ms ms')
include h

theorem of_mem_zip (hp : p ∈ ms.zip ms') : Respelled fields alike p.1 p.2 :=
  (List.forall₂_iff_zip.mp h.members).2 hp

theorem map_fst_zip : (ms.zip ms').map Prod.fst = ms :=
  List.map_fst_zip (Nat.le_of_eq h.members.length_eq)

theorem map_snd_zip : (ms.zip ms').map Prod.snd = ms' :=
  List.map_snd_zip (Nat.le_of_eq h.members.length_eq.symm)

theorem exists_left (hm : m ∈ ms) : ∃ p ∈ ms.zip ms', p.1 = m := by
  rw [← h.map_fst_zip] at hm
  exact List.mem_map.mp hm

theorem exists_right (hm : m' ∈ ms') : ∃ p ∈ ms.zip ms', p.2 = m' := by
  rw [← h.map_snd_zip] at hm
  exact List.mem_map.mp hm

/-- Members in one place are the only ones that spell their field. -/
theorem unique (hf : f ∈ fields) (hp : p ∈ ms.zip ms') (hq : q ∈ ms.zip ms')
    (hspells : p.1.1 ∈ f.spellings) (hspells' : q.1.1 ∈ f.spellings) : q = p := by
  have honce : (ms.zip ms').Pairwise fun p q => p.1.1 ∈ f.spellings → q.1.1 ∉ f.spellings := by
    have hfirst := h.once
    rw [← h.map_fst_zip, List.pairwise_map] at hfirst
    exact hfirst.imp fun hne => hne f hf
  have hunique : (ms.zip ms').Pairwise fun p q =>
      p.1.1 ∈ f.spellings → q.1.1 ∈ f.spellings → q = p :=
    honce.imp fun hne hs hs' => absurd hs' (hne hs)
  have hunique' : (ms.zip ms').Pairwise fun q p =>
      p.1.1 ∈ f.spellings → q.1.1 ∈ f.spellings → q = p :=
    honce.imp fun hne hs hs' => absurd hs (hne hs')
  exact hunique.forall_of_forall_of_flip (fun _ _ _ _ => rfl) hunique' hp hq hspells hspells'

include hfields

/-- Members in one place that spell a field are found for it on both sides. -/
theorem find?_of_mem (hf : f ∈ fields) (hp : p ∈ ms.zip ms') (hspells : p.1.1 ∈ f.spellings) :
    f.find? ms = some p.1 ∧ f.find? ms' = some p.2 := by
  have hiff : ∀ q ∈ ms.zip ms', q.2.1 ∈ f.spellings ↔ q.1.1 ∈ f.spellings :=
    fun q hq => (h.of_mem_zip hq).spells_iff hfields hf
  constructor
  · refine Field.find?_of_unique (List.of_mem_zip hp).1 hspells fun m hm hm' => ?_
    obtain ⟨q, hq, rfl⟩ := h.exists_left hm
    rw [h.unique hf hp hq hspells hm']
  · refine Field.find?_of_unique (List.of_mem_zip hp).2 ((hiff p hp).mpr hspells) fun m hm hm' => ?_
    obtain ⟨q, hq, rfl⟩ := h.exists_right hm
    rw [h.unique hf hp hq hspells ((hiff q hq).mp hm')]

/-- A field is found on both sides, under keys in the same place and with values that are alike, or
on neither. -/
theorem find?_cases (hf : f ∈ fields) :
    (f.find? ms = none ∧ f.find? ms' = none) ∨ ∃ k v k' v', f.find? ms = some (k, v) ∧
      f.find? ms' = some (k', v') ∧ alike f v v' ∧ ∀ place,
        relocate (.key k :: place) (.obj ms) (.obj ms') = .key k' :: relocate place v v' := by
  by_cases hsome : ∃ p ∈ ms.zip ms', p.1.1 ∈ f.spellings
  · right
    obtain ⟨⟨⟨k, v⟩, ⟨k', v'⟩⟩, hp, hspells⟩ := hsome
    obtain ⟨hfound, hfound'⟩ := h.find?_of_mem hfields hf hp hspells
    refine ⟨k, v, k', v', hfound, hfound', ?_, fun place => ?_⟩
    · cases h.of_mem_zip hp with
      | unknown hnone => exact absurd hspells (hnone f hf)
      | spelled hf₁ hk hk' hv => rwa [hfields f hf _ hf₁ k hspells hk]
    · have hplace : ((ms.zip ms').find? fun m => m.1.1 == k) = some ((k, v), (k', v')) := by
        cases hq : (ms.zip ms').find? fun m => m.1.1 == k with
        | none => simpa using List.find?_eq_none.mp hq _ hp
        | some q =>
          have hkey := List.find?_some hq
          have hspells' : q.1.1 ∈ f.spellings := by rwa [eq_of_beq hkey]
          rw [h.unique hf hp (List.mem_of_find?_eq_some hq) hspells hspells']
      simp only [relocate, hplace]
  · left
    have hnone : ∀ p ∈ ms.zip ms', p.1.1 ∉ f.spellings := fun p hp hs => hsome ⟨p, hp, hs⟩
    constructor
    · refine Field.find?_eq_none.mpr fun key hkey => ?_
      obtain ⟨m, hm, rfl⟩ := List.mem_map.mp hkey
      obtain ⟨p, hp, rfl⟩ := h.exists_left hm
      exact hnone p hp
    · refine Field.find?_eq_none.mpr fun key hkey => ?_
      obtain ⟨m, hm, rfl⟩ := List.mem_map.mp hkey
      obtain ⟨p, hp, rfl⟩ := h.exists_right hm
      exact ((h.of_mem_zip hp).spells_iff hfields hf).not.mpr (hnone p hp)

theorem spells_left (hp : p ∈ ms.zip ms') :
    spells fields ms p.1.1 = true ↔ ∃ f ∈ fields, p.1.1 ∈ f.spellings := by
  rw [spells_eq_true]
  constructor
  · rintro ⟨f, hf, v, hv⟩
    exact ⟨f, hf, (Field.of_find? hv).1⟩
  · rintro ⟨f, hf, hspells⟩
    exact ⟨f, hf, p.1.2, (h.find?_of_mem hfields hf hp hspells).1⟩

theorem spells_right (hp : p ∈ ms.zip ms') :
    spells fields ms' p.2.1 = true ↔ ∃ f ∈ fields, p.1.1 ∈ f.spellings := by
  rw [spells_eq_true]
  constructor
  · rintro ⟨f, hf, v, hv⟩
    exact ⟨f, hf, ((h.of_mem_zip hp).spells_iff hfields hf).mp (Field.of_find? hv).1⟩
  · rintro ⟨f, hf, hspells⟩
    exact ⟨f, hf, p.2.2, (h.find?_of_mem hfields hf hp hspells).2⟩

/-- The keys that are left over are the same. -/
theorem filter_keys_eq : (ms'.keys.filter fun k => !spells fields ms' k) =
    ms.keys.filter fun k => !spells fields ms k := by
  have hkeys : ms.keys = (ms.zip ms').map fun p => p.1.1 := by
    unfold Members.keys
    conv_lhs => rw [← h.map_fst_zip, List.map_map]
    rfl
  have hkeys' : ms'.keys = (ms.zip ms').map fun p => p.2.1 := by
    unfold Members.keys
    conv_lhs => rw [← h.map_snd_zip, List.map_map]
    rfl
  have hsame : ∀ p ∈ ms.zip ms', (!spells fields ms' p.2.1) = !spells fields ms p.1.1 := by
    intro p hp
    have hiff := (h.spells_right hfields hp).trans (h.spells_left hfields hp).symm
    rw [Bool.eq_iff_iff.mpr hiff]
  rw [hkeys, hkeys', List.filter_map, List.filter_map]
  calc ((ms.zip ms').filter ((fun k => !spells fields ms' k) ∘ fun p => p.2.1)).map (fun p => p.2.1)
      = ((ms.zip ms').filter ((fun k => !spells fields ms k) ∘ fun p => p.1.1)).map
          fun p => p.2.1 := congrArg _ (List.filter_congr hsame)
    _ = ((ms.zip ms').filter ((fun k => !spells fields ms k) ∘ fun p => p.1.1)).map
          fun p => p.1.1 := by
      refine List.map_congr_left ?_
      rintro ⟨m, m'⟩ hp
      obtain ⟨hp, hspells⟩ := List.mem_filter.mp hp
      have hnone : ¬ ∃ f ∈ fields, m.1 ∈ f.spellings := by
        rw [← h.spells_left hfields hp]
        simpa using hspells
      cases h.of_mem_zip hp with
      | unknown => rfl
      | spelled hf hk hk' hv => exact absurd ⟨_, hf, hk⟩ hnone

end Respelling

/-- A key that no member has stays where it is. -/
theorem relocate_absent {k : String} (hnone : k ∉ ms.keys) (place : List Place) (v : Json) :
    relocate (.key k :: place) (.obj ms) v = .key k :: place := by
  cases v with
  | obj ms' =>
    unfold relocate
    split
    · rename_i m m' hfound
      have hkey := List.find?_some hfound
      have hm : m.1 ∈ ms.keys :=
        List.mem_map_of_mem (List.of_mem_zip (List.mem_of_find?_eq_some hfound)).1
      exact absurd (eq_of_beq hkey ▸ hm) hnone
    · rfl
  | _ => rfl

/-- A key that spells no field stays where it is. -/
theorem Respelling.relocate_unknown (h : Respelling fields alike ms ms') {k : String}
    (hnone : ∀ f ∈ fields, k ∉ f.spellings) (place : List Place) :
    relocate (.key k :: place) (.obj ms) (.obj ms') = .key k :: place := by
  unfold relocate
  split
  · rename_i m m' hfound
    have hkey := List.find?_some hfound
    obtain rfl : m.1 = k := eq_of_beq hkey
    cases h.of_mem_zip (List.mem_of_find?_eq_some hfound) with
    | unknown => rw [relocate_self]
    | spelled hf hk hk' hv => exact absurd hk (hnone _ hf)
  · rfl

/-- A reader makes the same of the members of two objects, or finds the same problems in the same
parts. -/
def AgreesOn (read : Members → Checked α) (ms ms' : Members) : Prop :=
  read ms' = (read ms).moved fun place => relocate place (.obj ms) (.obj ms')

namespace AgreesOn

variable {read : Members → Checked α}

theorem map (f : α → β) (h : AgreesOn read ms ms') : AgreesOn (fun ms => f <$> read ms) ms ms' := by
  unfold AgreesOn
  dsimp only
  rw [moved_map, h]

theorem seq {reads : Members → Checked (α → β)} (hf : AgreesOn reads ms ms')
    (hx : AgreesOn read ms ms') : AgreesOn (fun ms => reads ms <*> read ms) ms ms' := by
  unfold AgreesOn
  dsimp only
  rw [moved_seq, hf, hx]

theorem good (a : α) : AgreesOn (fun _ => good a) ms ms' := rfl

theorem andThen {f : α → Checked β} (h : AgreesOn read ms ms')
    (hf : ∀ g : List Place → List Place, g [] = [] → ∀ a, (f a).moved g = f a) :
    AgreesOn (fun ms => (read ms).andThen f) ms ms' := by
  unfold AgreesOn
  dsimp only
  rw [moved_andThen (hf _ (relocate_nil _ _)), h]

theorem submodel (h : AgreesOn read ms ms') : Agrees (submodel read) (.obj ms) (.obj ms') := h

end AgreesOn

namespace Respelling

variable (hfields : Unambiguous fields) (h : Respelling fields alike ms ms')
include hfields h

theorem optional (hf : f ∈ fields) {read : Json → Checked α}
    (hread : ∀ v v', alike f v v' → Agrees read v v') (default : α) :
    AgreesOn (f.optional read default) ms ms' := by
  unfold AgreesOn Field.optional
  obtain ⟨hnone, hnone'⟩ | ⟨k, v, k', v', hfound, hfound', hv, hplace⟩ := h.find?_cases hfields hf
  · rw [hnone, hnone']
    rfl
  · rw [hfound, hfound']
    exact (congrArg (under (.key k')) (hread v v' hv)).trans (moved_under hplace (read v)).symm

theorem required (hf : f ∈ fields) {read : Json → Checked α}
    (hread : ∀ v v', alike f v v' → Agrees read v v') : AgreesOn (f.required read) ms ms' := by
  unfold AgreesOn Field.required
  obtain ⟨hnone, hnone'⟩ | ⟨k, v, k', v', hfound, hfound', hv, hplace⟩ := h.find?_cases hfields hf
  · have hname : f.name ∉ ms.keys :=
      fun hkey => Field.find?_eq_none.mp hnone f.name hkey List.mem_cons_self
    rw [hnone, hnone', moved_under (relocate_absent hname · _), moved_fail rfl]
  · rw [hfound, hfound']
    exact (congrArg (under (.key k')) (hread v v' hv)).trans (moved_under hplace (read v)).symm

theorem noOthers : AgreesOn (noOthers fields) ms ms' := by
  have hstay : ∀ k ∈ ms.keys.filter fun k => !spells fields ms k,
      relocate [.key k] (.obj ms) (.obj ms') = [.key k] := by
    intro k hk
    obtain ⟨hk, hspells⟩ := List.mem_filter.mp hk
    obtain ⟨m, hm, rfl⟩ := List.mem_map.mp hk
    obtain ⟨p, hp, rfl⟩ := h.exists_left hm
    refine h.relocate_unknown (fun f hf hs => ?_) []
    rw [(h.spells_left hfields hp).mpr ⟨f, hf, hs⟩] at hspells
    cases hspells
  unfold AgreesOn Schema.noOthers
  rw [h.filter_keys_eq hfields]
  split
  · rfl
  · refine congrArg bad ?_
    rw [List.map_map]
    exact List.map_congr_left fun k hk => congrArg (Problem.mk · .unknownKey) (hstay k hk).symm

/-- A model reads the same from members under other spellings. -/
theorem model {read : Members → Checked α} (hread : AgreesOn read ms ms') :
    AgreesOn (model fields read) ms ms' :=
  (hread.map _).seq (h.noOthers hfields)

end Respelling

end Respelling

/-- Two steps on the way to a part: the same, or keys that a relation holds of. -/
inductive Place.Renamed (P : String → String → Prop) : Place → Place → Prop
  | same (p) : Renamed P p p
  | key {k k'} (h : P k k') : Renamed P (.key k) (.key k')

/-- A place that is carried from one document to the other differs in renamed keys at most. -/
def Renames (P : String → String → Prop) (v v' : Json) : Prop :=
  ∀ place, List.Forall₂ (Place.Renamed P) place (relocate place v v')

section Renames

variable {P : String → String → Prop} {fields : List Field} {alike : Field → Json → Json → Prop}

theorem forall₂_renamed_refl (place : List Place) :
    List.Forall₂ (Place.Renamed P) place place :=
  List.forall₂_same.mpr fun p _ => .same p

theorem Renames.refl (v : Json) : Renames P v v := by
  intro place
  rw [relocate_self]
  exact forall₂_renamed_refl place

theorem Renames.str (s s' : String) : Renames P (.str s) (.str s') := by
  intro place
  match place with
  | [] => exact .nil
  | .key k :: rest => exact forall₂_renamed_refl _
  | .item n :: rest => exact forall₂_renamed_refl _

theorem Renames.list {vs vs' : List Json} (h : List.Forall₂ (Renames P) vs vs') :
    Renames P (.arr vs) (.arr vs') := by
  intro place
  match place with
  | [] => exact .nil
  | .key k :: rest => exact forall₂_renamed_refl _
  | .item n :: rest =>
    unfold relocate
    split
    · rename_i v v' hfound
      exact .cons (.same _) ((List.forall₂_iff_zip.mp h).2 (List.mem_of_getElem? hfound) rest)
    · exact forall₂_renamed_refl _

theorem Respelling.renames {ms ms' : Members} (h : Respelling fields alike ms ms')
    (hkeys : ∀ f ∈ fields, ∀ k ∈ f.spellings, ∀ k' ∈ f.spellings, P k k')
    (hvalues : ∀ f v v', alike f v v' → Renames P v v') : Renames P (.obj ms) (.obj ms') := by
  intro place
  match place with
  | [] => exact .nil
  | .item n :: rest => exact forall₂_renamed_refl _
  | .key k :: rest =>
    unfold relocate
    split
    · rename_i m m' hfound
      have hkey := List.find?_some hfound
      obtain rfl : m.1 = k := eq_of_beq hkey
      cases h.of_mem_zip (List.mem_of_find?_eq_some hfound) with
      | unknown => exact .cons (.same _) (Renames.refl _ rest)
      | spelled hf hk hk' hv => exact .cons (.key (hkeys _ hf _ hk _ hk')) (hvalues _ _ _ hv rest)
    · exact forall₂_renamed_refl _

end Renames

end Walkthrough.Schema
