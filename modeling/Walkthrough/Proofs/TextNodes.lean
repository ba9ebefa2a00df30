import Mathlib.Data.List.Infix
import Walkthrough.Plugin.Bundled
import Walkthrough.Proofs.Filling
import Walkthrough.Proofs.Result

/-!
Checks that expect texts in the text nodes of an element: the texts that are expected, where they are
looked for, and which of them are reported missing.
-/
namespace Walkthrough

theorem Text.cutAt?_isSome_iff {mark cs : List Char} :
    (Text.cutAt? mark cs).isSome = true ↔ mark <:+: cs := by
  induction cs with
  | nil =>
    rw [Text.cutAt?, List.infix_nil]
    cases mark <;> simp
  | cons c rest ih =>
    rw [Text.cutAt?, List.infix_cons_iff, ← List.isPrefixOf_iff_prefix]
    split
    · rename_i h
      simp [h]
    · rename_i h
      rw [Option.isSome_map, ih]
      simp [h]

theorem containsText_iff {inner outer : String} :
    containsText inner outer = true ↔ inner.toList <:+: outer.toList := Text.cutAt?_isSome_iff

theorem Json.sequenceOrNone_strings (ss : List String) :
    (Json.strings ss).sequenceOrNone = .ok (ss.map Json.str) := by
  cases ss <;> rfl

namespace Element

theorem sizeOf_child {e child : Element} (h : child ∈ e.children) : sizeOf child < sizeOf e := by
  obtain ⟨traits, children, reactions⟩ := e
  have hchild := List.sizeOf_lt_of_mem h
  simp only [Element.children, Element.mk.sizeOf_spec] at hchild ⊢
  omega

/-- What holds of an element whose children all have it holds of every element. -/
theorem induction {motive : Element → Prop}
    (step : ∀ e, (∀ child ∈ e.children, motive child) → motive e) (e : Element) : motive e :=
  step e fun child h =>
    have := sizeOf_child h
    induction step child
termination_by sizeOf e

/-- A text node of an element: one of its own, or one inside a child whose tag is not excluded. -/
inductive HoldsText (excluded : List String) : Element → String → Prop
  | own {e : Element} {t : String} : t ∈ e.traits.textNodes → HoldsText excluded e t
  | inside {e child : Element} {t : String} : child ∈ e.children →
      Text.lower child.traits.tag ∉ excluded → HoldsText excluded child t → HoldsText excluded e t

variable {excluded : List String} {e : Element} {t : String}

theorem mem_textNodesBelow {children : List Element} : t ∈ textNodesBelow excluded children ↔
    ∃ child ∈ children, Text.lower child.traits.tag ∉ excluded ∧ t ∈ child.textNodes excluded := by
  induction children with
  | nil => simp [textNodesBelow]
  | cons child rest ih =>
    obtain ⟨traits, below, reactions⟩ := child
    rw [textNodesBelow, List.mem_append, ih]
    by_cases h : Text.lower traits.tag ∈ excluded <;> simp [h, Element.traits]

theorem mem_textNodes : t ∈ e.textNodes excluded ↔
    t ∈ e.traits.textNodes ∨ ∃ child ∈ e.children, Text.lower child.traits.tag ∉ excluded ∧
      t ∈ child.textNodes excluded := by
  obtain ⟨traits, children, reactions⟩ := e
  rw [textNodes, List.mem_append, mem_textNodesBelow]
  rfl

/-- The texts that are read off an element are its text nodes. -/
theorem mem_textNodes_iff : t ∈ e.textNodes excluded ↔ HoldsText excluded e t := by
  induction e using Element.induction with
  | step e ih =>
    rw [mem_textNodes]
    constructor
    · rintro (h | ⟨child, hchild, htag, h⟩)
      · exact .own h
      · exact .inside hchild htag ((ih child hchild).mp h)
    · rintro (h | ⟨hchild, htag, h⟩)
      · exact Or.inl h
      · exact Or.inr ⟨_, hchild, htag, (ih _ hchild).mpr h⟩

/-- What a script answers that looks for the text nodes of an element: what the page tells of them, or
else those that the element holds. -/
def textsAnswer (e : Element) (excluded : List String) : Json :=
  match e.traits.nodes with
  | some v => v
  | none => .strings (e.textNodes excluded)

/-- The text nodes that are read off the answer. -/
def nodeTexts (e : Element) (excluded : List String) : Except Failure (List String) :=
  (e.textsAnswer excluded).sequenceOrNone.map (·.map Json.display)

theorem nodeTexts_of_tree (h : e.traits.nodes = none) (excluded : List String) :
    e.nodeTexts excluded = .ok (e.textNodes excluded) := by
  unfold nodeTexts textsAnswer
  rw [h]
  dsimp only
  rw [Json.sequenceOrNone_strings, Except.map, List.map_map]
  exact congrArg Except.ok (List.map_id _)

end Element

namespace Bundled

/-- The tags that are excluded where a check names none. -/
def usualTags : List String := ["script", "style", "noscript"]

/-- The texts that the data of a check expects, and the tags that it excludes. -/
inductive Expects : Json → List String → List String → Prop
  | text (s : String) : Expects (.str s) [s] usualTags
  | texts (ss : List String) : Expects (.strings ss) ss usualTags
  | member {ms : Members} {ss : List String} : ms.get? "expected" = some (.strings ss) →
      ms.get? "exclude" = none ∨ ms.get? "exclude" = some .null → Expects (.obj ms) ss usualTags
  | excluding {ms : Members} {ss tags : List String} : ms.get? "expected" = some (.strings ss) →
      ms.get? "exclude" = some (.strings tags) → Expects (.obj ms) ss tags

theorem filter_strings (ss : List String) :
    ((ss.map Json.str).filter fun v => !v.isNull).map Json.display = ss := by
  induction ss with
  | nil => rfl
  | cons s ss ih => simpa [Json.isNull, Json.display] using ih

variable {data : Json} {ss tags : List String} {ms : Members}

theorem expectedTexts_obj {vs : List Json}
    (h : ((ms.get? "expected").getD .null).sequenceOrNone = .ok vs) :
    expectedTexts (.obj ms) = .ok ((vs.filter fun v => !v.isNull).map Json.display) := by
  unfold expectedTexts
  dsimp only
  rw [h]
  rfl

theorem Expects.expectedTexts (h : Expects data ss tags) : expectedTexts data = .ok ss := by
  have hmember : ∀ {ms : Members}, ms.get? "expected" = some (.strings ss) →
      Bundled.expectedTexts (.obj ms) = .ok ss := by
    intro ms hms
    have hlist : ((ms.get? "expected").getD .null).sequenceOrNone = .ok (ss.map Json.str) := by
      rw [hms]
      exact Json.sequenceOrNone_strings ss
    rw [expectedTexts_obj hlist, filter_strings]
  cases h with
  | text s => rfl
  | texts => exact congrArg Except.ok (filter_strings ss)
  | member hms _ => exact hmember hms
  | excluding hms _ => exact hmember hms

theorem Expects.excludedBy (h : Expects data ss tags) :
    excludedBy data = .ok (tags.map Json.str) := by
  cases h with
  | text s => rfl
  | texts => rfl
  | member _ hms =>
    unfold Bundled.excludedBy
    dsimp only
    obtain hms | hms := hms <;> rw [hms] <;> rfl
  | excluding _ hms =>
    unfold Bundled.excludedBy
    dsimp only
    rw [hms]
    rfl

/-- Whether an expected text stands inside of one of several texts. -/
def Stands (ts : List String) (s : String) : Prop := ∃ t ∈ ts, s.toList <:+: t.toList

theorem stands_iff {ts : List String} {s : String} :
    Stands ts s ↔ ts.any (containsText s) = true := by
  simp only [Stands, List.any_eq_true, containsText_iff]

instance (ts : List String) (s : String) : Decidable (Stands ts s) :=
  decidable_of_iff _ stands_iff.symm

theorem decide_stands (ts : List String) (s : String) :
    decide (Stands ts s) = ts.any (containsText s) := by
  rw [Bool.eq_iff_iff, decide_eq_true_iff, stands_iff]

/-- The failure of a check whose expected texts are not all found. -/
def textsMissing (missing : List String) : Failure :=
  .assertion ("Text node(s) not found: " ++ ", ".intercalate (missing.map Text.quoted))

section Verdict

variable {c : Check} {ctx : Context} {l : Locator} {s : Scene} {e : Element} {ts : List String}

theorem textNodes_eq (hfirst : l.first? s.page = some e)
    (haccepts : namedValue? e.traits.errors "text_nodes" = none) (tags : List String) :
    l.textNodes (tags.map Json.str) s = ⟨.ok (e.textsAnswer (tags.map Text.lower)),
      { s with page := l.afterCall (.textNodes (tags.map Json.str)) s.page },
      [.element (.textNodes (tags.map Json.str)) e.name], []⟩ := by
  have hcalled := Locator.call_of_some (c := .textNodes (tags.map Json.str)) hfirst
  rw [show ElementCall.name (.textNodes (tags.map Json.str)) = "text_nodes" from rfl,
    haccepts] at hcalled
  unfold Locator.textNodes Element.textsAnswer
  rw [Act.bind_eq, Act.bind_of_ok (by rw [hcalled]), hcalled]
  dsimp only
  rw [List.map_map]
  rfl

/-- What the check comes to once its data is read and the element has given its texts. -/
theorem textNodesPresent_result (hexpected : expectedTexts c.data = .ok ss) (hss : ss ≠ [])
    (hexcluded : excludedBy c.data = .ok (tags.map Json.str)) (hfirst : l.first? s.page = some e)
    (haccepts : namedValue? e.traits.errors "text_nodes" = none)
    (hnodes : e.nodeTexts (tags.map Text.lower) = .ok ts) :
    (textNodesPresent c ctx (some l) s).result =
      if ∀ s ∈ ss, Stands ts s then .ok ()
      else .error (textsMissing (ss.filter fun s => ¬ Stands ts s)) := by
  obtain ⟨vs, hvs, rfl⟩ := except_map_eq_ok.mp hnodes
  unfold textNodesPresent
  simp only [Act.bind_eq, Act.pure_eq]
  rw [hexpected, Act.bind_of_silent (Act.ofExcept_eq _ _), if_neg (by simpa using hss), hexcluded,
    Act.bind_of_silent (Act.ofExcept_eq _ _),
    Act.bind_of_ok (by rw [textNodes_eq hfirst haccepts]), textNodes_eq hfirst haccepts,
    Outcome.after_result]
  dsimp only
  rw [hvs, Act.bind_of_silent (Act.ofExcept_eq _ _)]
  have hfilter : (ss.filter fun s => !(vs.map Json.display).any (containsText s)) =
      ss.filter fun s => ¬ Stands (vs.map Json.display) s := by
    simp only [decide_not, decide_stands]
  rw [hfilter]
  split
  · rename_i hall
    have hnone : (ss.filter fun s => ¬ Stands (vs.map Json.display) s) = [] :=
      List.filter_eq_nil_iff.mpr fun s hs => by simpa using hall s hs
    rw [hnone]
    rfl
  · rename_i hall
    have hsome : (ss.filter fun s => ¬ Stands (vs.map Json.display) s) ≠ [] := by
      intro hnone
      exact hall fun s hs => by simpa using List.filter_eq_nil_iff.mp hnone s hs
    obtain ⟨first, more, hmissing⟩ := List.exists_cons_of_ne_nil hsome
    rw [hmissing]
    rfl

end Verdict

/-- The check goes by the texts that its data expects and by the tags that it excludes. -/
theorem textNodesPresent_congr {c c' : Check} (h : expectedTexts c.data = expectedTexts c'.data)
    (h' : excludedBy c.data = excludedBy c'.data) (ctx : Context) (element : Option Locator)
    (s : Scene) : textNodesPresent c ctx element s = textNodesPresent c' ctx element s := by
  unfold textNodesPresent
  rw [h, h']

/-- A text in the place of a list is taken for the list of its characters. -/
theorem expectedTexts_letters {x : String} (hx : x ≠ "") :
    expectedTexts (.obj [("expected", .str x)]) = .ok (x.toList.map Char.toString) := by
  have hlist : (((Members.get? [("expected", Json.str x)] "expected").getD .null)).sequenceOrNone =
      .ok ((x.toList.map Char.toString).map Json.str) := by
    have htruthy : (Json.str x).truthy = true := by simpa [Json.truthy] using hx
    simp only [Members.get?, if_true, Option.getD_some, Json.sequenceOrNone, htruthy, Json.sequence]
    rw [List.map_map]
    rfl
  rw [expectedTexts_obj hlist, filter_strings]

theorem stands_letter {ts : List String} {a : Char} :
    Stands ts a.toString ↔ ∃ t ∈ ts, a ∈ t.toList := by
  have halone : a.toString.toList = [a] := by simp [Char.toString]
  simp only [Stands, halone, List.singleton_infix_iff]

theorem letters_of_stands {ts : List String} {x : String} (h : Stands ts x) :
    ∀ a ∈ x.toList, ∃ t ∈ ts, a ∈ t.toList := by
  obtain ⟨t, ht, hx⟩ := h
  exact fun a ha => ⟨t, ht, hx.subset ha⟩

/-- A check for text nodes passes just if every expected text stands in one of those outside of the
excluded tags, and names else those that do not, in order. One text can be written alone, as a list or
as a member that is a list; a member that is the text itself asks for its characters one by one, which
comes to the same just where these are not all to be found without the text. -/
theorem textNodesPresent_verdict (c : Check) (ctx : Context) {l : Locator} {s : Scene} {e : Element}
    (hfirst : l.first? s.page = some e)
    (haccepts : namedValue? e.traits.errors "text_nodes" = none) :
    let verdict := fun data => (textNodesPresent { c with data } ctx (some l) s).result
    (∀ data ss tags ts, Expects data ss tags → ss ≠ [] →
      e.nodeTexts (tags.map Text.lower) = .ok ts →
      (verdict data = .ok () ↔ ∀ x ∈ ss, Stands ts x) ∧
        (verdict data ≠ .ok () →
          verdict data = .error (textsMissing (ss.filter fun x => ¬ Stands ts x)))) ∧
    (e.traits.nodes = none → ∀ excluded, e.nodeTexts excluded = .ok (e.textNodes excluded) ∧
      ∀ t, t ∈ e.textNodes excluded ↔ e.HoldsText excluded t) ∧
    ∀ x, x ≠ "" → verdict (.arr [.str x]) = verdict (.str x) ∧
      verdict (.obj [("expected", .arr [.str x])]) = verdict (.str x) ∧
      ∀ ts, e.nodeTexts (usualTags.map Text.lower) = .ok ts →
        ((verdict (.obj [("expected", .str x)]) = .ok () ↔ verdict (.str x) = .ok ()) ↔
          ((∀ a ∈ x.toList, ∃ t ∈ ts, a ∈ t.toList) → Stands ts x)) := by
  intro verdict
  have hresult : ∀ {data ss tags ts}, Expects data ss tags → ss ≠ [] →
      e.nodeTexts (tags.map Text.lower) = .ok ts → verdict data =
        if ∀ x ∈ ss, Stands ts x then .ok ()
        else .error (textsMissing (ss.filter fun x => ¬ Stands ts x)) :=
    fun hdata hss hnodes => textNodesPresent_result hdata.expectedTexts hss hdata.excludedBy hfirst
      haccepts hnodes
  have hpasses : ∀ {data ss tags ts}, Expects data ss tags → ss ≠ [] →
      e.nodeTexts (tags.map Text.lower) = .ok ts → (verdict data = .ok () ↔ ∀ x ∈ ss, Stands ts x) := by
    intro data ss tags ts hdata hss hnodes
    rw [hresult hdata hss hnodes]
    split
    · rename_i hall
      exact iff_of_true rfl hall
    · rename_i hall
      exact iff_of_false (by simp) hall
  refine ⟨?verdict, ?tree, ?spellings⟩
  case verdict =>
    intro data ss tags ts hdata hss hnodes
    refine ⟨hpasses hdata hss hnodes, fun hfails => ?_⟩
    rw [hresult hdata hss hnodes, if_neg fun hall => hfails ((hpasses hdata hss hnodes).mpr hall)]
  case tree =>
    intro htree excluded
    exact ⟨Element.nodeTexts_of_tree htree excluded, fun t => Element.mem_textNodes_iff⟩
  case spellings =>
    intro x hx
    have hsame : ∀ {data}, Expects data [x] usualTags → verdict data = verdict (.str x) := by
      intro data hdata
      exact congrArg Outcome.result
        (textNodesPresent_congr hdata.expectedTexts (hdata.excludedBy.trans rfl) ctx (some l) s)
    refine ⟨hsame (.texts [x]), hsame (.member rfl (Or.inl rfl)), fun ts hnodes => ?_⟩
    have hletters : verdict (.obj [("expected", .str x)]) = .ok () ↔
        ∀ a ∈ x.toList, ∃ t ∈ ts, a ∈ t.toList := by
      have hlist : x.toList.map Char.toString ≠ [] := by simpa using hx
      have hexpected : expectedTexts (.obj [("expected", .str x)]) =
          expectedTexts (.strings (x.toList.map Char.toString)) :=
        (expectedTexts_letters hx).trans (Expects.texts _).expectedTexts.symm
      have hexcluded : excludedBy (.obj [("expected", .str x)]) =
          excludedBy (.strings (x.toList.map Char.toString)) := rfl
      have hverdict : verdict (.obj [("expected", .str x)]) =
          verdict (.strings (x.toList.map Char.toString)) :=
        congrArg Outcome.result (textNodesPresent_congr hexpected hexcluded ctx (some l) s)
      rw [hverdict, hpasses (.texts _) hlist hnodes]
      simp only [List.forall_mem_map, stands_letter]
    rw [hletters, hpasses (.text x) (by simp) hnodes]
    simp only [List.mem_singleton, forall_eq]
    exact ⟨fun h => h.mp, fun h => ⟨h, letters_of_stands⟩⟩

/-- An article with a paragraph and with a script, whose text nobody reads. -/
def article : Element :=
  .mk { textNodes := ["Hello"] } [.mk { tag := "p", textNodes := ["world of text"] } [] [],
    .mk { tag := "script", textNodes := ["secret"] } [] []] []

def articleScene : Scene := { page := { elements := [("article", [article])] } }

theorem textNodesPresent_verdict_of_script :
    let expecting := fun ss => (textNodesPresent { kind := .custom, data := .strings ss } {}
      (some (.all "article")) articleScene).result
    expecting ["Hello", "of"] = .ok () ∧
      expecting ["secret", "Hello", "script"] = .error (textsMissing ["secret", "script"]) := by
  intro expecting
  obtain ⟨hverdict, htree, -⟩ := textNodesPresent_verdict { kind := .custom } {}
    (l := .all "article") (s := articleScene) (e := article) rfl (by decide +kernel)
  have hread := (htree rfl (usualTags.map Text.lower)).1
  have htexts : article.textNodes (usualTags.map Text.lower) = ["Hello", "world of text"] := by
    decide +kernel
  rw [htexts] at hread
  have hof := fun ss hss => hverdict _ ss usualTags _ (.texts ss) hss hread
  have hmissing : ¬ ∀ x ∈ ["secret", "Hello", "script"], Stands ["Hello", "world of text"] x := by
    decide +kernel
  refine ⟨(hof ["Hello", "of"] (by simp)).1.mpr (by decide +kernel), ?_⟩
  obtain ⟨hpasses, hfails⟩ := hof ["secret", "Hello", "script"] (by simp)
  refine (hfails (mt hpasses.mp hmissing)).trans (congrArg (Except.error ∘ textsMissing) ?_)
  decide +kernel

theorem textNodesPresent_letters :
    let verdict := fun data => (textNodesPresent { kind := .custom, data } {} (some (.all "p"))
      { page := { elements := [("p", [.mk { textNodes := ["ba"] } [] []])] } }).result
    (verdict (.str "ab")).toOption = none ∧
      (verdict (.obj [("expected", .str "ab")])).toOption = some () := by
  decide +kernel

end Bundled
end Walkthrough
