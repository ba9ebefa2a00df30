import Walkthrough.Command.Arguments
import Walkthrough.Proofs.Answers

/-!
The arguments of a command: which texts can stand behind an option as its value, and what becomes of
the arguments that a run is started with.
-/
namespace Walkthrough

namespace Argument

/-- A text that begins like an option: with two hyphens and, up to an equals sign, as the name of an
option begins, or with one hyphen and the letter of an option. -/
def BeginsOption (s : String) : Prop :=
  (['-', '-'] <+: s.toList ∧
    ∃ o : CommandOption, s.toList.takeWhile (· != '=') <+: o.name.toList) ∨
  ['-', 'h'] <+: s.toList ∨ ['-', 'v'] <+: s.toList

/-- A text that is taken for the value of the option in front of it: it does not begin with a
hyphen, or is nothing else, or has a blank or reads as a number while it begins like no option. -/
def IsValue (s : String) : Prop :=
  ¬ ['-'] <+: s.toList ∨ s = "-" ∨
    (' ' ∈ s.toList ∨ isNegativeNumber s.toList = true) ∧ ¬ BeginsOption s

variable {s : String} {o : CommandOption} {second : Char} {rest : List Char}

theorem read_name (o : CommandOption) : read o.name = .ok (.option o none) := by
  cases o <;> rfl

theorem hyphens_prefix_name (o : CommandOption) : ['-', '-'] <+: o.name.toList := by
  cases o <;> decide

theorem mem_spellings (o : CommandOption) : (o.name, o) ∈ CommandOption.spellings := by
  cases o <;> decide

/-- An option is written by its name or by one letter. -/
theorem of_mem_spellings {x : String × CommandOption} (h : x ∈ CommandOption.spellings) :
    x.1 = x.2.name ∨ x.1 = "-h" ∨ x.1 = "-v" := by
  revert x
  decide

theorem of_ofSpelling? (h : CommandOption.ofSpelling? s = some o) :
    s = o.name ∨ s = "-h" ∨ s = "-v" := by
  obtain ⟨x, hx, rfl⟩ := Option.map_eq_some_iff.mp h
  have hs : x.1 = s := by simpa using List.find?_some hx
  exact hs ▸ of_mem_spellings (List.mem_of_find?_eq_some hx)

theorem cutAtEquals_fst (cs : List Char) : (cutAtEquals cs).1 = cs.takeWhile (· != '=') := by
  unfold cutAtEquals
  dsimp only
  split <;> rfl

/-- What reaches as far as an equals sign and is written like an option begins like one. -/
theorem beginsOption_of_spelling {cs : List Char} (hcs : cs <+: s.toList)
    (hhead : s.toList.takeWhile (· != '=') <+: cs)
    (h : CommandOption.ofSpelling? (String.ofList cs) = some o) : BeginsOption s := by
  obtain hname | hletter | hletter := of_ofSpelling? h
  · rw [← String.toList_ofList (l := cs), hname] at hcs hhead
    exact Or.inl ⟨(hyphens_prefix_name o).trans hcs, o, hhead⟩
  · rw [← String.toList_ofList (l := cs), hletter] at hcs
    exact Or.inr (Or.inl hcs)
  · rw [← String.toList_ofList (l := cs), hletter] at hcs
    exact Or.inr (Or.inr hcs)

theorem takeWhile_hyphens (h : ['-', '-'] <+: s.toList) :
    ['-', '-'] <+: s.toList.takeWhile (· != '=') := by
  obtain ⟨rest, hrest⟩ := h
  rw [← hrest]
  exact ⟨rest.takeWhile (· != '='), rfl⟩

/-- No option begins in the same way as a text with two hyphens that begins like none. -/
theorem beginningWith_eq_nil (hs : ['-', '-'] <+: s.toList) (h : ¬ BeginsOption s) :
    CommandOption.beginningWith (s.toList.takeWhile (· != '=')) = [] := by
  refine List.map_eq_nil_iff.mpr (List.filter_eq_nil_iff.mpr fun x hx hbegins => ?_)
  have hprefix := List.isPrefixOf_iff_prefix.mp hbegins
  obtain hname | hletter | hletter := of_mem_spellings hx
  · exact h (Or.inl ⟨hs, x.2, hname ▸ hprefix⟩)
  · rw [hletter] at hprefix
    exact absurd ((takeWhile_hyphens hs).trans hprefix) (by decide)
  · rw [hletter] at hprefix
    exact absurd ((takeWhile_hyphens hs).trans hprefix) (by decide)

theorem beginsOption_hyphens (hs : s.toList = ['-', '-']) : BeginsOption s := by
  refine Or.inl ⟨hs ▸ List.prefix_rfl, .help, ?_⟩
  rw [hs]
  decide

/-- A text with a hyphen and more that begins like no option is a stranger. -/
theorem read_of_not_beginsOption (hs : s.toList = '-' :: second :: rest)
    (h : ¬ BeginsOption s) : read s = .ok (ofStranger s s.toList) := by
  have hspelling : ∀ cs, cs <+: s.toList → s.toList.takeWhile (· != '=') <+: cs →
      CommandOption.ofSpelling? (String.ofList cs) = none := fun cs hcs hhead => by
    cases hcase : CommandOption.ofSpelling? (String.ofList cs) with
    | none => rfl
    | some o => exact absurd (beginsOption_of_spelling hcs hhead hcase) h
  have hwhole := hspelling s.toList List.prefix_rfl (List.takeWhile_prefix _)
  have hhead := hspelling _ (List.takeWhile_prefix _) List.prefix_rfl
  rw [String.ofList_toList] at hwhole
  have hcut : ((cutAtEquals s.toList).2.bind fun _ =>
      CommandOption.ofSpelling? (String.ofList (cutAtEquals s.toList).1)) = none := by
    rw [cutAtEquals_fst, hhead]
    cases (cutAtEquals s.toList).2 <;> rfl
  have hne : s.toList ≠ ['-', '-'] := fun hcs => h (beginsOption_hyphens hcs)
  have hlong : second = '-' → ofLong s s.toList = .ok (ofStranger s s.toList) := fun hsecond => by
    have hhyphens : ['-', '-'] <+: s.toList := by
      rw [hs, hsecond]
      exact List.prefix_append ['-', '-'] rest
    unfold ofLong
    simp only [cutAtEquals_fst, beginningWith_eq_nil hhyphens h]
  have hshort : second ≠ '-' → ofShort s s.toList = ofStranger s s.toList := fun hsecond => by
    unfold ofShort
    cases hcase : CommandOption.ofSpelling? (String.ofList (s.toList.take 2)) with
    | none => rfl
    | some o =>
      have htake : s.toList.take 2 = ['-', second] := by rw [hs]; rfl
      have hpart : ['-', second] <+: s.toList := htake ▸ List.take_prefix 2 _
      rw [htake] at hcase
      obtain hname | hletter | hletter := of_ofSpelling? hcase
      · have hhyphens := hyphens_prefix_name o
        rw [← hname, String.toList_ofList] at hhyphens
        exact absurd (List.cons.inj (List.cons.inj (hhyphens.eq_of_length rfl)).2).1.symm hsecond
      · rw [← String.toList_ofList (l := ['-', second]), hletter] at hpart
        exact absurd (Or.inr (Or.inl hpart)) h
      · rw [← String.toList_ofList (l := ['-', second]), hletter] at hpart
        exact absurd (Or.inr (Or.inr hpart)) h
  rw [hs] at hne hcut hlong hshort ⊢
  unfold read
  simp only [hs, if_neg hne, hwhole, hcut]
  split
  · rename_i hsecond
    exact hlong hsecond
  · rename_i hsecond
    rw [hshort hsecond]

theorem beginningWith_ne_nil (h : s.toList.takeWhile (· != '=') <+: o.name.toList) :
    CommandOption.beginningWith (s.toList.takeWhile (· != '=')) ≠ [] := by
  have hmem : (o.name, o) ∈ CommandOption.spellings.filter
      fun x => (s.toList.takeWhile (· != '=')).isPrefixOf x.1.toList :=
    List.mem_filter.mpr ⟨mem_spellings o, List.isPrefixOf_iff_prefix.mpr h⟩
  exact List.ne_nil_of_mem (List.mem_map_of_mem hmem)

/-- A text that begins like an option is never plain. -/
theorem read_of_beginsOption (h : BeginsOption s) (t : String) : read s ≠ .ok (.plain t) := by
  have hshape : ∃ second rest, s.toList = '-' :: second :: rest ∧
      (second = '-' ∧ (∃ o : CommandOption, s.toList.takeWhile (· != '=') <+: o.name.toList) ∨
        second ≠ '-' ∧ ∃ o, CommandOption.ofSpelling? (String.ofList ['-', second]) = some o) := by
    rcases h with ⟨⟨rest, hrest⟩, ho⟩ | ⟨rest, hrest⟩ | ⟨rest, hrest⟩
    · exact ⟨'-', rest, hrest.symm, Or.inl ⟨rfl, ho⟩⟩
    · exact ⟨'h', rest, hrest.symm, Or.inr ⟨by decide, .help, rfl⟩⟩
    · exact ⟨'v', rest, hrest.symm, Or.inr ⟨by decide, .verbose, rfl⟩⟩
  obtain ⟨second, rest, hs, hsecond⟩ := hshape
  have hlong : second = '-' → ofLong s s.toList ≠ .ok (.plain t) := fun hhyphen => by
    obtain ⟨-, o, ho⟩ | ⟨hother, -⟩ := hsecond
    · unfold ofLong
      simp only [cutAtEquals_fst]
      split
      · rename_i hnil
        exact absurd hnil (beginningWith_ne_nil ho)
      · exact fun ht => by cases ht
      · exact fun ht => by cases ht
    · exact absurd hhyphen hother
  have hshort : second ≠ '-' → ofShort s s.toList ≠ .plain t := fun hother => by
    obtain ⟨hhyphen, -⟩ | ⟨-, o, ho⟩ := hsecond
    · exact absurd hhyphen hother
    · have htake : s.toList.take 2 = ['-', second] := by rw [hs]; rfl
      unfold ofShort
      rw [htake, ho]
      exact Argument.noConfusion
  rw [hs] at hlong hshort
  unfold read
  simp only [hs]
  have hother : ∀ a : Argument, a ≠ .plain t → (Except.ok a : Except ArgumentFault Argument) ≠
      .ok (.plain t) := fun a ha h => ha (Except.ok.inj h)
  split
  · exact hother _ Argument.noConfusion
  · split
    · exact hother _ Argument.noConfusion
    · split
      · exact hother _ Argument.noConfusion
      · split
        · rename_i hhyphen
          exact hlong hhyphen
        · rename_i hhyphen
          exact hother _ (hshort hhyphen)

theorem ofStranger_of_either (h : ' ' ∈ s.toList ∨ isNegativeNumber s.toList = true) :
    ofStranger s s.toList = .plain s := by
  unfold ofStranger
  rw [if_pos (by simpa [or_comm] using h)]

theorem ofStranger_of_neither (h : ¬ (' ' ∈ s.toList ∨ isNegativeNumber s.toList = true)) :
    ofStranger s s.toList = .unknown s := by
  unfold ofStranger
  rw [if_neg (by simpa [and_comm] using h)]

theorem read_of_no_hyphen (h : ¬ ['-'] <+: s.toList) : read s = .ok (.plain s) := by
  unfold read
  dsimp only
  split
  · rename_i hs
    exact absurd (hs ▸ List.prefix_append ['-'] ['-']) h
  · split
    · rename_i second rest hs
      exact absurd (hs ▸ List.prefix_append ['-'] (second :: rest)) h
    · rfl

/-- A text reads as a plain one just if it can stand behind an option as its value. -/
theorem read_cases (s : String) :
    IsValue s ∧ read s = .ok (.plain s) ∨ ¬ IsValue s ∧ ∀ t, read s ≠ .ok (.plain t) := by
  by_cases hhyphen : ['-'] <+: s.toList
  · obtain ⟨rest, hrest⟩ := hhyphen
    cases rest with
    | nil =>
      have hs : s = "-" := String.toList_inj.mp hrest.symm
      subst hs
      exact Or.inl ⟨Or.inr (Or.inl rfl), rfl⟩
    | cons second rest =>
      have hs : s.toList = '-' :: second :: rest := hrest.symm
      have hnot : ¬ (¬ ['-'] <+: s.toList ∨ s = "-") := by
        rintro (h | rfl)
        · exact h ⟨_, hrest⟩
        · cases hs
      unfold IsValue
      rw [or_iff_right (fun h => hnot (Or.inl h)), or_iff_right (fun h => hnot (Or.inr h))]
      by_cases hoption : BeginsOption s
      · exact Or.inr ⟨fun h => h.2 hoption, read_of_beginsOption hoption⟩
      · rw [read_of_not_beginsOption hs hoption]
        by_cases hplain : ' ' ∈ s.toList ∨ isNegativeNumber s.toList = true
        · exact Or.inl ⟨⟨hplain, hoption⟩, by rw [ofStranger_of_either hplain]⟩
        · refine Or.inr ⟨fun h => hplain h.1, fun t ht => ?_⟩
          rw [ofStranger_of_neither hplain] at ht
          cases ht
  · exact Or.inl ⟨Or.inl hhyphen, read_of_no_hyphen hhyphen⟩

end Argument

namespace Arguments

open Argument

/-- Goes on to read arguments behind those that were taken. -/
def readFrom (a : Arguments) (strangers : List String) (texts : List String) :
    Except Stop Arguments :=
  match readAll texts with
  | .ok arguments => take a strangers arguments
  | .error f => .error (.fault f)

variable {a a' : Arguments} {o : CommandOption} {value : String} {strangers rest : List String}

theorem take_flag {arguments : List Argument} (ho : o.takesValue = false)
    (h : a.setFlag o = .ok a') :
    take a strangers (.option o none :: arguments) = take a' strangers arguments := by
  have hno : ¬ o.takesValue = true := by simp [ho]
  by_cases hplain : ∃ value rest, arguments = .plain value :: rest
  · obtain ⟨value, rest, rfl⟩ := hplain
    rw [take, if_neg hno, h]
    rfl
  · rw [take.eq_3 _ _ _ _ fun value rest hrest => hplain ⟨value, rest, hrest⟩, if_neg hno, h]
    rfl

theorem take_missing {arguments : List Argument} (ho : o.takesValue = true)
    (h : ∀ value rest, arguments ≠ .plain value :: rest) :
    take a strangers (.option o none :: arguments) = .error (.fault (.missingValue o)) := by
  rw [take.eq_3 _ _ _ _ h, if_pos ho]

theorem readAll_name (o : CommandOption) (texts : List String) :
    readAll (o.name :: texts) = (readAll texts).map (.option o none :: ·) := by
  rw [readAll, read_name]
  cases readAll texts <;> rfl

theorem read_of_readAll {x : Argument} {arguments : List Argument}
    (h : readAll (value :: rest) = .ok (x :: arguments)) : Argument.read value = .ok x := by
  rw [readAll] at h
  cases hread : Argument.read value with
  | error f =>
    rw [hread] at h
    cases h
  | ok first =>
    rw [hread] at h
    cases first with
    | separator =>
      cases h
      rfl
    | _ =>
      cases hrest : readAll rest with
      | error f =>
        rw [hrest] at h
        cases h
      | ok others =>
        rw [hrest] at h
        cases h
        rfl

theorem readFrom_flag (ho : o.takesValue = false) (h : a.setFlag o = .ok a') :
    readFrom a strangers (o.name :: rest) = readFrom a' strangers rest := by
  unfold readFrom
  rw [readAll_name]
  cases readAll rest with
  | error f => rfl
  | ok arguments => exact take_flag ho h

theorem readFrom_value (ho : o.takesValue = true) (hvalue : IsValue value) :
    readFrom a strangers (o.name :: value :: rest) =
      readFrom (a.setValue value o) strangers rest := by
  have hread : Argument.read value = .ok (.plain value) :=
    (read_cases value).elim And.right fun h => absurd hvalue h.1
  unfold readFrom
  rw [readAll_name, readAll, hread]
  cases readAll rest with
  | error f => rfl
  | ok arguments =>
    show take a strangers (.option o none :: .plain value :: arguments) = _
    rw [take, if_pos ho]

/-- Behind an option nothing else stands for its value. -/
theorem readFrom_stray (ho : o.takesValue = true) (hvalue : ¬ IsValue value) :
    ∃ f, readFrom a strangers (o.name :: value :: rest) = .error (.fault f) := by
  have hread : ∀ t, Argument.read value ≠ .ok (.plain t) :=
    (read_cases value).elim (fun h => absurd h.1 hvalue) And.right
  unfold readFrom
  rw [readAll_name]
  cases hall : readAll (value :: rest) with
  | error f => exact ⟨f, rfl⟩
  | ok arguments =>
    refine ⟨.missingValue o, take_missing ho fun t others harguments => ?_⟩
    exact hread t (read_of_readAll (harguments ▸ hall))

/-- A choice of a window is read as it was written. -/
theorem readFrom_headless (ha : a.headless = none) (headless : Option Bool) :
    readFrom a [] (headless.map fun b => if b then "--headless" else "--headed").toList =
      .ok { a with headless } := by
  cases headless with
  | none =>
    cases a
    cases ha
    rfl
  | some b =>
    cases b with
    | true => exact readFrom_flag (o := .headless) rfl (by simp [setFlag, ha])
    | false => exact readFrom_flag (o := .headed) rfl (by simp [setFlag, ha])

end Arguments

namespace Trigger

open Argument Arguments

/-- The arguments of a run behind those that name the program. -/
def ownTexts (env : String) (pattern : Option String) (headless : Option Bool) : List String :=
  "--json" :: "--env" :: env :: ((pattern.map fun s => ["--grep", s]).getD [] ++
    (headless.map fun b => if b then "--headless" else "--headed").toList)

variable {env : String} {pattern : Option String}

theorem texts_ownTexts (program env : String) (pattern : Option String) (headless : Option Bool) :
    texts (arguments program env (.ofOption pattern) headless) =
      .ok (program :: "-m" :: "stepengine" :: ownTexts env (pattern.filter (· ≠ "")) headless) := by
  have hpattern : Trigger.Pattern [("grep", .ofOption pattern)] (pattern.filter (· ≠ "")) := by
    cases pattern with
    | none => exact .nothing rfl
    | some s =>
      by_cases hs : s = ""
      · subst hs
        exact .nothing rfl
      · rw [Option.filter_some, if_pos (by simpa using hs)]
        exact .text rfl hs
  exact texts_arguments hpattern program env headless

theorem isValue_empty : IsValue "" := Or.inl (by decide)

theorem values_filter (h : ∀ s ∈ pattern.filter (· ≠ ""), IsValue s) :
    ∀ s ∈ pattern, IsValue s := by
  intro s hs
  by_cases hempty : s = ""
  · exact hempty ▸ isValue_empty
  · exact h s (Option.mem_filter_iff.mpr ⟨hs, by simpa using hempty⟩)

theorem read_ownTexts_json (env : String) (pattern : Option String) (headless : Option Bool) :
    Arguments.read (ownTexts env pattern headless) =
      readFrom { json := true } [] (CommandOption.env.name :: env ::
        ((pattern.map fun s => [CommandOption.grep.name, s]).getD [] ++
          (headless.map fun b => if b then "--headless" else "--headed").toList)) := by
  have hjson : setFlag {} .json = .ok { json := true } := rfl
  exact readFrom_flag rfl hjson

theorem read_ownTexts (henv : IsValue env) (hpattern : ∀ s ∈ pattern, IsValue s)
    (headless : Option Bool) :
    Arguments.read (ownTexts env pattern headless) =
      .ok { env := some env, grep := pattern, headless, json := true } := by
  rw [read_ownTexts_json, readFrom_value rfl henv]
  cases pattern with
  | none => exact readFrom_headless rfl headless
  | some s =>
    show readFrom _ _ (CommandOption.grep.name :: s :: _) = _
    rw [readFrom_value rfl (hpattern s rfl)]
    exact readFrom_headless rfl headless

theorem read_ownTexts_error (h : ¬ (IsValue env ∧ ∀ s ∈ pattern, IsValue s))
    (headless : Option Bool) :
    ∃ f, Arguments.read (ownTexts env pattern headless) = .error (.fault f) := by
  rw [read_ownTexts_json]
  by_cases henv : IsValue env
  · rw [readFrom_value rfl henv]
    cases pattern with
    | none => exact absurd ⟨henv, by simp⟩ h
    | some s =>
      exact readFrom_stray (o := .grep) rfl fun hs => h ⟨henv, by simpa using hs⟩
  · exact readFrom_stray rfl henv

/-- The parser of the command takes back the arguments that a run is started with just if the text of
the environment and the pattern can stand behind their options: then it finds these and asks for the
summary as a document. Otherwise it refuses the arguments, and never finds others. -/
theorem arguments_read_back (program env : String) (pattern : Option String)
    (headless : Option Bool) :
    ∃ own, texts (arguments program env (.ofOption pattern) headless) =
        .ok (program :: "-m" :: "stepengine" :: own) ∧
      ((IsValue env ∧ ∀ s ∈ pattern, IsValue s) ∧ Arguments.read own = .ok {
          env := some env, grep := pattern.filter (· ≠ ""), headless, json := true } ∨
        ¬ (IsValue env ∧ ∀ s ∈ pattern, IsValue s) ∧
          ∃ f, Arguments.read own = .error (.fault f)) := by
  refine ⟨_, texts_ownTexts program env pattern headless, ?_⟩
  by_cases h : IsValue env ∧ ∀ s ∈ pattern, IsValue s
  · refine Or.inl ⟨h, read_ownTexts h.1 (fun s hs => ?_) headless⟩
    exact h.2 s (Option.mem_filter_iff.mp hs).1
  · refine Or.inr ⟨h, read_ownTexts_error (fun hall => ?_) headless⟩
    exact h ⟨hall.1, values_filter hall.2⟩

/-- A pattern with a hyphen in front is taken for an option, and the one that it is for has no
value. -/
theorem arguments_refused_of_hyphen :
    (texts (arguments "python" "dev" (.str "-smoke") none)).toOption.map
        (fun all => Arguments.read (all.drop 3)) =
      some (.error (.fault (.missingValue .grep))) := by
  rfl

end Trigger
end Walkthrough
