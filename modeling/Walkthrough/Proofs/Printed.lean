import Walkthrough.Command.Basic
import Walkthrough.Trigger.Results
import Walkthrough.Proofs.Ansi
import Walkthrough.Proofs.Json.RoundTrip
import Walkthrough.Proofs.Json.Written
import Walkthrough.Proofs.Lines

/-! A summary that was printed is found again, unless its texts break the line. -/
namespace Walkthrough

namespace Trigger
open Json Text

/-- The line ends that are written as they are. -/
def breaks : List Char := ['\u0085', '\u2028', '\u2029']

theorem mem_breaks_of_lineEnd {c : Char} (hc : isLineEnd c = true) (h : 32 ≤ c.toNat) :
    c ∈ breaks := by
  have hn : c.toNat = 0x85 ∨ c.toNat = 0x2028 ∨ c.toNat = 0x2029 := by
    simp only [isLineEnd, Bool.or_eq_true, Bool.and_eq_true, decide_eq_true_eq, beq_iff_eq] at hc
    omega
  have heq : c = Char.ofNat c.toNat := (Char.ofNat_toNat c).symm
  rcases hn with hn | hn | hn <;> rw [hn] at heq <;> subst heq <;> decide

theorem wide_of_mem_breaks : ∀ c ∈ breaks, isLineEnd c = true ∧ 127 < c.toNat :=
  forall_mem_of_all (by decide)

variable {members : Members} {line : List Char} {c : Char}

/-! Lines of a printed document. -/

theorem scan_blanks {cs : List Char} (h : ∀ c ∈ cs, isBlank c = true) {p q : Place}
    (hp : p ≠ .escaped) (hscan : scan p cs = some q) : q = p := by
  induction cs generalizing p with
  | nil => exact (Option.some.inj hscan).symm
  | cons c cs ih =>
    have hc : isBlank c = true := h c List.mem_cons_self
    have hquote : c ≠ '"' := by
      rintro rfl
      exact absurd hc (by decide)
    have hback : c ≠ '\\' := by
      rintro rfl
      exact absurd hc (by decide)
    have hcs := fun d hd => h d (List.mem_cons_of_mem c hd)
    rw [scan] at hscan
    cases p with
    | outside =>
      simp only [Place.next, if_neg hquote] at hscan
      split at hscan
      · cases hscan
      · exact ih hcs (by simp) hscan
    | inside =>
      simp only [Place.next, if_neg hquote, if_neg hback] at hscan
      exact ih hcs (by simp) hscan
    | escaped => exact absurd rfl hp

/-- Blanks around a text change no place. -/
theorem scan_trimBy {p q : Place} (hp : p ≠ .escaped) (h : scan p line = some q) :
    ∃ place, scan p (trimBy isBlank line) = some place ∧ (place ≠ .escaped → place = q) := by
  obtain ⟨before, after, hparts, hbefore, hafter⟩ := trimBy_parts isBlank line
  rw [hparts, List.append_assoc, scan_append] at h
  cases hstart : scan p before with
  | none => simp [hstart] at h
  | some start =>
    obtain rfl := scan_blanks hbefore hp hstart
    rw [hstart, Option.bind_some, scan_append] at h
    cases hmid : scan start (trimBy isBlank line) with
    | none => simp [hmid] at h
    | some place =>
      rw [hmid, Option.bind_some] at h
      exact ⟨place, rfl, fun hplace => (scan_blanks hafter hplace h).symm⟩

/-- A line of a printed document is all of it, or it ends inside of a text, or it starts there. -/
theorem line_of_printed {cs texts : List Char} (hcs : Writes cs texts)
    (h : line ∈ lines (cs ++ ['\n'])) :
    line = [] ∨ line = cs ∨ scan .outside line = some .inside ∨ (scan .inside line).isSome := by
  have hwide : ∀ d ∈ cs, isLineEnd d = true → 127 < d.toNat := fun d hd hend =>
    (wide_of_mem_breaks d (mem_breaks_of_lineEnd hend (hcs.visible d hd))).2
  have hwhole : (scan .outside cs).isSome := by rw [hcs.scan_eq]; rfl
  rcases mem_lines_feed h with hnil | ⟨before, after, rfl, hbefore, hafter⟩
  · exact Or.inl hnil
  cases hlast : before.getLast? with
  | none =>
    obtain rfl := List.getLast?_eq_none_iff.mp hlast
    cases after with
    | nil => exact Or.inr (Or.inl (by simp))
    | cons d after =>
      have hd : 127 < d.toNat := hwide d (by simp) (hafter d rfl)
      exact Or.inr (Or.inr (Or.inl (inside_of_wide hd hwhole).1))
  | some d =>
    obtain ⟨init, rfl⟩ := List.getLast?_eq_some_iff.mp hlast
    have hd : 127 < d.toNat := hwide d (by simp) (hbefore d hlast)
    have hall : (scan .outside (init ++ d :: (line ++ after))).isSome := by
      simpa using hwhole
    have hrest := (inside_of_wide hd hall).2
    rw [scan_append] at hrest
    exact Or.inr (Or.inr (Or.inr (Option.isSome_of_isSome_bind hrest)))

/-! Objects of lines. -/

theorem readChars_of_objectOfLine (h : objectOfLine line = .ok (some members)) :
    readChars (trimBy isBlank line) = .ok (.obj members) := by
  unfold objectOfLine at h
  split at h
  · rename_i rest hline
    rw [hline]
    split at h
    · rename_i found hread
      simp only [Except.ok.injEq, Option.some.injEq] at h
      subst h
      simpa [Json.read] using hread
    · cases h
    · cases h
  · cases h

/-- A line of a printed object never holds the whole of it if one of its texts has a line end
that is written as it is. -/
theorem objectOfLine_ne_of_break (hc : c ∈ (Json.obj members).textChars) (hbreak : c ∈ breaks)
    (h : line ∈ lines (chars false (.obj members) ++ ['\n'])) :
    objectOfLine line ≠ .ok (some members) := by
  intro hobject
  have hwrites := writes_chars (.obj members)
  have hend : isLineEnd c = true := (wide_of_mem_breaks c hbreak).1
  have hnot : c ∉ line := fun hmem => by
    rw [(mem_lines h).1 c hmem] at hend
    cases hend
  obtain ⟨hmarks, htexts⟩ := scan_of_readChars (readChars_of_objectOfLine hobject)
  rcases line_of_printed hwrites h with rfl | hwhole | hends | hstarts
  · exact absurd (htexts (by decide) c hc) (by simp [trimBy])
  · rw [hwhole] at hnot
    exact hnot ((hwrites.wide c (wide_of_mem_breaks c hbreak).2).mpr hc)
  · obtain ⟨place, hplace, hinside⟩ := scan_trimBy (by simp) hends
    obtain rfl : .outside = place := Option.some.inj (hmarks.symm.trans hplace)
    cases hinside (by simp)
  · -- read from outside what stands inside, and the other way round: no backslash fits both
    obtain ⟨q, hq⟩ := Option.isSome_iff_exists.mp hstarts
    obtain ⟨place, hplace, -⟩ := scan_trimBy (by simp) hq
    have hback := no_backslash_of_scans (by rw [hmarks]; rfl) (by rw [hplace]; rfl)
    exact hnot (mem_of_mem_trimBy (htexts hback c hc))

/-- A line with a whole object. -/
theorem objectOfLine_chars (h : (Json.obj members).Faithful) :
    objectOfLine (chars false (.obj members)) =
      match (Json.obj members).tooLong? with
      | some digits => .error (.value (Number.tooLongMessage digits))
      | none => .ok (some members) := by
  obtain ⟨mid, hmid⟩ := chars_obj members
  have hread := read_render false h
  have htrim : trimBy isBlank (chars false (.obj members)) = '{' :: (mid ++ ['}']) := by
    rw [hmid]
    exact trimBy_between (by decide) (by decide) mid
  rw [render, hmid, List.cons_append] at hread
  unfold objectOfLine
  rw [htrim]
  simp only [hread]
  cases (Json.obj members).tooLong? <;> rfl

theorem exists_of_firstObject {ls : List (List Char)} (h : firstObject ls = .ok (some members)) :
    ∃ line ∈ ls, objectOfLine line = .ok (some members) := by
  induction ls with
  | nil => cases h
  | cons line rest ih =>
    unfold firstObject at h
    cases hline : objectOfLine line with
    | error e => simp [hline, bind, Except.bind] at h
    | ok found =>
      simp only [hline, bind, Except.bind] at h
      cases found with
      | some ms =>
        cases h
        exact ⟨line, List.mem_cons_self, hline⟩
      | none =>
        obtain ⟨later, hmem, hlater⟩ := ih h
        exact ⟨later, List.mem_cons_of_mem line hmem, hlater⟩

theorem firstObject_cons {rest : List (List Char)} (h : objectOfLine line ≠ .ok none) :
    firstObject (line :: rest) = objectOfLine line := by
  unfold firstObject
  cases hline : objectOfLine line with
  | error e => rfl
  | ok found =>
    cases found with
    | some ms => rfl
    | none => exact absurd hline h

/-! What is found in the output. -/

theorem results_of_last {output : String} {ls : List (List Char)}
    (hlines : lines output.toList = ls ++ [line]) (h : objectOfLine line ≠ .ok none) :
    results output = objectOfLine line := by
  rw [results, hlines, List.reverse_append, List.reverse_singleton, List.singleton_append,
    firstObject_cons h]

/-- The output of a program: some text that ends a line, and a document on a line of its own. -/
def outputWith (before : String) (v : Json) : String :=
  Ansi.stripText (before ++ (v.render false ++ "\n"))

theorem strip_document (v : Json) :
    Ansi.strip (chars false v ++ ['\n']) = chars false v ++ ['\n'] := by
  refine Ansi.strip_of_no_escape fun hmem => ?_
  rcases List.mem_append.mp hmem with hmem | hmem
  · exact absurd ((writes_chars v).visible _ hmem) (by decide)
  · exact absurd hmem (by decide)

theorem outputWith_empty (v : Json) : (outputWith "" v).toList = chars false v ++ ['\n'] := by
  simp [outputWith, Ansi.stripText, render, strip_document]

theorem outputWith_feed (text : String) (v : Json) : (outputWith (text ++ "\n") v).toList =
    Ansi.strip text.toList ++ '\n' :: (chars false v ++ ['\n']) := by
  have hfeed := Ansi.strip_feed text.toList (chars false v ++ ['\n'])
  rw [strip_document] at hfeed
  simpa [outputWith, Ansi.stripText, render] using hfeed

theorem lines_document {v : Json} (h : ∀ c ∈ v.textChars, c ∉ breaks) :
    lines (chars false v ++ ['\n']) = [chars false v] := by
  refine lines_single fun c hc => Bool.eq_false_iff.mpr fun hend => ?_
  have hbreak := mem_breaks_of_lineEnd hend ((writes_chars v).visible c hc)
  have hwide := (wide_of_mem_breaks c hbreak).2
  exact h c (((writes_chars v).wide c hwide).mp hc) hbreak

/-- The document is the last line of the output. -/
theorem lines_outputWith {v : Json} (h : ∀ c ∈ v.textChars, c ∉ breaks) {before : String}
    (hbefore : before = "" ∨ ∃ text, before = text ++ "\n") :
    ∃ ls, lines (outputWith before v).toList = ls ++ [chars false v] := by
  rcases hbefore with rfl | ⟨text, rfl⟩
  · exact ⟨[], by rw [outputWith_empty, lines_document h, List.nil_append]⟩
  · exact ⟨lines (Ansi.strip text.toList ++ ['\n']),
      by rw [outputWith_feed, lines_feed, lines_document h]⟩

/-- An object with a text that breaks its line is not found. -/
theorem results_ne_of_break (hc : c ∈ (Json.obj members).textChars) (hbreak : c ∈ breaks) :
    results (outputWith "" (.obj members)) ≠ .ok (some members) := by
  intro hfound
  rw [results, outputWith_empty] at hfound
  obtain ⟨line, hline, hobject⟩ := exists_of_firstObject hfound
  exact objectOfLine_ne_of_break hc hbreak (List.mem_reverse.mp hline) hobject

/-- Which objects are found in the output as they are, whatever stands in front of them. -/
theorem results_outputWith_iff (h : (Json.obj members).Faithful) :
    (∀ before : String, (before = "" ∨ ∃ text, before = text ++ "\n") →
        results (outputWith before (.obj members)) = .ok (some members)) ↔
      (∀ c ∈ (Json.obj members).textChars, c ∉ breaks) ∧ (Json.obj members).tooLong? = none := by
  have hobject := objectOfLine_chars h
  have hne : objectOfLine (chars false (.obj members)) ≠ .ok none := by
    rw [hobject]
    cases (Json.obj members).tooLong? <;> simp
  constructor
  · intro hfound
    have hbreaks : ∀ c ∈ (Json.obj members).textChars, c ∉ breaks := fun c hc hbreak =>
      results_ne_of_break hc hbreak (hfound "" (Or.inl rfl))
    obtain ⟨ls, hlines⟩ := lines_outputWith hbreaks (Or.inl rfl)
    have hresult := hfound "" (Or.inl rfl)
    rw [results_of_last hlines hne, hobject] at hresult
    refine ⟨hbreaks, ?_⟩
    cases hlong : (Json.obj members).tooLong? with
    | none => rfl
    | some digits => simp [hlong] at hresult
  · rintro ⟨hbreaks, hlong⟩ before hbefore
    obtain ⟨ls, hlines⟩ := lines_outputWith hbreaks hbefore
    rw [results_of_last hlines hne, hobject, hlong]

end Trigger
end Walkthrough
