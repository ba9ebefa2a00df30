import Walkthrough.Text.Blank

/-! Lines of a text: they stand between line ends. -/
namespace Walkthrough.Text

variable {cs ds line rest : List Char} {c : Char}

theorem breakLine_cons (h : ¬ (c = '\r' ∧ cs.head? = some '\n')) :
    breakLine (c :: cs) =
      if isLineEnd c then ([], some cs) else (c :: (breakLine cs).1, (breakLine cs).2) := by
  rw [breakLine]
  rintro more rfl rfl
  exact h ⟨rfl, rfl⟩

/-- What is left out between a line and the rest are line ends. -/
theorem breakLine_parts {more : Option (List Char)} (h : breakLine cs = (line, more)) :
    (∀ c ∈ line, isLineEnd c = false) ∧ (more = none → cs = line) ∧
      ∀ rest, more = some rest → ∃ marks, marks ≠ [] ∧ (∀ c ∈ marks, isLineEnd c = true) ∧
        cs = line ++ marks ++ rest := by
  fun_induction breakLine cs generalizing line more with
  | case1 =>
    cases h
    exact ⟨by simp, fun _ => rfl, by simp⟩
  | case2 rest =>
    cases h
    refine ⟨by simp, by simp, ?_⟩
    rintro _ ⟨⟩
    exact ⟨['\r', '\n'], by simp, List.all_eq_true.mp (by decide), rfl⟩
  | case3 c rest _ hc =>
    cases h
    refine ⟨by simp, by simp, ?_⟩
    rintro _ ⟨⟩
    exact ⟨[c], by simp, by simpa using hc, rfl⟩
  | case4 c rest _ hc line' more' hrest ih =>
    cases h
    obtain ⟨hline, hlast, hparts⟩ := ih hrest
    refine ⟨?_, fun hm => congrArg (c :: ·) (hlast hm), ?_⟩
    · intro d hd
      rcases List.mem_cons.mp hd with rfl | hd
      · simpa using hc
      · exact hline d hd
    · intro rest' hm
      obtain ⟨marks, hne, hmarks, rfl⟩ := hparts rest' hm
      exact ⟨marks, hne, hmarks, rfl⟩

/-- A text that goes on behind a line feed has the same first line. -/
theorem breakLine_feed (cs ds : List Char) : ∃ line rest,
    breakLine (cs ++ ['\n']) = (line, some rest) ∧
      breakLine (cs ++ '\n' :: ds) = (line, some (rest ++ ds)) ∧
      (rest = [] ∨ ∃ cs', rest = cs' ++ ['\n'] ∧ cs'.length < cs.length) := by
  fun_induction breakLine cs with
  | case1 => exact ⟨[], [], rfl, rfl, Or.inl rfl⟩
  | case2 rest =>
    refine ⟨[], rest ++ ['\n'], rfl, by simp [breakLine], Or.inr ⟨rest, rfl, ?_⟩⟩
    simp only [List.length_cons]
    omega
  | case3 c rest hpair hc =>
    by_cases hreturn : c = '\r' ∧ rest = []
    · obtain ⟨rfl, rfl⟩ := hreturn
      exact ⟨[], [], rfl, rfl, Or.inl rfl⟩
    · have hnot : ∀ more, ¬ (c = '\r' ∧ (rest ++ '\n' :: more).head? = some '\n') := by
        rintro more ⟨rfl, hhead⟩
        cases rest with
        | nil => exact hreturn ⟨rfl, rfl⟩
        | cons d rest =>
          simp only [List.cons_append, List.head?_cons, Option.some.injEq] at hhead
          subst hhead
          exact hpair rest rfl rfl
      refine ⟨[], rest ++ ['\n'], ?_, ?_, Or.inr ⟨rest, rfl, by simp⟩⟩
      · rw [List.cons_append, breakLine_cons (hnot []), if_pos hc]
      · rw [List.cons_append, breakLine_cons (hnot ds), if_pos hc, List.append_assoc]
        rfl
  | case4 c rest hpair hc line' more' hrest ih =>
    obtain ⟨line, rest', hone, hmore, hshort⟩ := ih
    have hnot : ∀ more : List Char, ¬ (c = '\r' ∧ more.head? = some '\n') := by
      rintro more ⟨rfl, -⟩
      exact hc (by decide)
    refine ⟨c :: line, rest', ?_, ?_, ?_⟩
    · rw [List.cons_append, breakLine_cons (hnot _), if_neg hc, hone]
    · rw [List.cons_append, breakLine_cons (hnot _), if_neg hc, hmore]
    · refine hshort.imp_right ?_
      rintro ⟨cs', rfl, hlt⟩
      exact ⟨cs', rfl, Nat.lt_succ_of_lt hlt⟩

theorem lines_nil : lines [] = [] := by
  rw [lines, List.isEmpty_nil, if_pos rfl]

theorem lines_of_more (h : breakLine cs = (line, some rest)) : lines cs = line :: lines rest := by
  have hne : cs ≠ [] := by
    rintro rfl
    cases h
  rw [lines, if_neg (by simpa using hne)]
  split
  · simp_all
  · simp_all

/-- The lines behind a line feed are those of the text behind it. -/
theorem lines_feed (cs ds : List Char) :
    lines (cs ++ '\n' :: ds) = lines (cs ++ ['\n']) ++ lines ds := by
  obtain ⟨line, rest, hone, hmore, hshort⟩ := breakLine_feed cs ds
  rw [lines_of_more hone, lines_of_more hmore, List.cons_append]
  rcases hshort with rfl | ⟨cs', rfl, hlt⟩
  · rw [lines_nil, List.nil_append, List.nil_append]
  · rw [List.append_assoc, List.singleton_append, lines_feed cs' ds]
termination_by cs.length

theorem lines_single (h : ∀ c ∈ line, isLineEnd c = false) : lines (line ++ ['\n']) = [line] := by
  have hbreak : breakLine (line ++ ['\n']) = (line, some []) := by
    induction line with
    | nil => rfl
    | cons c line ih =>
      have hc : isLineEnd c = false := h c List.mem_cons_self
      have hnot : ¬ (c = '\r' ∧ (line ++ ['\n']).head? = some '\n') := by
        rintro ⟨rfl, -⟩
        exact absurd hc (by decide)
      rw [List.cons_append, breakLine_cons hnot, if_neg (by simp [hc]),
        ih fun d hd => h d (List.mem_cons_of_mem c hd)]
  rw [lines_of_more hbreak, lines_nil]

/-- A line stands between line ends, or the ends of the text. -/
theorem mem_lines (h : line ∈ lines cs) : (∀ c ∈ line, isLineEnd c = false) ∧
    ∃ before after, cs = before ++ line ++ after ∧
      (∀ d ∈ before.getLast?, isLineEnd d = true) ∧ ∀ d ∈ after.head?, isLineEnd d = true := by
  fun_induction lines cs with
  | case1 => cases h
  | case2 cs _ last hbreak =>
    obtain rfl := List.mem_singleton.mp h
    obtain ⟨hline, hlast, -⟩ := breakLine_parts hbreak
    exact ⟨hline, [], [], by simp [hlast rfl], by simp, by simp⟩
  | case3 cs _ first rest hbreak ih =>
    obtain ⟨hfirst, -, hparts⟩ := breakLine_parts hbreak
    obtain ⟨marks, hne, hmarks, hcs⟩ := hparts rest rfl
    rcases List.mem_cons.mp h with rfl | h
    · refine ⟨hfirst, [], marks ++ rest, by simp [hcs], by simp, ?_⟩
      obtain ⟨mark, marks, rfl⟩ := List.exists_cons_of_ne_nil hne
      simpa using hmarks mark List.mem_cons_self
    · obtain ⟨hline, before, after, rfl, hbefore, hafter⟩ := ih h
      refine ⟨hline, first ++ marks ++ before, after, by simp [hcs], ?_, hafter⟩
      cases hlast : before.getLast? with
      | some d => simpa [List.getLast?_append, hlast] using hbefore d hlast
      | none =>
        obtain rfl := List.getLast?_eq_none_iff.mp hlast
        obtain ⟨marks, mark, rfl⟩ := List.eq_nil_or_concat marks |>.resolve_left hne
        simpa using hmarks mark (by simp)

/-- A line of a text that ends in a line feed stands in what is in front of the line feed. -/
theorem mem_lines_feed (h : line ∈ lines (cs ++ ['\n'])) : line = [] ∨
    ∃ before after, cs = before ++ line ++ after ∧
      (∀ d ∈ before.getLast?, isLineEnd d = true) ∧ ∀ d ∈ after.head?, isLineEnd d = true := by
  obtain ⟨hline, before, after, hparts, hbefore, hafter⟩ := mem_lines h
  have hlast : (before ++ line ++ after).getLast? = some '\n' := by
    rw [← hparts, List.getLast?_concat]
  cases hend : after.getLast? with
  | none =>
    obtain rfl := List.getLast?_eq_none_iff.mp hend
    cases hend' : line.getLast? with
    | none => exact Or.inl (List.getLast?_eq_none_iff.mp hend')
    | some d =>
      obtain rfl : d = '\n' := by simpa [hend'] using hlast
      exact absurd (hline '\n' (List.mem_of_getLast? hend')) (by decide)
  | some d =>
    obtain rfl : d = '\n' := by simpa [hend] using hlast
    obtain ⟨more, rfl⟩ := List.getLast?_eq_some_iff.mp hend
    rw [← List.append_assoc] at hparts
    refine Or.inr ⟨before, more, List.append_cancel_right hparts, hbefore, fun d hd => ?_⟩
    refine hafter d ?_
    rw [List.head?_append, Option.mem_def.mp hd]
    rfl

/-! Trimming. -/

theorem trimBy_parts (p : Char → Bool) (cs : List Char) : ∃ before after,
    cs = before ++ trimBy p cs ++ after ∧ (∀ c ∈ before, p c = true) ∧
      ∀ c ∈ after, p c = true := by
  refine ⟨cs.takeWhile p, ((cs.dropWhile p).reverse.takeWhile p).reverse, ?_, ?_, ?_⟩
  · rw [List.append_assoc, trimBy, ← List.reverse_append, List.takeWhile_append_dropWhile,
      List.reverse_reverse, List.takeWhile_append_dropWhile]
  · intro c hc
    exact List.all_eq_true.mp List.all_takeWhile c hc
  · intro c hc
    exact List.all_eq_true.mp List.all_takeWhile c (List.mem_reverse.mp hc)

theorem mem_of_mem_trimBy {p : Char → Bool} (h : c ∈ trimBy p cs) : c ∈ cs := by
  obtain ⟨before, after, hparts, -, -⟩ := trimBy_parts p cs
  rw [hparts]
  exact List.mem_append_left after (List.mem_append_right before h)

/-- A text stays as it is between two characters that are not trimmed. -/
theorem trimBy_between {p : Char → Bool} {first last : Char} (hfirst : p first = false)
    (hlast : p last = false) (mid : List Char) :
    trimBy p (first :: mid ++ [last]) = first :: mid ++ [last] := by
  simp [trimBy, hfirst, hlast]

end Walkthrough.Text
