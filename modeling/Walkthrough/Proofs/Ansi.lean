import Walkthrough.Text.Ansi

/-!
Control sequences of a text. A sequence has its escape character in front and nowhere else, so that
none reaches into another one, and each that a text holds is taken away as a whole. What is left can
hold a new one, made of characters on both sides of what was taken away.
-/
namespace Walkthrough.Text.Ansi

variable {cs ds rest after w x u v : List Char} {c d : Char}

/-! Kinds of characters. -/

theorem isFinal_iff : isFinal c = true ↔ 64 ≤ c.toNat ∧ c.toNat ≤ 126 := by
  simp [isFinal, Char.le_def, UInt32.le_iff_toNat_le]

theorem isIntermediate_iff : isIntermediate c = true ↔ 32 ≤ c.toNat ∧ c.toNat ≤ 47 := by
  simp [isIntermediate, Char.le_def, UInt32.le_iff_toNat_le]

theorem of_isParameter (h : isParameter c = true) : 48 ≤ c.toNat ∧ c.toNat ≤ 63 := by
  simp only [isParameter, Char.isDigit, ge_iff_le, UInt32.le_iff_toNat_le, Bool.or_eq_true,
    Bool.and_eq_true, decide_eq_true_eq] at h
  obtain (⟨hlow, hhigh⟩ | rfl) | rfl := h
  · exact ⟨hlow, Nat.le_trans hhigh (by decide)⟩
  · decide
  · decide

/-- A character that can stand at the beginning of a sequence only, or in none. -/
def Bounds (d : Char) : Prop :=
  isParameter d = false ∧ isIntermediate d = false ∧ isFinal d = false

theorem bounds_escape : Bounds '\x1b' := ⟨by decide, by decide, by decide⟩

theorem bounds_feed : Bounds '\n' := ⟨by decide, by decide, by decide⟩

/-! Sequences. -/

/-- A control sequence: an escape character and a bracket, parameters, intermediate characters and a
final one. -/
def IsSequence (w : List Char) : Prop :=
  ∃ (ps is : List Char) (c : Char), w = '\x1b' :: '[' :: (ps ++ (is ++ [c])) ∧
    (∀ p ∈ ps, isParameter p = true) ∧ (∀ i ∈ is, isIntermediate i = true) ∧ isFinal c = true

/-- Only the first character of a sequence bounds others. -/
theorem IsSequence.cons (h : IsSequence w) :
    ∃ t, w = '\x1b' :: t ∧ t ≠ [] ∧ ∀ d ∈ t, ¬ Bounds d := by
  obtain ⟨ps, is, c, rfl, hps, his, hc⟩ := h
  refine ⟨_, rfl, List.cons_ne_nil _ _, fun d hd hbounds => ?_⟩
  obtain ⟨hparameter, hintermediate, hfinal⟩ := hbounds
  simp only [List.mem_cons, List.mem_append, List.not_mem_nil, or_false] at hd
  obtain rfl | hd | hd | rfl := hd
  · exact absurd hfinal (by decide)
  · rw [hps d hd] at hparameter
    cases hparameter
  · rw [his d hd] at hintermediate
    cases hintermediate
  · rw [hc] at hfinal
    cases hfinal

theorem dropWhile_behind {p : Char → Bool} (hcs : ∀ c ∈ cs, p c = true) (hd : p d = false) :
    (cs ++ d :: ds).dropWhile p = d :: ds := by
  rw [List.dropWhile_append_of_pos hcs, List.dropWhile_cons, if_neg (by simp [hd])]

theorem afterSequence?_of_isSequence (h : IsSequence w) (rest : List Char) :
    afterSequence? (w ++ rest) = some rest := by
  obtain ⟨ps, is, c, rfl, hps, his, hc⟩ := h
  have hcode := isFinal_iff.mp hc
  have hparameter : isParameter c = false := by
    refine Bool.eq_false_iff.mpr fun hp => ?_
    have := of_isParameter hp
    omega
  have hintermediate : isIntermediate c = false := by
    refine Bool.eq_false_iff.mpr fun hi => ?_
    have := isIntermediate_iff.mp hi
    omega
  have hcut : ((ps ++ (is ++ c :: rest)).dropWhile isParameter).dropWhile isIntermediate =
      c :: rest := by
    cases is with
    | nil => rw [List.nil_append, dropWhile_behind hps hparameter, List.dropWhile_cons,
        if_neg (by simp [hintermediate])]
    | cons i is =>
      have hi : isParameter i = false := by
        refine Bool.eq_false_iff.mpr fun hp => ?_
        have := of_isParameter hp
        have := isIntermediate_iff.mp (his i List.mem_cons_self)
        omega
      rw [List.cons_append, dropWhile_behind hps hi, ← List.cons_append,
        dropWhile_behind his hintermediate]
  simp only [List.cons_append, List.append_assoc, List.nil_append, afterSequence?, hcut]
  rw [if_pos hc]

theorem of_afterSequence? (h : afterSequence? cs = some rest) :
    ∃ w, IsSequence w ∧ cs = w ++ rest := by
  unfold afterSequence? at h
  split at h
  · rename_i body
    split at h
    · rename_i c more hcut
      split at h
      · rename_i hc
        cases h
        have hps := List.takeWhile_append_dropWhile (p := isParameter) (l := body)
        have his := List.takeWhile_append_dropWhile (p := isIntermediate)
          (l := body.dropWhile isParameter)
        refine ⟨_, ⟨body.takeWhile isParameter,
          (body.dropWhile isParameter).takeWhile isIntermediate, c, rfl,
          List.all_eq_true.mp List.all_takeWhile, List.all_eq_true.mp List.all_takeWhile, hc⟩, ?_⟩
        rw [hcut] at his
        simp only [List.cons_append, List.append_assoc, List.nil_append, his, hps]
      · cases h
    · cases h
  · cases h

/-- Where a sequence stands in front, it is the only one. -/
theorem IsSequence.unique (hw : IsSequence w) (hx : IsSequence x) (h : w ++ u = x ++ v) :
    u = v := by
  have hcut := afterSequence?_of_isSequence hw u
  rw [h, afterSequence?_of_isSequence hx v] at hcut
  exact (Option.some.inj hcut).symm

/-! Taking sequences away. -/

theorem strip_of_sequence (h : afterSequence? (c :: cs) = some rest) :
    strip (c :: cs) = strip rest := by
  rw [strip]
  split
  · simp_all
  · simp_all

theorem strip_of_char (h : afterSequence? (c :: cs) = none) : strip (c :: cs) = c :: strip cs := by
  rw [strip]
  split
  · simp_all
  · rfl

theorem strip_isSequence (h : IsSequence w) (rest : List Char) : strip (w ++ rest) = strip rest := by
  have hcut := afterSequence?_of_isSequence h rest
  obtain ⟨t, rfl, -, -⟩ := h.cons
  exact strip_of_sequence hcut

theorem strip_plain (h : c ≠ '\x1b') (cs : List Char) : strip (c :: cs) = c :: strip cs := by
  refine strip_of_char ?_
  rw [afterSequence?]
  intro rest hstart
  cases hstart
  exact h rfl

theorem strip_of_no_escape (h : '\x1b' ∉ cs) : strip cs = cs := by
  induction cs with
  | nil => rw [strip]
  | cons c cs ih =>
    have hc : c ≠ '\x1b' := fun he => h (by simp [he])
    rw [strip_plain hc, ih fun hm => h (List.mem_cons_of_mem c hm)]

/-- No sequence reaches over a character that bounds them. -/
theorem afterSequence?_bounds (hd : Bounds d) (hcs : cs ≠ []) (ds : List Char) :
    afterSequence? (cs ++ d :: ds) = (afterSequence? cs).map (· ++ d :: ds) := by
  cases hcut : afterSequence? cs with
  | some rest =>
    obtain ⟨w, hw, rfl⟩ := of_afterSequence? hcut
    rw [List.append_assoc, afterSequence?_of_isSequence hw]
    rfl
  | none =>
    rw [Option.map_none, Option.eq_none_iff_forall_ne_some]
    intro rest hrest
    obtain ⟨w, hw, hparts⟩ := of_afterSequence? hrest
    obtain ⟨t, rfl, htail⟩ | ⟨t, rfl, -⟩ := List.append_eq_append_iff.mp hparts
    · cases t with
      | nil =>
        have hwhole := afterSequence?_of_isSequence hw []
        rw [List.append_nil, List.append_nil, hcut] at hwhole
        cases hwhole
      | cons e t =>
        cases htail
        obtain ⟨c, cs, rfl⟩ := List.exists_cons_of_ne_nil hcs
        obtain ⟨_, hstart, -, hbounds⟩ := hw.cons
        cases hstart
        exact hbounds d (by simp) hd
    · rw [afterSequence?_of_isSequence hw] at hcut
      cases hcut

/-- The parts on both sides of such a character are stripped on their own. -/
theorem strip_bounds (hd : Bounds d) (cs ds : List Char) :
    strip (cs ++ d :: ds) = strip cs ++ strip (d :: ds) := by
  fun_induction strip cs with
  | case1 => rfl
  | case2 c rest after h ih =>
    have hcut := afterSequence?_bounds hd (List.cons_ne_nil c rest) ds
    rw [h, List.cons_append] at hcut
    rw [List.cons_append, strip_of_sequence hcut, ih]
  | case3 c rest h ih =>
    have hcut := afterSequence?_bounds hd (List.cons_ne_nil c rest) ds
    rw [h, List.cons_append] at hcut
    rw [List.cons_append, strip_of_char hcut, ih, List.cons_append]

theorem strip_feed (cs ds : List Char) :
    strip (cs ++ '\n' :: ds) = strip cs ++ '\n' :: strip ds := by
  rw [strip_bounds bounds_feed, strip_plain (by decide)]

/-- A sequence is taken away wherever it stands, and the parts around it are stripped on their own. -/
theorem strip_around (h : IsSequence w) (before behind : List Char) :
    strip (before ++ w ++ behind) = strip before ++ strip behind := by
  have hbehind := strip_isSequence h behind
  obtain ⟨t, rfl, -, -⟩ := h.cons
  rw [List.append_assoc, List.cons_append, strip_bounds bounds_escape, ← List.cons_append, hbehind]

/-! What is left. -/

/-- Whether a text holds a sequence. -/
def HasSequence (cs : List Char) : Prop := ∃ before w behind, cs = before ++ w ++ behind ∧ IsSequence w

theorem strip_length (cs : List Char) : (strip cs).length ≤ cs.length := by
  fun_induction strip cs with
  | case1 => exact Nat.le_refl _
  | case2 c rest after h ih => exact Nat.le_trans ih (Nat.le_of_lt (afterSequence?_shorter h))
  | case3 c rest h ih => exact Nat.succ_le_succ ih

/-- A text stays as it is just if it holds no sequence. -/
theorem strip_eq_self_iff : strip cs = cs ↔ ¬ HasSequence cs := by
  constructor
  · rintro hsame ⟨before, w, behind, rfl, hw⟩
    have hbefore := strip_length before
    have hbehind := strip_length behind
    have hlength := congrArg List.length hsame
    obtain ⟨t, rfl, -, -⟩ := hw.cons
    rw [strip_around hw] at hlength
    simp only [List.length_append, List.length_cons] at hlength
    omega
  · intro hnone
    induction cs with
    | nil => rw [strip]
    | cons c cs ih =>
      have hcut : afterSequence? (c :: cs) = none := by
        refine Option.eq_none_iff_forall_ne_some.mpr fun rest hrest => hnone ?_
        obtain ⟨w, hw, hparts⟩ := of_afterSequence? hrest
        exact ⟨[], w, rest, hparts, hw⟩
      rw [strip_of_char hcut, ih]
      rintro ⟨before, w, behind, rfl, hw⟩
      exact hnone ⟨c :: before, w, behind, rfl, hw⟩

/-- Characters with whole sequences in front of some of them: `Spread w x` says that `x` comes of `w`
in this way. -/
inductive Spread : List Char → List Char → Prop
  | last (c : Char) : Spread [c] [c]
  | keep (c : Char) {w x : List Char} : Spread w x → Spread (c :: w) (c :: x)
  | insert {s w x : List Char} : IsSequence s → Spread w x → Spread w (s ++ x)

/-- A sequence of the text is interrupted: whole sequences stand among its characters. -/
def Interrupted (cs : List Char) : Prop :=
  ∃ before w x behind, cs = before ++ '\x1b' :: (x ++ behind) ∧ IsSequence ('\x1b' :: w) ∧
    Spread w x ∧ x ≠ w

/-- What stands in front of a character that is kept, and what is left of the rest. -/
theorem of_strip (h : strip cs = u ++ c :: v) : ∃ before rest, cs = before ++ c :: rest ∧
    afterSequence? (c :: rest) = none ∧ strip rest = v := by
  fun_induction strip cs generalizing u with
  | case1 => simp at h
  | case2 d rest after hcut ih =>
    obtain ⟨before, rest', rfl, hnone, hrest⟩ := ih h
    obtain ⟨w, -, hparts⟩ := of_afterSequence? hcut
    exact ⟨w ++ before, rest', by rw [hparts, List.append_assoc], hnone, hrest⟩
  | case3 d rest hcut ih =>
    cases u with
    | nil =>
      cases h
      exact ⟨[], rest, rfl, hcut, rfl⟩
    | cons e u =>
      obtain ⟨rfl, hrest⟩ := List.cons.inj h
      obtain ⟨before, rest', rfl, hnone, hrest⟩ := ih hrest
      exact ⟨d :: before, rest', rfl, hnone, hrest⟩

/-- Characters that are left stand in the text with sequences in front of some of them. -/
theorem spread_of_strip (h : strip cs = w ++ v) (hw : w ≠ []) :
    ∃ x behind, cs = x ++ behind ∧ Spread w x := by
  fun_induction strip cs generalizing w with
  | case1 => simp_all
  | case2 d rest after hcut ih =>
    obtain ⟨x, behind, rfl, hx⟩ := ih h hw
    obtain ⟨s, hs, hparts⟩ := of_afterSequence? hcut
    exact ⟨s ++ x, behind, by rw [hparts, List.append_assoc], .insert hs hx⟩
  | case3 d rest hcut ih =>
    obtain ⟨c, w, rfl⟩ := List.exists_cons_of_ne_nil hw
    obtain ⟨rfl, hrest⟩ := List.cons.inj h
    by_cases hlast : w = []
    · subst hlast
      exact ⟨[d], rest, rfl, .last d⟩
    · obtain ⟨x, behind, rfl, hx⟩ := ih hrest hlast
      exact ⟨d :: x, behind, rfl, .keep d hx⟩

/-- Of characters with sequences in front of some of them the characters are left. -/
theorem Spread.strip_eq (h : Spread w x) (hw : '\x1b' ∉ w) (behind : List Char) :
    strip (x ++ behind) = w ++ strip behind := by
  induction h with
  | last c => exact strip_plain (fun hc => hw (by simp [hc])) behind
  | keep c hx ih =>
    rw [List.cons_append, strip_plain (fun hc => hw (by simp [hc])),
      ih fun hmem => hw (List.mem_cons_of_mem c hmem)]
    rfl
  | insert hs hx ih => rw [List.append_assoc, strip_isSequence hs, ih hw]

theorem Spread.ne_nil (h : Spread w x) : w ≠ [] := by
  induction h with
  | last c => exact List.cons_ne_nil c []
  | keep c hx ih => exact List.cons_ne_nil c _
  | insert hs hx ih => exact ih

/-- The first of the sequences stands behind a beginning of the characters. -/
theorem Spread.first (h : Spread w x) (hne : x ≠ w) :
    ∃ before after rest, w = before ++ after ∧ after ≠ [] ∧ x = before ++ '\x1b' :: rest := by
  induction h with
  | last c => exact absurd rfl hne
  | keep c hx ih =>
    obtain ⟨before, after, rest, rfl, hafter, rfl⟩ := ih fun hsame => hne (by rw [hsame])
    exact ⟨c :: before, after, rest, rfl, hafter, rfl⟩
  | @insert s w x hs hx ih =>
    obtain ⟨t, rfl, -, -⟩ := hs.cons
    exact ⟨[], w, t ++ x, rfl, hx.ne_nil, rfl⟩

/-- The escape character of a sequence that is interrupted begins no sequence of the text. -/
theorem afterSequence?_interrupted (hw : IsSequence ('\x1b' :: w)) (hx : Spread w x) (hne : x ≠ w)
    (behind : List Char) : afterSequence? ('\x1b' :: (x ++ behind)) = none := by
  refine Option.eq_none_iff_forall_ne_some.mpr fun rest hrest => ?_
  obtain ⟨s, hs, hparts⟩ := of_afterSequence? hrest
  obtain ⟨before, after, more, rfl, hafter, rfl⟩ := hx.first hne
  obtain ⟨t, rfl, -, hinside⟩ := hs.cons
  -- A sequence in front would be a part of the one that is interrupted.
  have hshort : ∀ y, before ≠ t ++ y := by
    rintro y rfl
    have htail : y ++ after = [] := hs.unique hw (by simp)
    exact hafter (List.append_eq_nil_iff.mp htail).2
  rw [List.append_assoc, List.cons_append, List.cons_append, List.cons.injEq] at hparts
  obtain ⟨y, rfl, hy⟩ | ⟨y, hy, -⟩ := List.append_eq_append_iff.mp hparts.2
  · cases y with
    | nil => exact hshort [] (by simp)
    | cons e y =>
      obtain ⟨rfl, -⟩ := List.cons.inj hy
      exact hinside '\x1b' (by simp) bounds_escape
  · exact hshort y hy

/-- A sequence is left just where one was interrupted by others. -/
theorem hasSequence_strip_iff : HasSequence (strip cs) ↔ Interrupted cs := by
  constructor
  · rintro ⟨u, w, v, hleft, hw⟩
    obtain ⟨t, rfl, hne, -⟩ := hw.cons
    rw [List.append_assoc, List.cons_append] at hleft
    obtain ⟨before, rest, rfl, hnone, hrest⟩ := of_strip hleft
    obtain ⟨x, behind, rfl, hx⟩ := spread_of_strip hrest hne
    refine ⟨before, t, x, behind, rfl, hw, hx, ?_⟩
    rintro rfl
    rw [← List.cons_append, afterSequence?_of_isSequence hw] at hnone
    cases hnone
  · rintro ⟨before, w, x, behind, rfl, hw, hx, hne⟩
    have hinside : '\x1b' ∉ w := by
      obtain ⟨t, hstart, -, hinside⟩ := hw.cons
      cases hstart
      exact fun hmem => hinside _ hmem bounds_escape
    rw [strip_bounds bounds_escape, strip_of_char (afterSequence?_interrupted hw hx hne behind),
      hx.strip_eq hinside]
    exact ⟨strip before, '\x1b' :: w, strip behind, by simp, hw⟩

/-- Stripping a text leaves no sequence in it, or what is the same, nothing for another stripping to
take away, just where none of its sequences is interrupted by others. A text without escape characters
stays as it is. -/
theorem stripText_leaves_none_iff (s : String) :
    (¬ HasSequence (stripText s).toList ↔ ¬ Interrupted s.toList) ∧
      (stripText (stripText s) = stripText s ↔ ¬ Interrupted s.toList) ∧
      ('\x1b' ∉ s.toList → stripText s = s) := by
  have hleft : (stripText s).toList = strip s.toList := by simp [stripText]
  refine ⟨?_, ?_, fun hnone => ?_⟩
  · rw [hleft, hasSequence_strip_iff]
  · rw [stripText, hleft, ← hasSequence_strip_iff, ← strip_eq_self_iff]
    exact String.ofList_inj
  · rw [stripText, strip_of_no_escape hnone, String.ofList_toList]

/-- Behind an escape character a sequence leaves the rest of another one. -/
theorem stripText_leaves_joined : HasSequence (stripText "\x1b\x1b[m[m").toList ∧
    stripText (stripText "\x1b\x1b[m[m") ≠ stripText "\x1b\x1b[m[m" := by
  have hjoined : stripText "\x1b\x1b[m[m" = "\x1b[m" := by decide +kernel
  rw [hjoined]
  exact ⟨⟨[], ['\x1b', '[', 'm'], [], rfl, [], [], 'm', rfl, by simp, by simp, by decide⟩,
    by decide +kernel⟩

end Walkthrough.Text.Ansi
