import Walkthrough.Proofs.Json.Value

/-!
Documents are read as they were written, with or without escapes beyond ASCII, unless a whole number
is too long to be read.
-/
namespace Walkthrough.Json

variable {ascii : Bool} {v : Json} {items : List Json} {members : Members} {fuel : Nat}
  {rest : List Char}

/-- What comes of a text in front of `rest` that holds `v`. -/
def reading (v : Json) (tooLong : Option Nat) (rest : List Char) :
    Except ReadError (Json × List Char) :=
  match tooLong with
  | some digits => .error (.hugeInteger digits)
  | none => .ok (v, rest)

/-- A document is read as it is written, with enough fuel. -/
def ReadBack (ascii : Bool) (v : Json) : Prop :=
  ∀ fuel rest, (chars ascii v).length ≤ fuel → Closes rest →
    readValue fuel (chars ascii v ++ rest) = reading v v.tooLong? rest

theorem isDocumentBlank_eq_false {c : Char} (h : c ∉ otherStarts) :
    isDocumentBlank c = false ∧ c ≠ ']' ∧ c ≠ '\uFEFF' := by
  simp only [otherStarts, List.mem_cons, not_or] at h
  simp [isDocumentBlank, h]

/-- A written document starts with no blank, no closing bracket and no byte order mark. -/
theorem chars_cons (ascii : Bool) (h : v.Faithful) : ∃ c cs, chars ascii v = c :: cs ∧
    isDocumentBlank c = false ∧ c ≠ ']' ∧ c ≠ '\uFEFF' := by
  cases v with
  | null => exact ⟨_, _, rfl, by decide⟩
  | bool b => cases b <;> exact ⟨_, _, rfl, by decide⟩
  | int n =>
    obtain ⟨c, cs, hcs, hc⟩ := intChars_cons n
    exact ⟨c, cs, hcs, isDocumentBlank_eq_false hc⟩
  | float x =>
    obtain ⟨c, cs, hcs, hc, -⟩ := h
    exact ⟨c, cs, hcs, isDocumentBlank_eq_false hc⟩
  | str s => exact ⟨_, _, rfl, by decide⟩
  | arr items => cases items <;> exact ⟨_, _, rfl, by decide⟩
  | obj members =>
    rcases members with - | ⟨⟨k, v⟩, rest⟩ <;> exact ⟨_, _, rfl, by decide⟩

theorem skipBlanks_chars (ascii : Bool) (h : v.Faithful) (rest : List Char) :
    skipBlanks (chars ascii v ++ rest) = chars ascii v ++ rest := by
  obtain ⟨c, cs, hcs, hc, -⟩ := chars_cons ascii h
  rw [hcs]
  simp [skipBlanks, hc]

theorem itemChars_length (ascii : Bool) (items : List Json) :
    0 < (itemChars ascii items).length := by
  cases items <;> simp [itemChars]

section Steps

variable {cs : List Char} {before : List Json} {earlier : Members} {k : String} {e : ReadError}

theorem skipBlanks_comma (rest : List Char) : skipBlanks (',' :: rest) = ',' :: rest := rfl

theorem skipBlanks_bracket (rest : List Char) : skipBlanks (']' :: rest) = ']' :: rest := rfl

theorem skipBlanks_brace (rest : List Char) : skipBlanks ('}' :: rest) = '}' :: rest := rfl

theorem skipBlanks_colon (rest : List Char) : skipBlanks (':' :: rest) = ':' :: rest := rfl

theorem skipBlanks_space (rest : List Char) : skipBlanks (' ' :: rest) = skipBlanks rest := rfl

theorem readItems_error (h : readValue fuel cs = .error e) :
    readItems (fuel + 1) before cs = .error e := by
  rw [readItems, h]
  rfl

theorem readItems_last (h : readValue fuel cs = .ok (v, ']' :: rest)) :
    readItems (fuel + 1) before cs = .ok (arr (before.reverse ++ [v]), rest) := by
  rw [readItems, h]
  simp only [bind, Except.bind, skipBlanks_bracket, List.reverse_cons]

theorem readItems_next (h : readValue fuel cs = .ok (v, ',' :: ' ' :: rest))
    (hrest : skipBlanks rest = rest) :
    readItems (fuel + 1) before cs = readItems fuel (v :: before) rest := by
  rw [readItems, h]
  simp only [bind, Except.bind, skipBlanks_comma, skipBlanks_space, hrest]

variable {inner after : List Char}

theorem readMembers_error (hk : readText inner = .ok (k, ':' :: ' ' :: after))
    (hafter : skipBlanks after = after) (h : readValue fuel after = .error e) :
    readMembers (fuel + 1) earlier ('"' :: inner) = .error e := by
  rw [readMembers, hk]
  simp only [bind, Except.bind, skipBlanks_colon, skipBlanks_space, hafter, h]

theorem readMembers_last (hk : readText inner = .ok (k, ':' :: ' ' :: after))
    (hafter : skipBlanks after = after) (h : readValue fuel after = .ok (v, '}' :: rest)) :
    readMembers (fuel + 1) earlier ('"' :: inner) =
      .ok (obj (Members.ofPairs (earlier.reverse ++ [(k, v)])), rest) := by
  rw [readMembers, hk]
  simp only [bind, Except.bind, skipBlanks_colon, skipBlanks_space, hafter, h, skipBlanks_brace,
    List.reverse_cons]

theorem readMembers_next (hk : readText inner = .ok (k, ':' :: ' ' :: after))
    (hafter : skipBlanks after = after)
    (h : readValue fuel after = .ok (v, ',' :: ' ' :: rest)) (hrest : skipBlanks rest = rest) :
    readMembers (fuel + 1) earlier ('"' :: inner) =
      readMembers fuel ((k, v) :: earlier) rest := by
  rw [readMembers, hk]
  simp only [bind, Except.bind, skipBlanks_colon, skipBlanks_space, hafter, h, skipBlanks_comma,
    hrest]

end Steps

/-- The items of an array, if each of them is read back. -/
theorem readItems_chars (hread : ∀ x ∈ v :: items, ReadBack ascii x)
    (hfaithful : ∀ x ∈ v :: items, x.Faithful) (before : List Json) (rest : List Char)
    (hfuel : (chars ascii v ++ itemChars ascii items).length ≤ fuel) :
    readItems fuel before (chars ascii v ++ (itemChars ascii items ++ rest)) =
      reading (arr (before.reverse ++ v :: items)) (tooLongItems? (v :: items)) rest := by
  induction items generalizing v fuel before with
  | nil =>
    obtain ⟨fuel, rfl⟩ : ∃ n, fuel = n + 1 := ⟨fuel - 1, by simp [itemChars] at hfuel; omega⟩
    have hv := hread v List.mem_cons_self fuel (']' :: rest)
      (by simpa [itemChars] using hfuel) (by simp [Closes])
    simp only [tooLongItems?, Option.or_none, itemChars, List.cons_append, List.nil_append]
    cases htoo : v.tooLong? with
    | some digits =>
      rw [htoo] at hv
      exact readItems_error hv
    | none =>
      rw [htoo] at hv
      exact readItems_last hv
  | cons w items ih =>
    have hpos := itemChars_length ascii items
    simp only [itemChars, List.length_append, List.length_cons] at hfuel
    obtain ⟨fuel, rfl⟩ : ∃ n, fuel = n + 1 := ⟨fuel - 1, by omega⟩
    have hv := hread v List.mem_cons_self fuel
      (',' :: ' ' :: (chars ascii w ++ (itemChars ascii items ++ rest))) (by omega)
      (by simp [Closes])
    have hw := skipBlanks_chars ascii (hfaithful w (by simp)) (itemChars ascii items ++ rest)
    have hnext : readItems fuel (v :: before) (chars ascii w ++ (itemChars ascii items ++ rest)) =
        reading (arr ((v :: before).reverse ++ w :: items)) (tooLongItems? (w :: items)) rest :=
      ih (fun x hx => hread x (List.mem_cons_of_mem v hx))
        (fun x hx => hfaithful x (List.mem_cons_of_mem v hx)) (v :: before)
        (by simp only [List.length_append]; omega)
    rw [tooLongItems?]
    simp only [itemChars, List.cons_append, List.append_assoc]
    cases htoo : v.tooLong? with
    | some digits =>
      rw [htoo] at hv
      exact readItems_error hv
    | none =>
      rw [htoo] at hv
      rw [readItems_next hv hw, hnext, Option.none_or]
      simp

/-- The members of an object, if the value of each of them is read back. -/
theorem readMembers_chars {k : String} (hread : ∀ m ∈ (k, v) :: members, ReadBack ascii m.2)
    (hfaithful : ∀ m ∈ (k, v) :: members, m.2.Faithful) (before : Members) (rest : List Char)
    (hfuel : (stringChars ascii k ++ ':' :: ' ' :: chars ascii v ++
      memberChars ascii members).length ≤ fuel) :
    readMembers fuel before (stringChars ascii k ++
        (':' :: ' ' :: (chars ascii v ++ (memberChars ascii members ++ rest)))) =
      reading (obj (Members.ofPairs (before.reverse ++ (k, v) :: members)))
        (tooLongMembers? ((k, v) :: members)) rest := by
  induction members generalizing k v fuel before with
  | nil =>
    simp only [stringChars, memberChars, List.length_append, List.length_cons, List.length_nil]
      at hfuel
    obtain ⟨fuel, rfl⟩ : ∃ n, fuel = n + 1 := ⟨fuel - 1, by omega⟩
    have hk := readText_stringChars ascii k (':' :: ' ' :: (chars ascii v ++ '}' :: rest))
    have hblank := skipBlanks_chars ascii (hfaithful _ List.mem_cons_self) ('}' :: rest)
    have hv := hread _ List.mem_cons_self fuel ('}' :: rest) (by dsimp only; omega)
      (by simp [Closes])
    simp only [stringChars, memberChars, List.cons_append, List.nil_append, List.append_assoc,
      tooLongMembers?, Option.or_none]
    cases htoo : v.tooLong? with
    | some digits =>
      rw [htoo] at hv
      exact readMembers_error hk hblank hv
    | none =>
      rw [htoo] at hv
      exact readMembers_last hk hblank hv
  | cons m members ih =>
    obtain ⟨l, w⟩ := m
    simp only [stringChars, memberChars, List.length_append, List.length_cons, List.length_nil]
      at hfuel
    obtain ⟨fuel, rfl⟩ : ∃ n, fuel = n + 1 := ⟨fuel - 1, by omega⟩
    let more := stringChars ascii l ++
      (':' :: ' ' :: (chars ascii w ++ (memberChars ascii members ++ rest)))
    have hk := readText_stringChars ascii k (':' :: ' ' :: (chars ascii v ++ ',' :: ' ' :: more))
    have hblank := skipBlanks_chars ascii (hfaithful _ List.mem_cons_self) (',' :: ' ' :: more)
    have hv := hread _ List.mem_cons_self fuel (',' :: ' ' :: more) (by dsimp only; omega)
      (by simp [Closes])
    have hnext : readMembers fuel ((k, v) :: before) more =
        reading (obj (Members.ofPairs (((k, v) :: before).reverse ++ (l, w) :: members)))
          (tooLongMembers? ((l, w) :: members)) rest :=
      ih (fun x hx => hread x (List.mem_cons_of_mem _ hx))
        (fun x hx => hfaithful x (List.mem_cons_of_mem _ hx)) ((k, v) :: before)
        (by simp only [stringChars, List.length_append, List.length_cons, List.length_nil]; omega)
    have hmore : memberChars ascii ((l, w) :: members) ++ rest = ',' :: ' ' :: more := by
      simp [memberChars, more]
    rw [tooLongMembers?, hmore]
    simp only [stringChars, List.cons_append, List.append_assoc, List.nil_append]
    cases htoo : v.tooLong? with
    | some digits =>
      rw [htoo] at hv
      exact readMembers_error hk hblank hv
    | none =>
      rw [htoo] at hv
      rw [readMembers_next hk hblank hv rfl, hnext, Option.none_or]
      simp

theorem readValue_scalar {c : Char} (cs : List Char) (hc : c ∉ otherStarts) :
    readValue (fuel + 1) (c :: cs) = readScalar (c :: cs) := by
  simp only [otherStarts, List.mem_cons, not_or] at hc
  unfold readValue
  split <;> simp_all

theorem readValue_bracket {cs : List Char} (hblank : skipBlanks cs = cs)
    (hhead : cs.head? ≠ some ']') : readValue (fuel + 1) ('[' :: cs) = readItems fuel [] cs := by
  rw [readValue, hblank]
  split
  · exact absurd rfl hhead
  · rfl

theorem readValue_brace (cs : List Char) :
    readValue (fuel + 1) ('{' :: '"' :: cs) = readMembers fuel [] ('"' :: cs) := by
  rw [readValue]
  rfl

theorem readBack_arr (hread : ∀ x ∈ items, ReadBack ascii x) (hfaithful : (arr items).Faithful) :
    ReadBack ascii (arr items) := by
  intro fuel rest hfuel _
  rw [Faithful, faithfulItems_iff] at hfaithful
  cases items with
  | nil =>
    obtain ⟨fuel, rfl⟩ : ∃ n, fuel = n + 1 := ⟨fuel - 1, by simp [chars] at hfuel; omega⟩
    rfl
  | cons v items =>
    simp only [chars, List.length_append, List.length_cons] at hfuel
    obtain ⟨fuel, rfl⟩ : ∃ n, fuel = n + 1 := ⟨fuel - 1, by omega⟩
    have hv := hfaithful v List.mem_cons_self
    have hblank := skipBlanks_chars ascii hv (itemChars ascii items ++ rest)
    have hhead : (chars ascii v ++ (itemChars ascii items ++ rest)).head? ≠ some ']' := by
      obtain ⟨c, cs, hcs, -, hbracket, -⟩ := chars_cons ascii hv
      simpa [hcs] using hbracket
    simp only [chars, List.cons_append, List.append_assoc]
    rw [readValue_bracket hblank hhead, readItems_chars hread hfaithful [] rest
      (by simp only [List.length_append]; omega)]
    rfl

theorem readBack_obj (hread : ∀ m ∈ members, ReadBack ascii m.2)
    (hfaithful : (obj members).Faithful) : ReadBack ascii (obj members) := by
  intro fuel rest hfuel _
  rw [Faithful, faithfulMembers_iff] at hfaithful
  obtain ⟨hnodup, hfaithful⟩ := hfaithful
  cases members with
  | nil =>
    obtain ⟨fuel, rfl⟩ : ∃ n, fuel = n + 1 := ⟨fuel - 1, by simp [chars] at hfuel; omega⟩
    rfl
  | cons m members =>
    obtain ⟨k, v⟩ := m
    simp only [chars, List.length_append, List.length_cons] at hfuel
    obtain ⟨fuel, rfl⟩ : ∃ n, fuel = n + 1 := ⟨fuel - 1, by omega⟩
    have hlength : (stringChars ascii k ++ ':' :: ' ' :: chars ascii v ++
        memberChars ascii members).length ≤ fuel := by
      simp only [List.length_append, List.length_cons]
      omega
    have hmembers := readMembers_chars hread hfaithful [] rest hlength
    have hchars : chars ascii (obj ((k, v) :: members)) ++ rest =
        '{' :: (stringChars ascii k ++
          (':' :: ' ' :: (chars ascii v ++ (memberChars ascii members ++ rest)))) := by
      simp [chars]
    rw [hchars, stringChars, List.cons_append, List.cons_append, readValue_brace]
    refine hmembers.trans ?_
    rw [List.reverse_nil, List.nil_append, Members.ofPairs_of_nodup hnodup]
    rfl

/-- Documents are read as they were written. -/
theorem readBack_of_faithful (ascii : Bool) (v : Json) (h : v.Faithful) : ReadBack ascii v := by
  induction v using Json.induction with
  | null =>
    intro fuel rest hfuel _
    obtain ⟨fuel, rfl⟩ : ∃ n, fuel = n + 1 := ⟨fuel - 1, by simp [chars] at hfuel; omega⟩
    rfl
  | bool b =>
    intro fuel rest hfuel _
    obtain ⟨fuel, rfl⟩ : ∃ n, fuel = n + 1 :=
      ⟨fuel - 1, by cases b <;> simp [chars] at hfuel <;> omega⟩
    cases b <;> rfl
  | int n =>
    intro fuel rest hfuel hrest
    obtain ⟨c, cs, hcs, hc⟩ := intChars_cons n
    obtain ⟨fuel, rfl⟩ : ∃ n, fuel = n + 1 := ⟨fuel - 1, by simp [chars, hcs] at hfuel; omega⟩
    have hread := readScalar_intChars n hrest
    rw [hcs] at hread
    rw [chars, hcs, List.cons_append, readValue_scalar _ hc, ← List.cons_append, hread]
    rfl
  | float x =>
    intro fuel rest hfuel hrest
    obtain ⟨c, cs, hcs, hc, hread⟩ := h
    obtain ⟨fuel, rfl⟩ : ∃ n, fuel = n + 1 := ⟨fuel - 1, by simp [chars, hcs] at hfuel; omega⟩
    rw [chars, hcs, List.cons_append, readValue_scalar _ hc, ← List.cons_append, hread rest hrest]
    rfl
  | str s =>
    intro fuel rest hfuel _
    obtain ⟨fuel, rfl⟩ : ∃ n, fuel = n + 1 :=
      ⟨fuel - 1, by simp [chars, stringChars] at hfuel; omega⟩
    simp only [chars, stringChars, List.cons_append, List.append_assoc, List.nil_append]
    rw [readValue, readText_stringChars]
    rfl
  | arr items ih =>
    exact readBack_arr (fun v hv => ih v hv (faithfulItems_iff.mp h v hv)) h
  | obj members ih =>
    exact readBack_obj (fun m hm => ih m hm (faithfulMembers_iff.mp h.2 m hm)) h

/-- A written document is read as itself, unless a whole number in it is too long to be read. -/
theorem read_render (ascii : Bool) (h : v.Faithful) :
    read (v.render ascii) =
      match v.tooLong? with
      | some digits => .error (.hugeInteger digits)
      | none => .ok v := by
  have hvalue := readBack_of_faithful ascii v h ((chars ascii v).length + 1) [] (by omega)
    (by simp [Closes])
  have hblank := skipBlanks_chars ascii h []
  have hhead : (chars ascii v).head? ≠ some '\uFEFF' := by
    obtain ⟨c, cs, hcs, -, -, hmark⟩ := chars_cons ascii h
    simpa [hcs] using hmark
  rw [List.append_nil] at hvalue hblank
  unfold read render
  rw [String.toList_ofList, readChars, if_neg hhead, hblank, hvalue]
  cases v.tooLong? <;> rfl

end Walkthrough.Json
