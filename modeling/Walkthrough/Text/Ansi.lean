/-! Terminal control sequences in a text. -/
namespace Walkthrough.Text.Ansi

/-- Digits, semicolons and question marks. -/
def isParameter (c : Char) : Bool := c.isDigit || c = ';' || c = '?'

/-- The characters from the space to the slash. -/
def isIntermediate (c : Char) : Bool := ' ' ≤ c && c ≤ '/'

/-- The characters from the commercial at to the tilde. -/
def isFinal (c : Char) : Bool := '@' ≤ c && c ≤ '~'

/-- The text behind a control sequence that stands in front: an escape character with a bracket,
parameters, intermediate characters and a final one. -/
def afterSequence? : List Char → Option (List Char)
  | '\x1b' :: '[' :: rest =>
    match (rest.dropWhile isParameter).dropWhile isIntermediate with
    | c :: after => if isFinal c then some after else none
    | [] => none
  | _ => none

theorem afterSequence?_shorter {cs after : List Char} (h : afterSequence? cs = some after) :
    after.length < cs.length := by
  unfold afterSequence? at h
  split at h
  · rename_i rest
    have h₁ := (List.dropWhile_sublist isParameter (l := rest)).length_le
    have h₂ := (List.dropWhile_sublist isIntermediate (l := rest.dropWhile isParameter)).length_le
    split at h
    · rename_i c more hm
      split at h
      · simp only [Option.some.injEq] at h
        simp only [hm, List.length_cons, h] at h₂ ⊢
        omega
      · simp at h
    · simp at h
  · simp at h

/-- The text without its control sequences, which are taken away from left to right. -/
def strip (cs : List Char) : List Char :=
  match cs with
  | [] => []
  | c :: rest =>
    match _h : afterSequence? (c :: rest) with
    | some after => strip after
    | none => c :: strip rest
termination_by cs.length
decreasing_by
  · exact afterSequence?_shorter (by assumption)
  · simp

def stripText (s : String) : String := String.ofList (strip s.toList)

end Walkthrough.Text.Ansi
