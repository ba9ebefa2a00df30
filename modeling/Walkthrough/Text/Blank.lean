/-! White space, trimming and line ends. -/
namespace Walkthrough.Text

/-- Space, the control characters that move the cursor or separate records, and the spaces of
other scripts. -/
def isBlank (c : Char) : Bool :=
  let n := c.toNat
  (9 ≤ n && n ≤ 13) || (28 ≤ n && n ≤ 32) || n == 0x85 || n == 0xA0 || n == 0x1680 ||
  (0x2000 ≤ n && n ≤ 0x200A) || n == 0x2028 || n == 0x2029 || n == 0x202F || n == 0x205F ||
  n == 0x3000

/-- White space of the ASCII range alone. -/
def isAsciiBlank (c : Char) : Bool :=
  let n := c.toNat
  (9 ≤ n && n ≤ 13) || n == 32

/-- The characters without those that `p` holds of at either end. -/
def trimBy (p : Char → Bool) (cs : List Char) : List Char :=
  ((cs.dropWhile p).reverse.dropWhile p).reverse

def trim (s : String) : String :=
  String.ofList (trimBy isBlank s.toList)

def trimRight (cs : List Char) : List Char :=
  (cs.reverse.dropWhile isBlank).reverse

/-- Whether a text holds nothing but white space. -/
def isBlankText (s : String) : Bool :=
  s.toList.all isBlank

/-- The characters that end a line; a carriage return with a line feed ends one line. -/
def isLineEnd (c : Char) : Bool :=
  let n := c.toNat
  (10 ≤ n && n ≤ 13) || (28 ≤ n && n ≤ 30) || n == 0x85 || n == 0x2028 || n == 0x2029

/-- The first line and what follows its end; `none` after the last line. -/
def breakLine : List Char → List Char × Option (List Char)
  | [] => ([], none)
  | '\r' :: '\n' :: rest => ([], some rest)
  | c :: rest =>
    if isLineEnd c then ([], some rest)
    else
      let (line, more) := breakLine rest
      (c :: line, more)

theorem breakLine_shorter {cs line rest : List Char} (h : breakLine cs = (line, some rest)) :
    rest.length < cs.length := by
  fun_induction breakLine cs generalizing line rest with
  | case1 => simp at h
  | case2 r => cases h; simp only [List.length_cons]; omega
  | case3 c r _ hc => cases h; simp only [List.length_cons]; omega
  | case4 c r _ hc l more hl ih =>
    simp only [Prod.mk.injEq] at h
    have hr : breakLine r = (l, some rest) := by rw [hl, h.2]
    have := ih hr
    simp only [List.length_cons]; omega

/-- The lines of a text without their ends; a line end at the very end opens no further line. -/
def lines (cs : List Char) : List (List Char) :=
  if cs.isEmpty then []
  else
    match _h : breakLine cs with
    | (line, none) => [line]
    | (line, some rest) => line :: lines rest
termination_by cs.length
decreasing_by exact breakLine_shorter (by assumption)

/-- Line feeds in place of carriage returns, alone or before a line feed. -/
def unifyLineEnds : List Char → List Char
  | [] => []
  | '\r' :: '\n' :: rest => '\n' :: unifyLineEnds rest
  | '\r' :: rest => '\n' :: unifyLineEnds rest
  | c :: rest => c :: unifyLineEnds rest

/-- The text up to its first line feed. -/
def firstLine (s : String) : String :=
  String.ofList (s.toList.takeWhile (· != '\n'))

end Walkthrough.Text
