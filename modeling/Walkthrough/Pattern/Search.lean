import Walkthrough.Pattern.Reader
import Walkthrough.Text.CaseMates

/-! Searching a text for a pattern. -/
namespace Walkthrough.Pattern

/-- A place in a text: the characters before it, nearest first, and those after it. -/
structure Cursor where
  before : List Char
  rest : List Char
  deriving DecidableEq, Repr

namespace Cursor

def advance? (c : Cursor) : Option (Char × Cursor) :=
  match c.rest with
  | [] => none
  | x :: rest => some (x, ⟨x :: c.before, rest⟩)

/-- The place so many characters further back. -/
def back? : Nat → Cursor → Option Cursor
  | 0, c => some c
  | n + 1, c =>
    match c.before with
    | [] => none
    | x :: before => back? n ⟨before, x :: c.rest⟩

end Cursor

/-- What each group last matched. -/
abbrev Captures := List (Nat × List Char)

abbrev Found := Option (Cursor × Captures)

abbrev Continuation := Cursor → Captures → Found

def isWord (f : Flags) (c : Char) : Bool :=
  c = '_' || if f.ascii then c.isAlphanum else Text.isAlphanumeric c

def Category.holds (f : Flags) (c : Char) : Category → Bool
  | digit => if f.ascii then c.isDigit else (Text.digitValue? c).isSome
  | space => if f.ascii then Text.isAsciiBlank c else Text.isBlank c
  | word => isWord f c

/-- The small form under which characters are compared when case is ignored. -/
def fold (f : Flags) (n : Nat) : Nat :=
  if f.ascii then (Char.ofNat n).toLower.toNat else Text.foldCase n

/-- The code points that count as the given small form. -/
def mates (f : Flags) (small : Nat) : List Nat :=
  if f.ascii then [small, (Char.ofNat small).toUpper.toNat] else Text.caseMates small

/-- Whether an item holds one of the code points that the character counts as. -/
def SetItem.holds (f : Flags) (c : Char) (codes : List Nat) : SetItem → Bool
  | char n => codes.contains n
  | range low high => codes.any fun n => decide (low ≤ n) && decide (n ≤ high)
  | category k negated => k.holds f c != negated

def setHolds (f : Flags) (negated : Bool) (items : List SetItem) (c : Char) : Bool :=
  let small := fold f c.toNat
  let (x, codes) := if f.ignoreCase then (Char.ofNat small, mates f small) else (c, [c.toNat])
  items.any (·.holds f x codes) != negated

def atBoundary (f : Flags) (c : Cursor) : Bool :=
  c.before.head?.any (isWord f) != c.rest.head?.any (isWord f)

def Anchor.holds (f : Flags) (c : Cursor) : Anchor → Bool
  | lineStart => c.before.isEmpty || (f.multiline && c.before.head? == some '\n')
  | lineEnd => c.rest.isEmpty || c.rest == ['\n'] || (f.multiline && c.rest.head? == some '\n')
  | textStart => c.before.isEmpty
  | textEnd => c.rest.isEmpty
  | boundary => atBoundary f c
  | noBoundary => !atBoundary f c && !(c.before.isEmpty && c.rest.isEmpty)

/-- The text after a given one, which must come next. -/
def skipText (f : Flags) : List Char → Cursor → Option Cursor
  | [], c => some c
  | x :: more, c =>
    match c.advance? with
    | none => none
    | some (y, next) =>
      if x = y || (f.ignoreCase && fold f x.toNat == fold f y.toNat) then skipText f more next
      else none

/-- Repetitions that take as many as they can, giving back one by one. `last` is where the latest
optional one started: one that matches nothing is not followed by another. -/
def repeatGreedy (once : Cursor → Captures → Continuation → Found) (least : Nat)
    (most : Option Nat) (k : Continuation) :
    Nat → Nat → Option Cursor → Cursor → Captures → Found
  | 0, _, _, c, caps => k c caps
  | fuel + 1, count, last, c, caps =>
    if count < least then
      once c caps (repeatGreedy once least most k fuel (count + 1) last)
    else if most.all (count < ·) && last != some c then
      match once c caps (repeatGreedy once least most k fuel (count + 1) (some c)) with
      | some r => some r
      | none => k c caps
    else k c caps

/-- Repetitions that take as few as they can. -/
def repeatReluctant (once : Cursor → Captures → Continuation → Found) (least : Nat)
    (most : Option Nat) (k : Continuation) :
    Nat → Nat → Option Cursor → Cursor → Captures → Found
  | 0, _, _, c, caps => k c caps
  | fuel + 1, count, last, c, caps =>
    if count < least then
      once c caps (repeatReluctant once least most k fuel (count + 1) last)
    else
      match k c caps with
      | some r => some r
      | none =>
        if most.all (count < ·) && last != some c then
          once c caps (repeatReluctant once least most k fuel (count + 1) (some c))
        else none

/-- Repetitions that take as many as they can and give none back. -/
def repeatPossessive (once : Cursor → Captures → Found) (least : Nat) (most : Option Nat) :
    Nat → Nat → Option Cursor → Cursor → Captures → Found
  | 0, _, _, c, caps => some (c, caps)
  | fuel + 1, count, last, c, caps =>
    if count < least then
      match once c caps with
      | some (c, caps) => repeatPossessive once least most fuel (count + 1) last c caps
      | none => none
    else if most.all (count < ·) && last != some c then
      match once c caps with
      | some (next, caps) => repeatPossessive once least most fuel (count + 1) (some c) next caps
      | none => some (c, caps)
    else some (c, caps)

def stop : Continuation := fun c caps => some (c, caps)

mutual

/-- Matches one part at a place and goes on with `k` behind it. -/
def matchNode (f : Flags) : Node → Cursor → Captures → Continuation → Found
  | .set negated items, c, caps, k =>
    match c.advance? with
    | some (x, next) => if setHolds f negated items x then k next caps else none
    | none => none
  | .any, c, caps, k =>
    match c.advance? with
    | some (x, next) => if x = '\n' && !f.dotAll then none else k next caps
    | none => none
  | .anchor a, c, caps, k => if a.holds f c then k c caps else none
  | .repeats mode least most body, c, caps, k =>
    let fuel := least + c.rest.length + 2
    match mode with
    | .greedy => repeatGreedy (fun c s k => matchSeq f body c s k) least most k fuel 0 none c caps
    | .reluctant =>
      repeatReluctant (fun c s k => matchSeq f body c s k) least most k fuel 0 none c caps
    | .possessive =>
      match repeatPossessive (fun c s => matchSeq f body c s stop) least most fuel 0 none c caps with
      | some (c, caps) => k c caps
      | none => none
  | .branches options, c, caps, k => matchOptions f options c caps k
  | .group number on off body, c, caps, k =>
    matchSeq (f.inside on off) body c caps fun d caps =>
      match number with
      | none => k d caps
      | some n => k d ((n, c.rest.take (c.rest.length - d.rest.length)) :: caps.filter (·.1 != n))
  | .atomic body, c, caps, k =>
    match matchSeq f body c caps stop with
    | some (d, caps) => k d caps
    | none => none
  | .reference n, c, caps, k =>
    match caps.find? (·.1 == n) with
    | none => none
    | some (_, text) =>
      match skipText f text c with
      | some d => k d caps
      | none => none
  | .look behind negated body, c, caps, k =>
    let start := match behind with
      | none => some c
      | some (width, _) => c.back? width
    let found := match start with
      | none => none
      | some d => matchSeq f body d caps stop
    match found with
    | some (_, inner) => if negated then none else k c inner
    | none => if negated then k c caps else none
  | .conditional n yes no, c, caps, k =>
    if caps.any (·.1 == n) then matchSeq f yes c caps k else matchSeq f no c caps k

def matchSeq (f : Flags) : List Node → Cursor → Captures → Continuation → Found
  | [], c, caps, k => k c caps
  | n :: rest, c, caps, k => matchNode f n c caps fun c caps => matchSeq f rest c caps k

def matchOptions (f : Flags) : List (List Node) → Cursor → Captures → Continuation → Found
  | [], _, _, _ => none
  | body :: rest, c, caps, k =>
    match matchSeq f body c caps k with
    | some r => some r
    | none => matchOptions f rest c caps k

end

/-- Tries every place from the first on. -/
def searchFrom (p : Pattern) (before : List Char) : List Char → Bool
  | [] => (matchSeq p.flags p.nodes ⟨before, []⟩ [] stop).isSome
  | c :: rest =>
    (matchSeq p.flags p.nodes ⟨before, c :: rest⟩ [] stop).isSome ||
      searchFrom p (c :: before) rest

/-- Whether the pattern matches anywhere in the text. -/
def search (p : Pattern) (text : String) : Bool := p.searchFrom [] text.toList

end Walkthrough.Pattern
