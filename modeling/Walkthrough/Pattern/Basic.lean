/-! Search patterns: their parts and what can be wrong with their text. -/
namespace Walkthrough.Pattern

/-- Modes in force for a part of a pattern. -/
structure Flags where
  ignoreCase : Bool := false
  multiline : Bool := false
  dotAll : Bool := false
  verbose : Bool := false
  ascii : Bool := false
  unicode : Bool := false
  template : Bool := false
  deriving DecidableEq, Repr, Inhabited

namespace Flags

def none : Flags := {}

/-- The modes of either side. -/
def union (a b : Flags) : Flags where
  ignoreCase := a.ignoreCase || b.ignoreCase
  multiline := a.multiline || b.multiline
  dotAll := a.dotAll || b.dotAll
  verbose := a.verbose || b.verbose
  ascii := a.ascii || b.ascii
  unicode := a.unicode || b.unicode
  template := a.template || b.template

def without (a b : Flags) : Flags where
  ignoreCase := a.ignoreCase && !b.ignoreCase
  multiline := a.multiline && !b.multiline
  dotAll := a.dotAll && !b.dotAll
  verbose := a.verbose && !b.verbose
  ascii := a.ascii && !b.ascii
  unicode := a.unicode && !b.unicode
  template := a.template && !b.template

def meet (a b : Flags) : Flags := a.without (a.without b)

def isEmpty (a : Flags) : Bool := a == none

/-- The alphabet that the classes follow. -/
def alphabet (a : Flags) : Flags := { ascii := a.ascii, unicode := a.unicode }

/-- The modes inside a group that turns some on and some off; a new alphabet replaces the old. -/
def inside (a on off : Flags) : Flags :=
  let base := if on.alphabet.isEmpty then a else { a with ascii := false, unicode := false }
  (base.union on).without off

end Flags

/-- Classes of characters with a letter of their own. -/
inductive Category where
  | digit
  | space
  | word
  deriving DecidableEq, Repr

inductive Anchor where
  | lineStart
  | lineEnd
  | textStart
  | textEnd
  | boundary
  | noBoundary
  deriving DecidableEq, Repr

/-- An item between square brackets. -/
inductive SetItem where
  | char (code : Nat)
  | range (low high : Nat)
  | category (c : Category) (negated : Bool)
  deriving DecidableEq, Repr

inductive RepeatMode where
  | greedy
  | reluctant
  | possessive
  deriving DecidableEq, Repr

/-- A part of a pattern. Groups are numbered from one; the width of a look behind is the least and
the greatest length of what it may match. -/
inductive Node where
  | set (negated : Bool) (items : List SetItem)
  | any
  | anchor (a : Anchor)
  | repeats (mode : RepeatMode) (least : Nat) (most : Option Nat) (body : List Node)
  | branches (options : List (List Node))
  | group (number : Option Nat) (on off : Flags) (body : List Node)
  | atomic (body : List Node)
  | reference (number : Nat)
  | look (behind : Option (Nat × Nat)) (negated : Bool) (body : List Node)
  | conditional (number : Nat) (yes no : List Node)
  deriving Inhabited

/-- Why a text is no pattern. -/
inductive Error where
  | fault (message : String) (position : Option Nat)
  | flags
  | hugeRepeat
  deriving DecidableEq, Repr

/-- The place of a fault; in a text of several lines also its line and column. -/
def placeText (pattern : List Char) (position : Nat) : String :=
  let before := pattern.take position
  let column := (before.reverse.takeWhile (· != '\n')).length + 1
  let line := before.count '\n' + 1
  s!" at position {position}" ++
    if pattern.contains '\n' then s!" (line {line}, column {column})" else ""

def Error.message (pattern : String) : Error → String
  | fault m none => m
  | fault m (some n) => m ++ placeText pattern.toList n
  | flags => "ASCII and UNICODE flags are incompatible"
  | hugeRepeat => "the repetition number is too large"

end Walkthrough.Pattern
