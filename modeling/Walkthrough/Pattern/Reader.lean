import Walkthrough.Number.Whole
import Walkthrough.Pattern.Basic

/-! Reading patterns from text. -/
namespace Walkthrough.Pattern

/-- A character of the text, or a backslash with the character after it. -/
inductive Token where
  | plain (c : Char)
  | escaped (c : Char)
  deriving DecidableEq, Repr

def Token.chars : Token → List Char
  | plain c => [c]
  | escaped c => ['\\', c]

def Token.text (t : Token) : String := String.ofList t.chars

def Token.length (t : Token) : Nat := t.chars.length

/-- What is known while a pattern is read: the text ahead, and the groups so far with the widths of
those that are closed. -/
structure Progress where
  rest : List Char
  total : Nat
  flags : Flags := {}
  widths : List (Option (Nat × Nat)) := [none]
  names : List (String × Nat) := []
  lookBehind : Option Nat := none
  conditions : List (Nat × Nat) := []

abbrev Reading := StateT Progress (Except Error)

def position : Reading Nat := do
  let s ← get
  return s.total - s.rest.length

/-- Fails at the given distance before the text ahead. -/
def failBack {α : Type} (message : String) (distance : Nat) : Reading α := do
  throw (.fault message (some ((← position) - distance)))

def failAt {α : Type} (message : String) (place : Nat) : Reading α :=
  throw (.fault message (some place))

/-- A backslash must not end the text. -/
def checkEnd : Reading Unit := do
  if (← get).rest == ['\\'] then
    throw (.fault "bad escape (end of pattern)" (some ((← get).total - 1)))

def peek : Reading (Option Token) := do
  match (← get).rest with
  | '\\' :: c :: _ => return some (.escaped c)
  | c :: _ => return some (.plain c)
  | [] => return none

def peekIs (c : Char) : Reading Bool := do return (← peek) == some (.plain c)

/-- The next token, which is taken from the text. -/
def take : Reading (Option Token) := do
  let t ← peek
  modify fun s => { s with rest := s.rest.drop ((t.map Token.length).getD 0) }
  checkEnd
  return t

/-- Takes the character if it is next. -/
def accept (c : Char) : Reading Bool := do
  if ← peekIs c then
    let _ ← take
    return true
  else return false

/-- At most so many characters of a class. -/
def takeWhileIn (p : Char → Bool) : Nat → Reading (List Char)
  | 0 => return []
  | n + 1 => do
    match ← peek with
    | some (.plain c) =>
      if p c then
        let _ ← take
        return c :: (← takeWhileIn p n)
      else return []
    | _ => return []

/-- The text up to a closing mark, which is taken too. -/
def takeUntil (mark : Char) (what : String) : Nat → List Char → Reading (List Char)
  | 0, done => return done
  | fuel + 1, done => do
    match ← take with
    | none =>
      if done.isEmpty then failBack ("missing " ++ what) 0
      else failBack ("missing " ++ mark.toString ++ ", unterminated name") done.length
    | some t =>
      if t = .plain mark then
        if done.isEmpty then failBack ("missing " ++ what) 1 else return done
      else takeUntil mark what fuel (done ++ t.chars)

def takeName (mark : Char) (what : String) : Reading String := do
  return String.ofList (← takeUntil mark what ((← get).rest.length + 1) [])

def isOctal (c : Char) : Bool := '0' ≤ c && c ≤ '7'

def isHex (c : Char) : Bool := c.isDigit || ('a' ≤ c && c ≤ 'f') || ('A' ≤ c && c ≤ 'F')

def hexValue (c : Char) : Nat :=
  if c.isDigit then c.toNat - 48 else if 'a' ≤ c then c.toNat - 87 else c.toNat - 55

def valueIn (base : Nat) (ds : List Char) : Nat := ds.foldl (fun n d => n * base + hexValue d) 0

def isLetter (c : Char) : Bool := c.isAlpha

def escapeText (c : Char) (more : List Char) : String := String.ofList ('\\' :: c :: more)

/-- An escape of exactly so many hexadecimal digits. -/
def hexEscape (c : Char) (width : Nat) : Reading Nat := do
  let ds ← takeWhileIn isHex width
  if ds.length < width then
    failBack ("incomplete escape " ++ escapeText c ds) (2 + ds.length)
  else if 0x10FFFF < valueIn 16 ds then
    failBack ("bad escape " ++ escapeText c ds) (2 + ds.length)
  else return valueIn 16 ds

/-- An escape by the name of a character; no names are known. -/
def namedEscape : Reading Nat := do
  if !(← accept '{') then failBack "missing \x7b" 0
  else
    let name ← takeName '}' "character name"
    failBack ("undefined character name " ++ Text.quoted name) (name.length + 4)

def octalEscape (c : Char) (ds : List Char) : Reading Nat :=
  let value := valueIn 8 (c :: ds)
  if 0o377 < value then
    failBack ("octal escape value " ++ escapeText c ds ++ " outside of range 0-0o377")
      (2 + ds.length)
  else return value

/-- The control characters with a letter of their own. -/
def controlEscape? (c : Char) : Option Nat :=
  match c with
  | 'a' => some 7
  | 'b' => some 8
  | 'f' => some 12
  | 'n' => some 10
  | 'r' => some 13
  | 't' => some 9
  | 'v' => some 11
  | '\\' => some 92
  | _ => none

def categoryEscape? (c : Char) : Option SetItem :=
  match c with
  | 'd' => some (.category .digit false)
  | 'D' => some (.category .digit true)
  | 's' => some (.category .space false)
  | 'S' => some (.category .space true)
  | 'w' => some (.category .word false)
  | 'W' => some (.category .word true)
  | _ => none

def anchorEscape? (c : Char) : Option Anchor :=
  match c with
  | 'A' => some .textStart
  | 'Z' => some .textEnd
  | 'b' => some .boundary
  | 'B' => some .noBoundary
  | _ => none

/-- An escape by code or by name, or a character that stands for itself. -/
def codeEscape (c : Char) : Reading Nat := do
  if c = 'x' then hexEscape c 2
  else if c = 'u' then hexEscape c 4
  else if c = 'U' then hexEscape c 8
  else if c = 'N' then namedEscape
  else if isLetter c then failBack ("bad escape " ++ escapeText c []) 2
  else return c.toNat

/-- An escape between square brackets. -/
def setEscape (c : Char) : Reading SetItem := do
  match controlEscape? c with
  | some n => return .char n
  | none =>
    match categoryEscape? c with
    | some item => return item
    | none =>
      if isOctal c then return .char (← octalEscape c (← takeWhileIn isOctal 2))
      else if c.isDigit then failBack ("bad escape " ++ escapeText c []) 2
      else return .char (← codeEscape c)

def single (code : Nat) : Node := .set false [.char code]

/-- Whether a group exists and is closed. -/
def isClosed (n : Nat) : Reading Bool := do
  return ((← get).widths[n]?.join).isSome

/-- A look behind may only refer to groups that were closed before it. -/
def checkLookBehind (n : Nat) : Reading Unit := do
  match (← get).lookBehind with
  | none => return ()
  | some bound =>
    if !(← isClosed n) then failBack "cannot refer to an open group" 0
    else if bound ≤ n then
      failBack "cannot refer to group defined in the same lookbehind subpattern" 0

/-- A reference to a group by its number. -/
def numberedReference (c : Char) (ds : List Char) : Reading Node := do
  let n := valueIn 10 (c :: ds)
  if n < (← get).widths.length then
    if !(← isClosed n) then failBack "cannot refer to an open group" (2 + ds.length)
    else
      checkLookBehind n
      return .reference n
  else failBack s!"invalid group reference {n}" (1 + ds.length)

/-- Digits after a backslash: three octal digits are a code, others refer to a group. -/
def digitEscape (c : Char) : Reading Node := do
  if c = '0' then return single (valueIn 8 (c :: (← takeWhileIn isOctal 2)))
  else
    match ← takeWhileIn Char.isDigit 1 with
    | [d] =>
      if isOctal c && isOctal d then
        match ← takeWhileIn isOctal 1 with
        | [e] => return single (← octalEscape c [d, e])
        | _ => numberedReference c [d]
      else numberedReference c [d]
    | _ => numberedReference c []

/-- An escape outside square brackets. -/
def nodeEscape (c : Char) : Reading Node := do
  match categoryEscape? c with
  | some item => return .set false [item]
  | none =>
    match anchorEscape? c with
    | some a => return .anchor a
    | none =>
      match controlEscape? c with
      | some n => return single n
      | none => if c.isDigit then digitEscape c else return single (← codeEscape c)

/-- One end of a range, or an item that is none. -/
def setAtom (t : Token) : Reading SetItem :=
  match t with
  | .plain c => return .char c.toNat
  | .escaped c => setEscape c

/-- The items up to the closing bracket; `start` is the place of the opening one. -/
def setItems (start : Nat) : Nat → List SetItem → Reading (List SetItem)
  | 0, items => return items
  | fuel + 1, items => do
    match ← take with
    | none => failAt "unterminated character set" start
    | some t =>
      if t = .plain ']' && !items.isEmpty then return items
      else
        let low ← setAtom t
        if ← accept '-' then
          match ← take with
          | none => failAt "unterminated character set" start
          | some u =>
            if u = .plain ']' then return items ++ [low, .char 45]
            else
              let high ← setAtom u
              let bad : Reading (List SetItem) :=
                failBack ("bad character range " ++ t.text ++ "-" ++ u.text)
                  (t.length + 1 + u.length)
              match low, high with
              | .char a, .char b =>
                if b < a then bad else setItems start fuel (items ++ [.range a b])
              | _, _ => bad
        else setItems start fuel (items ++ [low])

def readSet : Reading Node := do
  let start := (← position) - 1
  let negated ← accept '^'
  return .set negated (← setItems start ((← get).rest.length + 1) [])

/-- The bound on lengths of matches. -/
def maxWidth : Nat := Nat.pow 2 64

/-- The bound on numbers of repetitions. -/
def maxRepeat : Nat := 4294967295

def maxGroups : Nat := 2147483647

mutual

/-- The least and the greatest length of what a part matches. -/
def nodeWidth (groups : List (Option (Nat × Nat))) : Node → Nat × Nat
  | .set _ _ | .any => (1, 1)
  | .anchor _ | .look _ _ _ => (0, 0)
  | .repeats _ least most body =>
    let w := seqWidth groups body
    (w.1 * least,
      match most with
      | some n => w.2 * n
      | none => if w.2 = 0 then 0 else maxWidth)
  | .branches options => optionsWidth groups options
  | .group _ _ _ body | .atomic body => seqWidth groups body
  | .reference n => (groups[n]?.join).getD (0, 0)
  | .conditional _ yes no =>
    let y := seqWidth groups yes
    let n := seqWidth groups no
    (min y.1 n.1, max y.2 n.2)

def seqWidth (groups : List (Option (Nat × Nat))) : List Node → Nat × Nat
  | [] => (0, 0)
  | n :: rest =>
    let a := nodeWidth groups n
    let b := seqWidth groups rest
    (min (a.1 + b.1) maxWidth, min (a.2 + b.2) maxWidth)

def optionsWidth (groups : List (Option (Nat × Nat))) : List (List Node) → Nat × Nat
  | [] => (0, 0)
  | [body] => seqWidth groups body
  | body :: rest =>
    let a := seqWidth groups body
    let b := optionsWidth groups rest
    (min a.1 b.1, max a.2 b.2)

end

def isNameStart (c : Char) : Bool :=
  c = '_' || c.isAlpha || (128 ≤ c.toNat && Text.isAlphanumeric c && (Text.digitValue? c).isNone)

def isNamePart (c : Char) : Bool := c = '_' || Text.isAlphanumeric c

def isName (s : String) : Bool :=
  match s.toList with
  | [] => false
  | c :: rest => isNameStart c && rest.all isNamePart

def checkName (name : String) : Reading Unit := do
  if !isName name then
    failBack ("bad character in group name " ++ Text.quoted name) (name.length + 1)

/-- Opens a group and gives its number. -/
def openGroup (name : Option String) : Reading Nat := do
  let s ← get
  let n := s.widths.length
  match name with
  | none => set { s with widths := s.widths ++ [none] }
  | some k =>
    match s.names.find? (·.1 == k) with
    | some m =>
      failBack ("redefinition of group name " ++ Text.quoted k ++
        s!" as group {n}; was group {m.2}") (k.length + 1)
    | none => set { s with widths := s.widths ++ [none], names := s.names ++ [(k, n)] }
  return n

def closeGroup (n : Nat) (body : List Node) : Reading Unit :=
  modify fun s => { s with widths := s.widths.set n (some (seqWidth s.widths body)) }

def namedReference : Reading Node := do
  let name ← takeName ')' "group name"
  checkName name
  match (← get).names.find? (·.1 == name) with
  | none => failBack ("unknown group name " ++ Text.quoted name) (name.length + 1)
  | some (_, n) =>
    if !(← isClosed n) then failBack "cannot refer to an open group" (name.length + 1)
    else
      checkLookBehind n
      return .reference n

/-- The group that a condition asks for, by name or by number. -/
def conditionGroup : Reading Nat := do
  let name ← takeName ')' "group name"
  let back := name.length + 1
  if isName name then
    match (← get).names.find? (·.1 == name) with
    | none => failBack ("unknown group name " ++ Text.quoted name) back
    | some (_, n) =>
      checkLookBehind n
      return n
  else
    match Number.readWhole name with
    | .ok (.ofNat n) =>
      if n = 0 then failBack "bad group number" back
      else if maxGroups ≤ n then failBack s!"invalid group reference {n}" back
      else
        let here ← position
        modify fun s =>
          if s.conditions.any (·.1 == n) then s
          else { s with conditions := s.conditions ++ [(n, here - back)] }
        checkLookBehind n
        return n
    | _ => failBack ("bad character in group name " ++ Text.quoted name) back

def flagOf? (t : Token) : Option Flags :=
  match t with
  | .plain 'i' => some { ignoreCase := true }
  | .plain 'm' => some { multiline := true }
  | .plain 's' => some { dotAll := true }
  | .plain 'x' => some { verbose := true }
  | .plain 'a' => some { ascii := true }
  | .plain 'u' => some { unicode := true }
  | .plain 't' => some { template := true }
  | .plain 'L' => some {}
  | _ => none

def isAlphabetic (t : Token) : Bool :=
  match t with
  | .plain c => Text.isAlphanumeric c && (Text.digitValue? c).isNone
  | .escaped _ => false

/-- Flags up to a closing mark, which is given back with them. -/
def flagsOn : Nat → Flags → Token → Reading (Flags × Token)
  | 0, on, t => return (on, t)
  | fuel + 1, on, t => do
    let flag := (flagOf? t).getD {}
    if t = .plain 'L' then
      failBack "bad inline flags: cannot use 'L' flag with a str pattern" 0
    else
      let on := on.union flag
      if !flag.alphabet.isEmpty && on.alphabet != flag then
        failBack "bad inline flags: flags 'a', 'u' and 'L' are incompatible" 0
      else
        match ← take with
        | none => failBack "missing -, : or )" 0
        | some u =>
          if u = .plain ')' || u = .plain '-' || u = .plain ':' then return (on, u)
          else if (flagOf? u).isNone then
            failBack (if isAlphabetic u then "unknown flag" else "missing -, : or )") u.length
          else flagsOn fuel on u

/-- Flags to turn off, up to the colon. -/
def flagsOff : Nat → Flags → Token → Reading Flags
  | 0, off, _ => return off
  | fuel + 1, off, t => do
    let flag := (flagOf? t).getD {}
    if !flag.alphabet.isEmpty || t = .plain 'L' then
      failBack "bad inline flags: cannot turn off flags 'a', 'u' and 'L'" 0
    else
      let off := off.union flag
      match ← take with
      | none => failBack "missing :" 0
      | some u =>
        if u = .plain ':' then return off
        else if (flagOf? u).isNone then
          failBack (if isAlphabetic u then "unknown flag" else "missing :") u.length
        else flagsOff fuel off u

/-- Flags after a question mark: for the whole pattern, or those a group turns on and off. -/
def readFlags (t : Token) : Reading (Option (Flags × Flags)) := do
  let fuel := (← get).rest.length + 1
  let (on, mark) ← if t = .plain '-' then pure (Flags.none, t) else flagsOn fuel {} t
  if mark = .plain ')' then
    modify fun s => { s with flags := s.flags.union on }
    return none
  else if on.template then failBack "bad inline flags: cannot turn on global flag" 1
  else
    let off ← if mark = .plain '-' then do
        match ← take with
        | none => failBack "missing flag" 0
        | some u =>
          if (flagOf? u).isNone then
            failBack (if isAlphabetic u then "unknown flag" else "missing flag") u.length
          else flagsOff fuel {} u
      else pure Flags.none
    if off.template then failBack "bad inline flags: cannot turn off global flag" 1
    else if !(on.meet off).isEmpty then
      failBack "bad inline flags: flag turned on and off" 1
    else return some (on, off)

/-- The numbers of repetitions that a mark asks for; `none` where a brace is no repetition. -/
def repeatBounds (mark : Char) (here : Nat) : Reading (Option (Nat × Option Nat)) := do
  match mark with
  | '?' => return some (0, some 1)
  | '*' => return some (0, none)
  | '+' => return some (1, none)
  | _ =>
    if ← peekIs '}' then return none
    else
      let before := (← get).rest
      let fuel := before.length
      let low ← takeWhileIn Char.isDigit fuel
      let high ← if ← accept ',' then takeWhileIn Char.isDigit fuel else pure low
      if !(← accept '}') then
        modify fun s => { s with rest := before }
        return none
      else
        let least := valueIn 10 low
        let most := if high.isEmpty then none else some (valueIn 10 high)
        if maxRepeat ≤ least || most.any (maxRepeat ≤ ·) then throw .hugeRepeat
        else if most.any (· < least) then failAt "min repeat greater than max repeat" here
        else return some (least, most)

/-- Repeats the last part read. -/
def applyRepeat (here : Nat) (least : Nat) (most : Option Nat) (done : List Node) :
    Reading (List Node) := do
  match done with
  | [] | .anchor _ :: _ => failAt "nothing to repeat" (here - 1)
  | .repeats _ _ _ _ :: _ => failAt "multiple repeat" (here - 1)
  | n :: before =>
    if ← accept '?' then return .repeats .reluctant least most [n] :: before
    else if ← accept '+' then return .repeats .possessive least most [n] :: before
    else return .repeats .greedy least most [n] :: before

/-- Skips a comment up to its closing parenthesis. -/
def skipComment (start : Nat) : Nat → Reading Unit
  | 0 => return ()
  | fuel + 1 => do
    if (← peek).isNone then failAt "missing ), unterminated comment" start
    else if (← take) = some (.plain ')') then return ()
    else skipComment start fuel

/-- Skips the rest of a line. -/
def skipLine : Nat → Reading Unit
  | 0 => return ()
  | fuel + 1 => do
    match ← take with
    | none => return ()
    | some t => if t = .plain '\n' then return () else skipLine fuel

def isPatternBlank (c : Char) : Bool :=
  c = ' ' || c = '\t' || c = '\n' || c = '\r' || c = '\x0b' || c = '\x0c'

def expectClose (start : Nat) : Reading Unit := do
  if !(← accept ')') then failAt "missing ), unterminated subpattern" start

/-- What the characters after an opening parenthesis and a question mark announce. -/
inductive Opening where
  | capture (name : Option String)
  | plain (on off : Flags)
  | atomic
  | look (behind negated : Bool)
  | condition
  | reference (n : Node)
  | comment
  | flags

/-- Reads the announcement; `start` is the place of the parenthesis. -/
def readOpening : Reading Opening := do
  match ← take with
  | none => failBack "unexpected end of pattern" 0
  | some t =>
    match t with
    | .plain 'P' =>
      if ← accept '<' then
        let name ← takeName '>' "group name"
        checkName name
        return .capture (some name)
      else if ← accept '=' then return .reference (← namedReference)
      else
        match ← take with
        | none => failBack "unexpected end of pattern" 0
        | some u => failBack ("unknown extension ?P" ++ u.text) (u.length + 2)
    | .plain ':' => return .plain {} {}
    | .plain '#' => return .comment
    | .plain '=' => return .look false false
    | .plain '!' => return .look false true
    | .plain '<' =>
      match ← take with
      | none => failBack "unexpected end of pattern" 0
      | some u =>
        if u = .plain '=' then return .look true false
        else if u = .plain '!' then return .look true true
        else failBack ("unknown extension ?<" ++ u.text) (u.length + 2)
    | .plain '(' => return .condition
    | .plain '>' => return .atomic
    | _ =>
      if (flagOf? t).isSome || t = .plain '-' then
        match ← readFlags t with
        | none => return .flags
        | some (on, off) => return .plain on off
      else failBack ("unknown extension ?" ++ t.text) (t.length + 1)

mutual

/-- Alternatives between bars. At the outermost level the modes set at the start hold for the later
alternatives too. -/
def readBranches : Nat → Bool → Bool → List (List Node) → Reading (List Node)
  | 0, _, _, _ => return []
  | fuel + 1, verbose, outer, before => do
    let branch ← readSequence fuel verbose (outer && before.isEmpty) []
    if ← accept '|' then
      let s ← get
      let verbose := if outer then s.flags.verbose else verbose
      readBranches fuel verbose outer (before ++ [branch])
    else if before.isEmpty then return branch
    else return [.branches (before ++ [branch])]

/-- Parts one after the other; `done` holds those read so far, the last one first. -/
def readSequence : Nat → Bool → Bool → List Node → Reading (List Node)
  | 0, _, _, done => return done.reverse
  | fuel + 1, verbose, first, done => do
    match ← peek with
    | none | some (.plain '|') | some (.plain ')') => return done.reverse
    | some t =>
      let _ ← take
      match t with
      | .escaped c =>
        let n ← nodeEscape c
        readSequence fuel verbose first (n :: done)
      | .plain c =>
        if verbose && isPatternBlank c then readSequence fuel verbose first done
        else if verbose && c = '#' then
          skipLine ((← get).rest.length + 1)
          readSequence fuel verbose first done
        else if c = '[' then
          let n ← readSet
          readSequence fuel verbose first (n :: done)
        else if c = '?' || c = '*' || c = '+' || c = '{' then
          let here ← position
          match ← repeatBounds c here with
          | none => readSequence fuel verbose first (single c.toNat :: done)
          | some (least, most) =>
            let done ← applyRepeat here least most done
            readSequence fuel verbose first done
        else if c = '.' then readSequence fuel verbose first (.any :: done)
        else if c = '^' then readSequence fuel verbose first (.anchor .lineStart :: done)
        else if c = '$' then readSequence fuel verbose first (.anchor .lineEnd :: done)
        else if c = '(' then
          let start := (← position) - 1
          let opening ← if ← accept '?' then readOpening else pure (.capture none)
          match opening with
          | .comment =>
            skipComment start ((← get).rest.length + 1)
            readSequence fuel verbose first done
          | .flags =>
            if !first || !done.isEmpty then
              failAt "global flags not at the start of the expression" start
            else readSequence fuel (← get).flags.verbose first done
          | .reference n => readSequence fuel verbose first (n :: done)
          | .capture name =>
            let number ← openGroup name
            let body ← readBranches fuel verbose false []
            expectClose start
            closeGroup number body
            readSequence fuel verbose first (.group (some number) {} {} body :: done)
          | .plain on off =>
            let inner := (verbose || on.verbose) && !off.verbose
            let body ← readBranches fuel inner false []
            expectClose start
            readSequence fuel verbose first (.group none on off body :: done)
          | .atomic =>
            let body ← readBranches fuel verbose false []
            expectClose start
            readSequence fuel verbose first (.atomic body :: done)
          | .look behind negated =>
            let saved := (← get).lookBehind
            if behind && saved.isNone then
              modify fun s => { s with lookBehind := some s.widths.length }
            let body ← readBranches fuel verbose false []
            if behind then modify fun s => { s with lookBehind := saved }
            expectClose start
            let s ← get
            let width := if behind then some (seqWidth s.widths body) else none
            readSequence fuel verbose first (.look width negated body :: done)
          | .condition =>
            let number ← conditionGroup
            let yes ← readSequence fuel verbose false []
            let no ← if ← accept '|' then do
                let no ← readSequence fuel verbose false []
                if ← peekIs '|' then
                  failBack "conditional backref with more than two branches" 0
                else pure no
              else pure []
            expectClose start
            readSequence fuel verbose first (.conditional number yes no :: done)
        else readSequence fuel verbose first (single c.toNat :: done)

end

mutual

/-- The first fault that no single part shows: a look behind without a fixed width, or a repetition
in a template. -/
def nodeFault? (template : Bool) : Node → Option String
  | .repeats mode _ _ body =>
    if template then
      some ("internal: unsupported template operator " ++
        match mode with
        | .greedy => "MAX_REPEAT"
        | .reluctant => "MIN_REPEAT"
        | .possessive => "POSSESSIVE_REPEAT")
    else seqFault? template body
  | .branches options => optionsFault? template options
  | .group _ _ _ body | .atomic body => seqFault? template body
  | .look behind _ body =>
    match behind with
    | some (low, high) =>
      if maxRepeat < low then some "looks too much behind"
      else if low ≠ high then some "look-behind requires fixed-width pattern"
      else seqFault? template body
    | none => seqFault? template body
  | .conditional _ yes no => (seqFault? template yes).or (seqFault? template no)
  | _ => none

def seqFault? (template : Bool) : List Node → Option String
  | [] => none
  | n :: rest => (nodeFault? template n).or (seqFault? template rest)

def optionsFault? (template : Bool) : List (List Node) → Option String
  | [] => none
  | body :: rest => (seqFault? template body).or (optionsFault? template rest)

end

end Pattern

/-- A pattern ready for searching: its parts, and the modes for all of them. -/
structure Pattern where
  nodes : List Pattern.Node
  flags : Pattern.Flags
  deriving Inhabited

namespace Pattern

/-- The whole text as one pattern. -/
def readWhole : Reading Pattern := do
  checkEnd
  let nodes ← readBranches (2 * (← get).total + 4) false true []
  let s ← get
  if s.flags.ascii && s.flags.unicode then throw .flags
  else if !s.rest.isEmpty then failBack "unbalanced parenthesis" 0
  else
    match s.conditions.find? fun c => s.widths.length ≤ c.1 with
    | some (n, place) => failAt s!"invalid group reference {n}" place
    | none =>
      match seqFault? s.flags.template nodes with
      | some m => throw (.fault m none)
      | none => return ⟨nodes, s.flags⟩

def read (text : String) : Except Error Pattern :=
  let cs := text.toList
  (readWhole.run { rest := cs, total := cs.length }).map (·.1)

end Walkthrough.Pattern
