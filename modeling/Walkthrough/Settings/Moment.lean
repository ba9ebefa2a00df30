import Walkthrough.Settings.Value

/-! Dates and times of day as settings files write them. -/
namespace Walkthrough.Moment

/-- A time of day with its fraction in millionths of a second. -/
structure Clock where
  hour : Nat
  minute : Nat
  second : Nat
  micro : Nat
  deriving DecidableEq, Repr

structure Date where
  year : Nat
  month : Nat
  day : Nat
  deriving DecidableEq, Repr

/-- A number with zeros in front up to a width. -/
def padded (width n : Nat) : String :=
  let ds := Nat.toDigits 10 n
  String.ofList (List.replicate (width - ds.length) '0' ++ ds)

def isLeap (y : Nat) : Bool := y % 4 == 0 && (y % 100 != 0 || y % 400 == 0)

def daysIn (year month : Nat) : Nat :=
  if month = 2 then (if isLeap year then 29 else 28)
  else if month = 4 ∨ month = 6 ∨ month = 9 ∨ month = 11 then 30
  else 31

def Date.isValid (d : Date) : Bool := 1 ≤ d.year && d.day ≤ daysIn d.year d.month

def Date.text (d : Date) : String :=
  padded 4 d.year ++ "-" ++ padded 2 d.month ++ "-" ++ padded 2 d.day

def Clock.text (c : Clock) : String :=
  padded 2 c.hour ++ ":" ++ padded 2 c.minute ++ ":" ++ padded 2 c.second ++
    (if c.micro = 0 then "" else "." ++ padded 6 c.micro)

/-- Seconds and millionths are left out at the end where they are zero. -/
def Clock.fields (c : Clock) : List Nat :=
  if c.micro ≠ 0 then [c.hour, c.minute, c.second, c.micro]
  else if c.second ≠ 0 then [c.hour, c.minute, c.second]
  else [c.hour, c.minute]

def call (name : String) (fields : List String) : String :=
  "datetime." ++ name ++ "(" ++ ", ".intercalate fields ++ ")"

def ofDate (d : Date) : Moment where
  kindName := "date"
  text := d.text
  quoted := call "date" ([d.year, d.month, d.day].map toString)

def ofClock (c : Clock) : Moment where
  kindName := "time"
  text := c.text
  quoted := call "time" (c.fields.map toString)

/-- The distance from universal time in minutes, as it stands behind a time. -/
def offsetText (minutes : Int) : String :=
  (if minutes < 0 then "-" else "+") ++ padded 2 (minutes.natAbs / 60) ++ ":" ++
    padded 2 (minutes.natAbs % 60)

def offsetQuoted (minutes : Int) : String :=
  if minutes = 0 then "datetime.timezone.utc"
  else
    let seconds := if minutes < 0 then 86400 + minutes * 60 else minutes * 60
    let days := if minutes < 0 then ["days=-1"] else []
    call "timezone" [call "timedelta" (days ++ ["seconds=" ++ toString seconds])]

def ofDateTime (d : Date) (c : Clock) (offset : Option Int) : Moment where
  kindName := "datetime"
  text := d.text ++ " " ++ c.text ++ (offset.map offsetText).getD ""
  quoted := call "datetime" ([d.year, d.month, d.day].map toString ++ c.fields.map toString ++
    match offset with
    | none => []
    | some m => ["tzinfo=" ++ offsetQuoted m])

/-- Exactly so many digits. -/
def digits? (width : Nat) (cs : List Char) : Option (Nat × List Char) :=
  let ds := cs.take width
  if ds.length = width && ds.all Char.isDigit then
    some (ds.foldl (fun n c => n * 10 + (c.toNat - 48)) 0, cs.drop width)
  else none

/-- Two digits within bounds. -/
def pair? (low high : Nat) (cs : List Char) : Option (Nat × List Char) :=
  (digits? 2 cs).filter fun r => decide (low ≤ r.1) && decide (r.1 ≤ high)

def skip? (c : Char) : List Char → Option (List Char)
  | x :: rest => if x = c then some rest else none
  | [] => none

/-- The digits after a point as millionths; those beyond the sixth do not count. -/
def fraction (cs : List Char) : Nat × List Char :=
  match cs with
  | '.' :: rest =>
    match rest.takeWhile Char.isDigit with
    | [] => (0, cs)
    | ds =>
      let six := (ds ++ List.replicate 6 '0').take 6
      (six.foldl (fun n c => n * 10 + (c.toNat - 48)) 0, rest.dropWhile Char.isDigit)
  | _ => (0, cs)

def clock? (cs : List Char) : Option (Clock × List Char) := do
  let (h, cs) ← pair? 0 23 cs
  let cs ← skip? ':' cs
  let (m, cs) ← pair? 0 59 cs
  let cs ← skip? ':' cs
  let (s, cs) ← pair? 0 59 cs
  let (f, cs) := fraction cs
  return (⟨h, m, s, f⟩, cs)

def date? (cs : List Char) : Option (Date × List Char) := do
  let (y, cs) ← digits? 4 cs
  let cs ← skip? '-' cs
  let (m, cs) ← pair? 1 12 cs
  let cs ← skip? '-' cs
  let (d, cs) ← pair? 1 31 cs
  return (⟨y, m, d⟩, cs)

/-- The distance from universal time behind a time, if one is given. -/
def offset (cs : List Char) : Option Int × List Char :=
  match cs with
  | [] => (none, cs)
  | c :: rest =>
    if c = 'Z' ∨ c = 'z' then (some 0, rest)
    else if c = '+' ∨ c = '-' then
      match (do
        let (h, cs) ← pair? 0 23 rest
        let cs ← skip? ':' cs
        let (m, cs) ← pair? 0 59 cs
        return (((h * 60 + m : Nat) : Int), cs)) with
      | some (m, cs) => (some (if c = '-' then -m else m), cs)
      | none => (none, cs)
    else (none, cs)

/-- A date, with a time behind a letter or a blank if there is one. The outer `none` stands for no
date at all, the inner one for a date that does not exist. -/
def dateTime? (cs : List Char) : Option (Option Moment × List Char) := do
  let (d, cs) ← date? cs
  let time := match cs with
    | c :: rest => if c = 'T' ∨ c = 't' ∨ c = ' ' then clock? rest else none
    | [] => none
  match time with
  | none => return (if d.isValid then some (ofDate d) else none, cs)
  | some (c, cs) =>
    let (o, cs) := offset cs
    return (if d.isValid then some (ofDateTime d c o) else none, cs)

end Walkthrough.Moment
