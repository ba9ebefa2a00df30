import Walkthrough.Text.Quoted
import Walkthrough.Text.Split

/-! Hosts in brackets and host names that look like more than they are. -/
namespace Walkthrough.Url

def isHexDigit (c : Char) : Bool := c.isDigit || ('a' ≤ c && c ≤ 'f') || ('A' ≤ c && c ≤ 'F')

/-- One of the four numbers of an address: up to three digits, no zero in front, at most 255. -/
def isOctet (cs : List Char) : Bool :=
  !cs.isEmpty && cs.all Char.isDigit && cs.length ≤ 3 && (cs == ['0'] || cs.head? != some '0') &&
    cs.foldl (fun n c => n * 10 + (c.toNat - 48)) 0 ≤ 255

def isFourPart (cs : List Char) : Bool :=
  let parts := Text.splitBy (· == '.') cs
  parts.length == 4 && parts.all isOctet

def isGroup (cs : List Char) : Bool := !cs.isEmpty && cs.length ≤ 4 && cs.all isHexDigit

/-- The positions inside a list of groups at which an empty one stands, the ends left out. -/
def gaps (groups : List (List Char)) : List Nat :=
  (List.range groups.length).filter fun n =>
    0 < n && n + 1 < groups.length && (groups[n]?.getD []).isEmpty

/-- Groups with one gap for zeros, or all eight of them. -/
def areGroups (groups : List (List Char)) : Bool :=
  match gaps groups with
  | [] => groups.length == 8 && groups.all isGroup
  | [gap] =>
    let left := groups.take gap
    let right := groups.drop (gap + 1)
    let left := if left == [[]] then [] else left
    let right := if right == [[]] then [] else right
    left.all isGroup && right.all isGroup && left.length + right.length < 8
  | _ => false

/-- The last group may be written as four numbers, which count as two groups. -/
def withoutFourPart (groups : List (List Char)) : Option (List (List Char)) :=
  match groups.getLast? with
  | some last =>
    if last.contains '.' then
      if isFourPart last then some (groups.dropLast ++ [['0'], ['0']]) else none
    else some groups
  | none => none

/-- An address of eight groups, perhaps with a zone behind a percent sign. -/
def isEightGroup (cs : List Char) : Bool :=
  let (address, zoneOk) := match Text.cutAt? ['%'] cs with
    | some (a, zone) => (a, !zone.isEmpty && !zone.contains '%')
    | none => (cs, true)
  let groups := Text.splitBy (· == ':') address
  zoneOk && 3 ≤ groups.length &&
    match withoutFourPart groups with
    | some groups => groups.length ≤ 9 && areGroups groups
    | none => false

/-- An address of a later kind: its number in hexadecimal digits, a point and more. -/
def isFuture (cs : List Char) : Bool :=
  match cs with
  | 'v' :: rest =>
    match rest.takeWhile isHexDigit, rest.dropWhile isHexDigit with
    | _ :: _, '.' :: c :: more => (c :: more).all (· != '\n')
    | _, _ => false
  | _ => false

/-- Why a host in an address cannot be used. -/
inductive HostFault where
  | brackets
  | future
  | fourPart
  | address (host : String)
  | disguised (host : String)
  deriving DecidableEq, Repr

def HostFault.message : HostFault → String
  | brackets => "Invalid IPv6 URL"
  | future => "IPvFuture address is invalid"
  | fourPart => "An IPv4 address cannot be in brackets"
  | address host => Text.quoted host ++ " does not appear to be an IPv4 or IPv6 address"
  | disguised host =>
    s!"netloc '{host}' contains invalid characters under NFKC normalization"

/-- Checks what stands between brackets. -/
def checkBracketed (cs : List Char) : Except HostFault Unit :=
  if cs.head? == some 'v' then (if isFuture cs then .ok () else .error .future)
  else if isFourPart cs then .error .fourPart
  else if !cs.contains '/' && isEightGroup cs then .ok ()
  else .error (.address (String.ofList cs))

/-- Characters that a host name would read as a separator if it were put into its plainest form. -/
def disguisedSeparators : List Nat :=
  [0x2047, 0x2048, 0x2049, 0x2100, 0x2101, 0x2105, 0x2106, 0x2A74, 0xFE13, 0xFE16, 0xFE55, 0xFE56,
    0xFE5F, 0xFE6B, 0xFF03, 0xFF0F, 0xFF1A, 0xFF1F, 0xFF20]

def checkPlain (cs : List Char) : Except HostFault Unit :=
  if cs.any fun c => disguisedSeparators.contains c.toNat then .error (.disguised (String.ofList cs))
  else .ok ()

/-- Checks the brackets of a host, and what stands between the first of them. -/
def checkBrackets (cs : List Char) : Except HostFault Unit :=
  match cs.contains '[', cs.contains ']' with
  | false, false => .ok ()
  | true, true =>
    let inside := (cs.dropWhile (· != '[')).drop 1
    checkBracketed (inside.takeWhile (· != ']'))
  | _, _ => .error .brackets

end Walkthrough.Url
