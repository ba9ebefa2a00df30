/-! Days of the calendar. -/
namespace Walkthrough

structure Date where
  year : Nat
  month : Nat
  day : Nat
  deriving DecidableEq, Repr, Inhabited

namespace Date

def twoDigits (n : Nat) : String := if n < 10 then s!"0{n}" else toString n

/-- The date with hyphens; only month and day are filled up with zeros. -/
def text (d : Date) : String := s!"{d.year}-" ++ twoDigits d.month ++ "-" ++ twoDigits d.day

end Date
end Walkthrough
