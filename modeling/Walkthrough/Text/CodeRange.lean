/-! Sets of code points as ascending ranges, both ends included. -/
namespace Walkthrough.Text

abbrev CodeRange := Nat × Nat

namespace CodeRange

/-- The range that holds the code point, in a list of ascending ranges. -/
def find? : List CodeRange → Nat → Option CodeRange
  | [], _ => none
  | r :: rest, n => if n < r.1 then none else if n ≤ r.2 then some r else find? rest n

def covers (ranges : List CodeRange) (n : Nat) : Bool :=
  (find? ranges n).isSome

end CodeRange
end Walkthrough.Text
