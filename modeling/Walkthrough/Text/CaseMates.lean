import Walkthrough.Text.LowerCase

/-! Characters that differ in case only (Unicode 14). -/
namespace Walkthrough.Text

/-- Small letters with a capital in common, each with the others. -/
def sharedCapitals : List (Nat × List Nat) :=
  [(105, [305]), (115, [383]), (181, [956]), (305, [105]), (383, [115]), (837, [953, 8126]),
   (912, [8147]), (944, [8163]), (946, [976]), (949, [1013]), (952, [977]), (953, [837, 8126]),
   (954, [1008]), (956, [181]), (960, [982]), (961, [1009]), (962, [963]), (963, [962]),
   (966, [981]), (976, [946]), (977, [952]), (981, [966]), (982, [960]), (1008, [954]),
   (1009, [961]), (1013, [949]), (1074, [7296]), (1076, [7297]), (1086, [7298]), (1089, [7299]),
   (1090, [7300, 7301]), (1098, [7302]), (1123, [7303]), (7296, [1074]), (7297, [1076]),
   (7298, [1086]), (7299, [1089]), (7300, [1090, 7301]), (7301, [1090, 7300]), (7302, [1098]),
   (7303, [1123]), (7304, [42571]), (7777, [7835]), (7835, [7777]), (8126, [837, 953]),
   (8147, [912]), (8163, [944]), (42571, [7304]), (64261, [64262]), (64262, [64261])]

/-- The small form of one code point; the dotted capital I goes to the plain small one. -/
def foldCase (n : Nat) : Nat :=
  if n = 0x130 then 0x69 else (lowerChar (Char.ofNat n)).toNat

def capitalMates (small : Nat) : List Nat :=
  ((sharedCapitals.find? (·.1 == small)).map (·.2)).getD []

/-- The code points whose small form is the given one, itself among them. -/
def capitalsOf (small : Nat) : List Nat :=
  small :: (if small = 0x69 then [0x130] else []) ++
    caseRuns.filterMap fun r =>
      let n := ((small : Int) - r.shift).toNat
      if r.holds n then some n else none

/-- Every code point that a small form stands for when case is ignored. -/
def caseMates (small : Nat) : List Nat :=
  (small :: capitalMates small).flatMap capitalsOf

end Walkthrough.Text
