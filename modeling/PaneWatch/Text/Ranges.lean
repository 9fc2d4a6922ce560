/-
Sets of characters given as ascending, disjoint ranges of code points. The
tables of this folder are data of the Unicode character database, version
14, read through the one membership test defined here.
-/

namespace PaneWatch.Text

/-- Whether a code point lies in one of the ranges, both ends included. -/
def inRanges (table : List (Nat × Nat)) (n : Nat) : Bool :=
  table.any fun r => r.1 ≤ n && n ≤ r.2

end PaneWatch.Text
