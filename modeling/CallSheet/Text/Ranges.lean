/-!
# Tables of code points

A property of characters is kept as a list of ranges of code points.  A case
mapping is kept as a list of runs: code points at equal distances that all
move by the same amount.
-/

namespace CallSheet.Text

/-- Whether a code point lies in one of the ranges. -/
def inRanges (ranges : List (Nat × Nat)) (n : Nat) : Bool :=
  ranges.any fun r => r.1 ≤ n && n ≤ r.2

/-- Code points from `first` to `last`, `step` apart, each `shift` away from
its image. -/
structure Run where
  first : Nat
  last : Nat
  step : Nat
  shift : Int
  deriving DecidableEq, Repr

/-- The image of a code point under a run that holds it. -/
def Run.image? (run : Run) (n : Nat) : Option Nat :=
  if run.first ≤ n && n ≤ run.last && (n - run.first) % run.step == 0 then
    some (Int.toNat (n + run.shift))
  else none

/-- The image of a code point under the first run that holds it. -/
def imageIn (runs : List Run) (n : Nat) : Option Nat := runs.findSome? (·.image? n)

end CallSheet.Text
