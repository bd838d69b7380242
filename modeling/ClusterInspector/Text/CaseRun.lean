/-!
# Runs of letters

The letters of a script lie in order, and so do the letters of the other case: between two such runs
there is one distance.
-/
namespace ClusterInspector.Text

/-- Letters at equal steps whose counterparts in the other case lie at one distance. -/
structure CaseRun where
  first : Nat
  step : Nat
  count : Nat
  distance : Int
  deriving DecidableEq, Repr

namespace CaseRun

/-- The counterpart of a code point in the run. -/
def image? (r : CaseRun) (n : Nat) : Option Nat :=
  if r.first ≤ n ∧ n < r.first + r.step * r.count ∧ (n - r.first) % r.step = 0 then
    some (n + r.distance).toNat
  else none

end CaseRun

end ClusterInspector.Text
