/-!
# Sources of random choices

A source answers three requests, each with a value in the range asked for and the source that
remains. What it is made of is its own affair.
-/
namespace ClusterInspector.Chance

/-- A number from 0 up to but not including 1. -/
structure Fraction where
  num : Nat
  den : Nat
  num_lt_den : num < den
  deriving DecidableEq, Repr

/-- The fraction is below `p / q`. -/
def Fraction.isBelow (f : Fraction) (p q : Nat) : Bool := f.num * q < p * f.den

class Source (σ : Type) where
  /-- A number between two bounds, both included. -/
  between (lo hi : Nat) (h : lo ≤ hi) (s : σ) : { v : Nat // lo ≤ v ∧ v ≤ hi } × σ
  /-- A place among so many. -/
  index (count : Nat) (h : 0 < count) (s : σ) : Fin count × σ
  fraction (s : σ) : Fraction × σ

end ClusterInspector.Chance
