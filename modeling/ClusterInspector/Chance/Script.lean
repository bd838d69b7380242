import ClusterInspector.Chance.Source

/-!
# Scripted choices

A source that takes its choices from a list of numbers, over and over, one for each request.
-/
namespace ClusterInspector.Chance

structure Script where
  values : List Nat
  position : Nat := 0
  deriving DecidableEq, Repr

namespace Script

/-- The number at the position; an empty script has zeros. -/
def value (s : Script) : Nat := s.values.getD (s.position % s.values.length) 0

def advance (s : Script) : Script := { s with position := s.position + 1 }

/-- Numbers are taken modulo the size of the range asked for, fractions in thousandths. -/
instance : Source Script where
  between lo hi h s :=
    have := Nat.mod_lt s.value (show 0 < hi - lo + 1 by omega)
    (⟨lo + s.value % (hi - lo + 1), by omega⟩, s.advance)
  index count h s := (⟨s.value % count, Nat.mod_lt _ h⟩, s.advance)
  fraction s := (⟨s.value % 1000, 1000, Nat.mod_lt _ (by decide)⟩, s.advance)

end Script

end ClusterInspector.Chance
