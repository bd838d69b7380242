import ClusterInspector.Text.Blank
import ClusterInspector.Text.Digit

/-!
# Whole numbers in text

Reading takes decimal digits of any script, one sign, and single underscores between digits, with
blanks around the whole. Neither reading nor writing handles a number of more than 4300 digits;
when reading, leading zeros count.
-/
namespace ClusterInspector.Text.Numeral

def digitLimit : Nat := 4300

/-- The blanks allowed around a number: all but the information separators. -/
def isMargin (c : Char) : Bool := isBlank c && !(0x1C ≤ c.toNat && c.toNat ≤ 0x1F)

/-- Digits with at most single underscores between them. -/
def wellFormed (cs : List Char) : Bool :=
  cs.all (fun c => isDigit c || c == '_') &&
  cs.head?.any isDigit && cs.getLast?.any isDigit &&
  (cs.zip cs.tail).all (fun p => isDigit p.1 || isDigit p.2)

def magnitude? (cs : List Char) : Option Nat :=
  let ds := cs.filterMap digitValue?
  if wellFormed cs && ds.length ≤ digitLimit then some (ofDigits ds) else none

/-- The number a text writes. -/
def read? (s : String) : Option Int :=
  match trim isMargin s.toList with
  | '+' :: cs => (magnitude? cs).map Int.ofNat
  | '-' :: cs => (magnitude? cs).map fun n => -(Int.ofNat n)
  | cs => (magnitude? cs).map Int.ofNat

def isWritable (n : Int) : Bool := n.natAbs < Nat.pow 10 digitLimit

/-- The shortest text of a number, if it is within the limit. -/
def write? (n : Int) : Option String :=
  if isWritable n then some (toString n) else none

end ClusterInspector.Text.Numeral
