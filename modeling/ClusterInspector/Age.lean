import ClusterInspector.Fault
import ClusterInspector.Text.Numeral

/-!
# Ages

An age is written as amounts with unit letters, such as `3d4h` or `12m`. Reading looks for runs of
digits that a unit letter follows at once and passes over everything else; of several amounts of one
unit the last counts. Writing keeps the two largest units that matter.
-/
namespace ClusterInspector.Age

inductive TimeUnit where
  | day | hour | minute | second
  deriving DecidableEq, Repr

namespace TimeUnit

def ofLetter? : Char → Option TimeUnit
  | 'd' => some day
  | 'h' => some hour
  | 'm' => some minute
  | 's' => some second
  | _ => none

def seconds : TimeUnit → Nat
  | day => 86400
  | hour => 3600
  | minute => 60
  | second => 1

end TimeUnit

/-- The longest age, in whole days. -/
def maxDays : Nat := 999999999

/-- An amount as written: its digits, and the unit after them. -/
structure Part where
  digits : List Nat
  unit : TimeUnit
  deriving DecidableEq, Repr

def Part.isReadable (p : Part) : Bool := p.digits.length ≤ Text.Numeral.digitLimit

/-- The parts of a text that follows a run of digits, given last digit first. -/
def partsAfter : (run : List Nat) → List Char → List Part
  | _, [] => []
  | run, c :: cs =>
    match Text.digitValue? c with
    | some d => partsAfter (d :: run) cs
    | none =>
      match TimeUnit.ofLetter? c, run with
      | some u, _ :: _ => ⟨run.reverse, u⟩ :: partsAfter [] cs
      | _, _ => partsAfter [] cs

def parts (s : String) : List Part := partsAfter [] s.toList

/-- The amount that the last part of a unit gives, 0 when the unit does not occur. -/
def amount (ps : List Part) (u : TimeUnit) : Nat :=
  match (ps.filter (·.unit = u)).getLast? with
  | some p => Text.ofDigits p.digits
  | none => 0

/-- The seconds that parts amount to. -/
def total (ps : List Part) : Nat :=
  amount ps .day * TimeUnit.day.seconds + amount ps .hour * TimeUnit.hour.seconds +
    amount ps .minute * TimeUnit.minute.seconds + amount ps .second * TimeUnit.second.seconds

/-- The age in seconds. A part beyond the digit limit is a fault even where a later one overrides
it. -/
def read (s : String) : Except Fault Nat :=
  let ps := parts s
  match ps.find? (!·.isReadable) with
  | some p => .error (.numeralTooLong p.digits.length)
  | none =>
    let days := total ps / TimeUnit.day.seconds
    if days ≤ maxDays then .ok (total ps) else .error (.ageTooLong days)

/-- Days and hours from one day on, hours and minutes from one hour on, else minutes. -/
def write (days hours minutes : Int) : String :=
  if days > 0 then s!"{days}d{hours}h"
  else if hours > 0 then s!"{hours}h{minutes}m"
  else s!"{minutes}m"

end ClusterInspector.Age
