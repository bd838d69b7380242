/-!
# Faults

What stops a step that no console error covers: a limit of arithmetic, or a handle that was never
issued. A fault is not shown as an answer; it ends the run.
-/
namespace ClusterInspector

inductive Fault where
  /-- A number of so many digits is read. -/
  | numeralTooLong (digits : Nat)
  /-- A number beyond the digit limit is written. -/
  | numeralUnwritable
  | ageTooLong (days : Nat)
  | dateOutOfRange
  | noSuchHandle (handle : Nat)
  deriving DecidableEq, Repr

namespace Fault

/-- Day counts from here on do not fit the counter that the limit on ages is checked in. -/
def dayCounterSize : Nat := 0x80000000

def title : Fault → String
  | numeralTooLong _ | numeralUnwritable => "ValueError"
  | ageTooLong _ | dateOutOfRange => "OverflowError"
  | noSuchHandle _ => "IndexError"

def message : Fault → String
  | numeralTooLong digits =>
    s!"Exceeds the limit (4300 digits) for integer string conversion: value has {digits} digits; " ++
      "use sys.set_int_max_str_digits() to increase the limit"
  | numeralUnwritable =>
    "Exceeds the limit (4300 digits) for integer string conversion; " ++
      "use sys.set_int_max_str_digits() to increase the limit"
  | ageTooLong days =>
    if days < dayCounterSize then s!"days={days}; must have magnitude <= 999999999"
    else "Python int too large to convert to C int"
  | dateOutOfRange => "date value out of range"
  | noSuchHandle _ => "list index out of range"

end Fault

end ClusterInspector
