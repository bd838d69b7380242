import ClusterInspector.Answer
import ClusterInspector.Fault

/-!
# Failures of a run

Why a run of the program ends early. Some causes are explained to the user, perhaps with a hint.
Faults, broken prompts, answers of the wrong type and a seed option given nothing are unexpected and
shown with their kind, and so is output that is refused.
-/
namespace ClusterInspector

inductive Failure where
  | invalidLevel (name : String)
  | invalidSeed (text : String)
  /-- The option for the seed is given nothing. -/
  | seedMissing
  | namesExhausted
  /-- Nothing can ask the user. -/
  | promptsMissing
  /-- Nothing can draw a table. -/
  | stylingMissing
  | fault (f : Fault)
  | promptBroken (message : String)
  /-- A plain value is submitted as a line. -/
  | lineNotText (v : Scalar)
  /-- A text is taken for the number of a row. -/
  | rowNotNumber
  /-- A plain value is looked for in a name. -/
  | filterNotText (v : Scalar)
  deriving DecidableEq, Repr

/-- What the user is told of an expected failure. -/
structure Explanation where
  message : String
  hint : Option String := none
  deriving DecidableEq, Repr

namespace Failure

def missingPackage (name : String) : Explanation :=
  ⟨s!"{name} is not installed. Install with: pip install {name}", none⟩

def explanation? : Failure → Option Explanation
  | invalidLevel name =>
    some ⟨s!"Invalid log level: {name}", "Use one of DEBUG, INFO, WARNING, ERROR, CRITICAL."⟩
  | invalidSeed text => some ⟨s!"Invalid seed: {text}", "The seed must be an integer."⟩
  | namesExhausted => some ⟨"Name pool exhausted while generating unique names.", none⟩
  | promptsMissing => some (missingPackage "questionary")
  | stylingMissing => some (missingPackage "rich")
  | seedMissing | fault _ | promptBroken _ | lineNotText _ | rowNotNumber | filterNotText _ => none

/-- Kind and text of an unexpected failure. -/
def report : Failure → String
  | seedMissing =>
    "TypeError: int() argument must be a string, a bytes-like object or a real number, not 'list'"
  | fault f => s!"{f.title}: {f.message}"
  | promptBroken message => s!"RuntimeError: {message}"
  | lineNotText v => s!"AttributeError: '{v.typeName}' object has no attribute 'strip'"
  | rowNotNumber => "TypeError: '<=' not supported between instances of 'int' and 'str'"
  | filterNotText v =>
    s!"TypeError: 'in <string>' requires string as left operand, not {v.typeName}"
  | invalidLevel _ | invalidSeed _ | namesExhausted | promptsMissing | stylingMissing => ""

end Failure

/-- How what goes on with the user comes to its end. -/
inductive Ending where
  | quit
  | interrupted
  | failed (f : Failure)
  /-- Output was to be shown whose style tags do not match. -/
  | refused (complaint : String)
  deriving DecidableEq, Repr

end ClusterInspector
