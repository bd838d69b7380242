import ClusterInspector.Failure
import ClusterInspector.Text.UpperCase

/-!
# Log levels

The name of the least weight that is logged: as an option, else as a variable, else `WARNING`. An
empty name counts as not given, and letter case does not matter.
-/
namespace ClusterInspector.LogLevel

def levels : List (String × Nat) :=
  [("CRITICAL", 50), ("FATAL", 50), ("ERROR", 40), ("WARN", 30), ("WARNING", 30), ("INFO", 20),
    ("DEBUG", 10), ("NOTSET", 0)]

def given (name : Option String) : Option String := name.filter (· ≠ "")

def choose (option setting : Option String) : Except Failure Nat :=
  let name := Text.upper (((given option).or (given setting)).getD "WARNING")
  match levels.lookup name with
  | some level => .ok level
  | none => .error (.invalidLevel name)

end ClusterInspector.LogLevel
