/-!
# Diagnostics

Records of what the program does, graded by weight, for those who look into it. They are no part of
any answer.
-/
namespace ClusterInspector

inductive Weight where
  | debug | info | warning | error | critical
  deriving DecidableEq, Repr

namespace Weight

def level : Weight → Nat
  | debug => 10
  | info => 20
  | warning => 30
  | error => 40
  | critical => 50

def text : Weight → String
  | debug => "DEBUG"
  | info => "INFO"
  | warning => "WARNING"
  | error => "ERROR"
  | critical => "CRITICAL"

end Weight

structure Diagnostic where
  weight : Weight
  text : String
  deriving DecidableEq, Repr

end ClusterInspector
