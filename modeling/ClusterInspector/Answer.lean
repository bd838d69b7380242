/-!
# Answers

What a prompt is answered with. A prompt says what it asks for and does not check what it gets: a
plain value may come where a text is meant, and a text where a number is.
-/
namespace ClusterInspector

/-- A plain value other than a text. -/
inductive Scalar where
  | number (n : Int)
  | truth (b : Bool)
  deriving DecidableEq, Repr

namespace Scalar

/-- What the type of the value is called in failures. -/
def typeName : Scalar → String
  | number _ => "int"
  | truth _ => "bool"

def text : Scalar → String
  | number n => toString n
  | truth b => if b then "True" else "False"

def toInt : Scalar → Int
  | number n => n
  | truth b => if b then 1 else 0

/-- Zero and falsehood stand for nothing. -/
def isNothing (v : Scalar) : Bool := v.toInt = 0

end Scalar

/-- The answer to a prompt; the last two end the program. -/
inductive Answer where
  | cancelled
  | text (content : String)
  | scalar (v : Scalar)
  | interrupted
  | failed (message : String)
  deriving DecidableEq, Repr

end ClusterInspector
