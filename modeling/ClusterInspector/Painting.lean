import ClusterInspector.Interaction
import ClusterInspector.Text.Table

/-!
# Output on a plain terminal

Output as lines of text for a terminal that has neither colours nor menus: style tags are taken
out, the highlighted row of a table is marked in front, and choices are numbered from 1. What is
typed at a prompt is read back as an answer.
-/
namespace ClusterInspector.Painting

/-- The text without its style tags; an escaped bracket is a bracket. -/
def untagged : (inTag : Bool) → List Char → List Char
  | _, [] => []
  | true, c :: cs => untagged (c ≠ ']') cs
  | false, '\\' :: '[' :: cs => '[' :: untagged false cs
  | false, c :: cs => if c = '[' then untagged true cs else c :: untagged false cs

def plainText (s : String) : String := String.ofList (untagged false s.toList)

def rowText (r : Row) : List String :=
  match r.cells.map plainText with
  | [] => []
  | first :: rest => ((if r.style.isSome then "> " else "  ") ++ first) :: rest

/-- A table whose rows do not go under its headers is only named. -/
def tableText (t : Table) : String :=
  match Text.Table.render (t.columns.map (·.header)) (t.rows.map rowText) with
  | .ok text => t.title ++ "\n" ++ text ++ "\n"
  | .error .rowTooLong => t.title ++ "\n"

def promptText : Prompt → String
  | .text message => message ++ " "
  | .select message choices =>
    String.join (choices.mapIdx fun i c => s!"{i + 1}) {c.1}\n") ++ message ++ " "

def text : Output → String
  | .markup objects => plainText (" ".intercalate objects) ++ "\n"
  | .text content _ => content ++ "\n"
  | .table t => tableText t
  | .ask p => promptText p
  | .diagnostic _ => ""

/-- The answer that a typed line gives: the text as it is, or a choice by its number. A line that
numbers no choice answers with a number that no choice has. -/
def answerOf (p : Prompt) (line : String) : Answer :=
  match p with
  | .text _ => .text line
  | .select _ choices =>
    match line.toNat?.bind fun n => if n = 0 then none else choices[n - 1]? with
    | some (_, .key name) => .text name
    | some (_, .row i) => .scalar (.number i)
    | none => .scalar (.number (-1))

end ClusterInspector.Painting
