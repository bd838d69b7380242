import ClusterInspector.Diagnostic
import ClusterInspector.Text.Quoted

/-!
# What is shown

The pieces of output in the order they are shown: text whose style tags are obeyed, text shown as
it is, tables, prompts, and diagnostics. Where output cannot be styled, text appears as it is, tags
included. What styles output is not part of the program, and refuses output whose tags do not match.
-/
namespace ClusterInspector

structure Column where
  header : String
  justify : Option String := none
  style : Option String := none
  minWidth : Option Nat := none
  deriving DecidableEq, Repr

structure Row where
  cells : List String
  style : Option String := none
  deriving DecidableEq, Repr

structure Table where
  title : String
  headerStyle : String
  columns : List Column
  rows : List Row
  deriving DecidableEq, Repr

/-- What choosing an option of a prompt answers. -/
inductive Choice where
  | key (name : String)
  | row (index : Nat)
  deriving DecidableEq, Repr

inductive Prompt where
  | text (message : String)
  | select (message : String) (choices : List (String × Choice))
  deriving DecidableEq, Repr

inductive Output where
  | markup (objects : List String)
  | text (content : String) (style : Option String := none)
  | table (t : Table)
  | ask (p : Prompt)
  | diagnostic (d : Diagnostic)
  deriving DecidableEq, Repr

namespace Output

def blankLine : Output := .markup []

/-- The unstyled text of an output on the standard channel. -/
def plain : Output → String
  | .markup objects => " ".intercalate objects ++ "\n"
  | .text content _ => content ++ "\n"
  | .table _ | .ask _ | .diagnostic _ => ""

/-- The unstyled text of an output on the error channel. The time of a diagnostic is left out. -/
def plainError : Output → String
  | .diagnostic d => s!"[TIME] {d.weight.text} {d.text}\n"
  | .markup _ | .text .. | .table _ | .ask _ => ""

/-- Prompts are made in the same way whether or not output is styled. -/
def isPrompt : Output → Bool
  | .ask _ => true
  | .markup _ | .text .. | .table _ | .diagnostic _ => false

end Output

/-- The texts of a table that are read for style tags. -/
def Table.texts (t : Table) : List String :=
  t.title :: t.columns.map (·.header) ++ t.rows.flatMap (·.cells)

/-- What styles output. Where it refuses a line or a table, nothing of that is shown, and it says why. -/
structure Styler where
  line? : List String → Option String := fun _ => none
  table? : Table → Option String := fun _ => none

namespace Styler

/-- Why an output is refused, if it is. Text that is shown as it is has no tags. -/
def complaint? (y : Styler) : Output → Option String
  | .markup objects => y.line? objects
  | .table t => y.table? t
  | .text .. | .ask _ | .diagnostic _ => none

/-- The outputs that are shown, up to the first that is refused, and the complaint about that one. -/
def paint (y : Styler) : List Output → List Output × Option String
  | [] => ([], none)
  | o :: rest =>
    match y.complaint? o with
    | some complaint => ([], some complaint)
    | none =>
      let (shown, complaint?) := y.paint rest
      (o :: shown, complaint?)

end Styler

/-- What there is to talk to the user with. -/
structure Facilities where
  styling : Bool := true
  prompting : Bool := true
  styler : Styler := {}

/-- Where nothing styles output, nothing is refused. -/
def Facilities.paint (f : Facilities) (outputs : List Output) : List Output × Option String :=
  if f.styling then f.styler.paint outputs else (outputs, none)

end ClusterInspector
