import ClusterInspector.Browser
import ClusterInspector.Display
import ClusterInspector.Failure
import ClusterInspector.Listing

/-!
# The browser's view

A browser's view is a status line, a table with the highlighted row reversed, and what is known of
the highlighted pod if it has a problem. Cells are coloured by style tags, so brackets in record
text are escaped. The filter stands in the table's title as it is.
-/
namespace ClusterInspector.View

/-- Puts a backslash before each opening bracket. -/
def escape (s : String) : String :=
  String.ofList (s.toList.flatMap fun c => if c = '[' then ['\\', '['] else [c])

def tagged (style text : String) : String := s!"[{style}]{text}[/]"

def statusStyle (p : Pod) : String :=
  if p.problem.isSome then "red" else if p.status = .running then "green" else "yellow"

/-- The cells of a record, with a pod's status, its restarts if it has any, and a namespace's
status coloured. -/
def cells : {k : Kind} → k.Record → List String
  | .namespaces, (r : Namespace) =>
    ((Listing.cells (k := .namespaces) r).map escape).modify 1 (tagged "green")
  | .pods, (r : Pod) =>
    let cells := ((Listing.cells (k := .pods) r).map escape).modify 2 (tagged (statusStyle r))
    if r.restarts > 0 then cells.modify 3 (tagged "yellow") else cells
  | .deployments, r => (Listing.cells (k := .deployments) r).map escape
  | .daemonsets, r => (Listing.cells (k := .daemonsets) r).map escape

/-- One line for a record where rows are offered for choice. -/
def label {k : Kind} (r : k.Record) : String :=
  match r.home? with
  | some home => s!"{r.name}  ({home})"
  | none => r.name

def title (b : Browser) : String :=
  if b.filter = "" then b.kind.title else s!"{b.kind.title}  /{b.filter}"

def hint : String := "Next/Previous switch resource | Select row | Filter | Clear | Terminal"

def table (b : Browser) (c : Cluster) : Table where
  title := title b
  headerStyle := "bold magenta"
  columns := (Listing.columns b.kind).map fun header => { header, justify := some "left" }
  rows := (b.rows c).mapIdx fun i r =>
    { cells := cells r, style := if i = b.selectedIndex c then some "reverse" else none }

def details (pod : Pod) (problem : PodProblem) : List Output :=
  let message := pod.problemMessage.getD ""
  [.blankLine,
    .text s!"Pod Details: {pod.name}" "bold",
    .text s!"Namespace:     {pod.home}",
    .text s!"Status:        {pod.status.text}" "red",
    .text s!"Error Type:    {problem.text}" "red",
    .text s!"Error Message: {message}",
    .text s!"Restarts:      {pod.restarts}",
    .text ("Node:          " ++ Listing.orElse pod.node "N/A")]

/-- The whole view as it is to be shown. A row with a number that cannot be written stops it before
anything is. -/
def outputs (b : Browser) (c : Cluster) : Except Fault (List Output) :=
  if (b.rows c).all Listing.isWritable then
    .ok <| [.blankLine, .text (b.statusLine c) "bold cyan", .text hint "dim", .table (table b c)] ++
      (match b.details c with
        | some (pod, problem) => details pod problem
        | none => []) ++
      [.blankLine]
  else .error .numeralUnwritable

/-- What came to be shown of a view, and what it ended with if that was not all of it. -/
structure Showing where
  outputs : List Output := []
  ending? : Option Ending := none
  deriving DecidableEq, Repr

/-- Shows the view, as far as its output is not refused. -/
def display (f : Facilities) (b : Browser) (c : Cluster) : Showing :=
  if f.styling then
    match outputs b c with
    | .error fault => { ending? := some (.failed (.fault fault)) }
    | .ok view =>
      let (outputs, complaint?) := f.styler.paint view
      { outputs, ending? := complaint?.map .refused }
  else { ending? := some (.failed .stylingMissing) }

end ClusterInspector.View
