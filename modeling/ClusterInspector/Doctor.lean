import ClusterInspector.Display
import ClusterInspector.Text.Search
import ClusterInspector.Text.Table

/-!
# The doctor

What the program finds of its surroundings, one check a row, and whether it can work there. A
missing package only warns; an interpreter below 3.10 fails.
-/
namespace ClusterInspector.Doctor

/-- What a machine says of itself. -/
structure Host where
  interpreter : String
  major : Nat
  minor : Nat
  /-- Installed packages and their versions. -/
  packages : List (String × String)
  system : String
  release : String
  machine : String
  deriving DecidableEq, Repr

structure Check where
  label : String
  value : String
  status : String
  deriving DecidableEq, Repr

def version : String := "0.3.0"

def okStatus : String := "[green]OK[/green]"

def interpreterCheck (h : Host) : Check :=
  let recent := h.major > 3 || h.major == 3 && h.minor ≥ 10
  ⟨"Python", h.interpreter, if recent then okStatus else "[red]FAIL (>=3.10 required)[/red]"⟩

def packageCheck (h : Host) (name : String) : Check :=
  match h.packages.lookup name with
  | some v => ⟨name, v, okStatus⟩
  | none => ⟨name, "NOT INSTALLED", "[yellow]WARN[/yellow]"⟩

def systemCheck (h : Host) : Check :=
  let system := if h.system = "Darwin" then "macOS" else h.system
  ⟨"OS", s!"{system} {h.release} ({h.machine})", okStatus⟩

def checks (h : Host) : List Check :=
  [⟨"kubesim", version, okStatus⟩, interpreterCheck h, packageCheck h "rich",
    packageCheck h "questionary", systemCheck h]

def mentions (status word : String) : Bool := Text.occursIn word.toList status.toList

/-- A status without style tags: the gravest word in it, or else the status itself. -/
def shortStatus (status : String) : String :=
  if mentions status "FAIL" then "FAIL"
  else if mentions status "WARN" then "WARN"
  else if mentions status "OK" then "OK"
  else status

def plainRow (label value status : String) : String :=
  s!"{Text.Table.pad 12 label} {Text.Table.pad 32 value} {Text.Table.pad 8 status}"

/-- The checks as lines of unstyled text. -/
def plainTable (cs : List Check) : List Output :=
  let rule (c : Char) := Output.markup [String.ofList (List.replicate 56 c)]
  [.markup ["\nkubesim doctor"], rule '=', .markup [plainRow "Component" "Value" "Status"],
    rule '-'] ++
    cs.map (fun c => .markup [plainRow c.label c.value (shortStatus c.status)]) ++
    [.blankLine]

def table (cs : List Check) : Table where
  title := "kubesim doctor"
  headerStyle := "bold cyan"
  columns := [
    { header := "Component", style := some "bold", minWidth := some 12 },
    { header := "Value", minWidth := some 20 },
    { header := "Status", justify := some "center", minWidth := some 8 }]
  rows := cs.map fun c => { cells := [c.label, c.value, c.status] }

def failed (cs : List Check) : Bool := cs.any fun c => mentions c.status "FAIL"

/-- The table and the verdict below it. -/
def outputs (styling : Bool) (cs : List Check) : List Output :=
  let verdict := if failed cs then "Some checks failed." else "All checks passed."
  let style := if failed cs then "bold red" else "bold green"
  if styling then
    [.blankLine, .table (table cs), .blankLine, .markup [s!"[{style}]{verdict}[/{style}]"]]
  else plainTable cs ++ [.markup [verdict]]

end ClusterInspector.Doctor
