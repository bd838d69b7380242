import ClusterInspector.Cluster.Record
import ClusterInspector.Text.Numeral
import ClusterInspector.Text.Table

/-!
# Listings

The columns in which records of a kind are listed, and the cells of each record. Records can be
listed when each number in their cells is within the limit for writing one.
-/
namespace ClusterInspector.Listing

def columns : Kind → List String
  | .namespaces => ["NAME", "STATUS", "AGE"]
  | .pods => ["NAME", "READY", "STATUS", "RESTARTS", "AGE", "NODE"]
  | .deployments => ["NAME", "READY", "UP-TO-DATE", "AVAILABLE", "AGE"]
  | .daemonsets => ["NAME", "DESIRED", "CURRENT", "READY", "UP-TO-DATE", "AVAILABLE", "AGE"]

/-- What follows the status of a pod with a problem. -/
def problemMark : String := " ⚠"

/-- A text that may be absent; an empty one counts as absent. -/
def orElse (text : Option String) (placeholder : String) : String :=
  match text with
  | none | some "" => placeholder
  | some t => t

def cells : {k : Kind} → k.Record → List String
  | .namespaces, (r : Namespace) => [r.name, r.status, r.age]
  | .pods, (r : Pod) =>
    [r.name, r.ready, r.status.text ++ (if r.problem.isSome then problemMark else ""),
      toString r.restarts, r.age, orElse r.node "-"]
  | .deployments, (r : Deployment) =>
    [r.name, r.ready, toString r.upToDate, toString r.available, r.age]
  | .daemonsets, (r : DaemonSet) =>
    [r.name, toString r.desired, toString r.current, toString r.ready, toString r.upToDate,
      toString r.available, r.age]

/-- The numbers that the cells write. -/
def numbers : {k : Kind} → k.Record → List Int
  | .namespaces, _ => []
  | .pods, (r : Pod) => [r.restarts]
  | .deployments, (r : Deployment) => [r.upToDate, r.available]
  | .daemonsets, (r : DaemonSet) => [r.desired, r.current, r.ready, r.upToDate, r.available]

def isWritable {k : Kind} (r : k.Record) : Bool := (numbers r).all Text.Numeral.isWritable

theorem length_cells {k : Kind} (r : k.Record) : (cells r).length = (columns k).length := by
  cases k <;> rfl

/-- No row is longer than the headers. -/
theorem table_eq (k : Kind) (rs : List k.Record) :
    Text.Table.render (columns k) (rs.map cells) =
      .ok (Text.Table.layout (columns k) (rs.map cells)) := by
  refine Text.Table.render_eq_ok _ _ fun row member => ?_
  obtain ⟨r, _, rfl⟩ := List.mem_map.mp member
  exact Nat.le_of_eq (length_cells r)

/-- The records as an aligned table. -/
def render (k : Kind) (rs : List k.Record) : String :=
  (Text.Table.render (columns k) (rs.map cells)).toOption.get (by rw [table_eq]; rfl)

end ClusterInspector.Listing
