import ClusterInspector.Cluster.Record

/-!
# Clusters

A cluster is an ordered collection of records of each kind. It is looked at by kind, namespace and
name, and its only change is a deletion, which takes away the records that go with one target:
those of its kind with its name and namespace, and, where the target is a namespace, all that lies
in it. What is left keeps its order.
-/
namespace ClusterInspector

structure Cluster where
  namespaces : List Namespace := []
  pods : List Pod := []
  deployments : List Deployment := []
  daemonsets : List DaemonSet := []
  deriving DecidableEq, Repr

namespace Cluster

def records (c : Cluster) : (k : Kind) → List k.Record
  | .namespaces => c.namespaces
  | .pods => c.pods
  | .deployments => c.deployments
  | .daemonsets => c.daemonsets

def size (c : Cluster) (k : Kind) : Nat := (c.records k).length

theorem ext_records {c c' : Cluster} (same : ∀ k, c.records k = c'.records k) : c = c' := by
  obtain ⟨namespaces, pods, deployments, daemonsets⟩ := c
  obtain ⟨namespaces', pods', deployments', daemonsets'⟩ := c'
  have first : namespaces = namespaces' := same .namespaces
  have second : pods = pods' := same .pods
  have third : deployments = deployments' := same .deployments
  have fourth : daemonsets = daemonsets' := same .daemonsets
  rw [first, second, third, fourth]

/-- The records that satisfy a condition. -/
def filter (keep : {k : Kind} → k.Record → Bool) (c : Cluster) : Cluster where
  namespaces := c.namespaces.filter (keep (k := .namespaces))
  pods := c.pods.filter (keep (k := .pods))
  deployments := c.deployments.filter (keep (k := .deployments))
  daemonsets := c.daemonsets.filter (keep (k := .daemonsets))

@[simp] theorem records_filter (keep : {k : Kind} → k.Record → Bool) (c : Cluster) (k : Kind) :
    (c.filter keep).records k = (c.records k).filter keep := by
  cases k <;> rfl

/-- The record lies in the namespace asked for, if one is; cluster-wide records lie everywhere. -/
def liesIn (scope : Option String) {k : Kind} (r : k.Record) : Bool :=
  scope.all fun s => r.home?.all (· = s)

def isNamed (name : Option String) {k : Kind} (r : k.Record) : Bool :=
  name.all (r.name = ·)

/-- The records of a kind, in order, that lie in a namespace and have a name, where one is given. -/
def select (c : Cluster) (k : Kind) (scope name : Option String) : List k.Record :=
  (c.records k).filter fun r => liesIn scope r && isNamed name r

theorem mem_select {c : Cluster} {k : Kind} {scope name : Option String} {r : k.Record} :
    r ∈ c.select k scope name ↔ r ∈ c.records k ∧ liesIn scope r ∧ isNamed name r := by
  simp only [select, List.mem_filter, Bool.and_eq_true]

/-- The first record with a name, in a namespace where one is given. -/
def find? (c : Cluster) (k : Kind) (name : String) (scope : Option String) : Option k.Record :=
  (c.select k scope (some name)).head?

def namespaceNames (c : Cluster) : List String := c.namespaces.map (·.name)

/-- Deleting the target takes the record away. -/
def goesWith {k : Kind} (target : k.Record) {k' : Kind} (r : k'.Record) : Bool :=
  if k' = k then r.name = target.name && r.home? = target.home?
  else k = .namespaces && r.home? = some target.name

/-- What is left when the target is deleted. -/
def without {k : Kind} (c : Cluster) (target : k.Record) : Cluster :=
  c.filter fun r => !goesWith target r

theorem records_without {k : Kind} (c : Cluster) (target : k.Record) (k' : Kind) :
    (c.without target).records k' = (c.records k').filter fun r => !goesWith target r :=
  records_filter _ c k'

/-- One collection loses what goes with the target. -/
def sweep {k : Kind} (c : Cluster) (target : k.Record) (swept : Kind) : Cluster :=
  c.filter fun {k'} r => decide (k' ≠ swept) || !goesWith target r

theorem goesWith_self {k : Kind} (target : k.Record) : goesWith target target := by
  simp [goesWith]

/-- Records of a kind that a deletion takes away. -/
def lost {k : Kind} (c : Cluster) (target : k.Record) (k' : Kind) : Nat :=
  c.size k' - (c.without target).size k'

end Cluster

end ClusterInspector
