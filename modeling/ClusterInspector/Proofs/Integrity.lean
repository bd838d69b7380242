import ClusterInspector.Proofs.Generated
import ClusterInspector.Proofs.Run

/-!
# Integrity

What no run can break: the collections only lose records, keys that are unique stay so, and records
whose namespaces all exist never come to lie in one that does not.
-/
namespace ClusterInspector

namespace Cluster

/-- Records of one kind differ in name or namespace. -/
def HasUniqueKeys (c : Cluster) (k : Kind) : Prop :=
  ((c.records k).map fun r => (r.name, r.home?)).Nodup

/-- Every record lies in a namespace that has a record. -/
def IsWhole (c : Cluster) : Prop := ∀ home, c.IsHoused home

theorem Pruned.hasUniqueKeys {before after : Cluster} (pruned : before.Pruned after) (k : Kind)
    (unique : before.HasUniqueKeys k) : after.HasUniqueKeys k :=
  unique.sublist ((pruned.records_sublist k).map _)

theorem Pruned.isWhole {before after : Cluster} (pruned : before.Pruned after)
    (whole : before.IsWhole) : after.IsWhole :=
  fun home => pruned.isHoused home (whole home)

end Cluster

theorem Generator.cluster_isWhole {σ : Type} [Chance.Source σ] (source : σ) (c : Cluster)
    (generated : (Generator.cluster.run source).1 = .ok c) : c.IsWhole :=
  (yields_cluster.of_ok source c generated).isHoused

/-- Wherever a run leads, each collection is a subsequence of what it was at first, unique keys are
unique, and a cluster in which every record's namespace exists is still such a cluster, as every
generated one is to begin with. -/
theorem Desk.run_integrity (d : Desk) (ops : List Operation) :
    let before := d.store.cluster
    let after := (d.run ops).store.cluster
    (∀ k, (after.records k).Sublist (before.records k)) ∧
    (∀ k, before.HasUniqueKeys k → after.HasUniqueKeys k) ∧
    (before.IsWhole → after.IsWhole) ∧
    (∀ {σ : Type} [Chance.Source σ] (source : σ),
      (Generator.cluster.run source).1 = .ok before → before.IsWhole ∧ after.IsWhole) := by
  dsimp only
  have pruned := d.run_pruned ops
  refine ⟨pruned.records_sublist, pruned.hasUniqueKeys, pruned.isWhole, ?_⟩
  intro σ _ source generated
  have whole := Generator.cluster_isWhole source d.store.cluster generated
  exact ⟨whole, pruned.isWhole whole⟩

end ClusterInspector
