import ClusterInspector.Desk
import ClusterInspector.Proofs.Deletion

/-!
# Runs

A run is a sequence of operations on a desk: console lines and commands, direct deletions, and what
users do with browsers, in any order. Along a run the cluster is pruned: it changes only where a
deletion leaves it without some record that it held.
-/
namespace ClusterInspector

/-- The second cluster is what deletions leave of the first. -/
inductive Cluster.Pruned (c : Cluster) : Cluster → Prop
  | refl : Pruned c c
  | delete {c' : Cluster} {k : Kind} (target : k.Record) (before : Pruned c c')
      (held : target ∈ c'.records k) : Pruned c (c'.without target)

namespace Cluster.Pruned

theorem trans {a b c : Cluster} (first : a.Pruned b) (second : b.Pruned c) : a.Pruned c := by
  induction second with
  | refl => exact first
  | delete target _ held ih => exact .delete target ih held

/-- What no single deletion breaks holds of all that deletions leave. -/
theorem preserves {P : Cluster → Prop}
    (step : ∀ (c : Cluster) (k : Kind) (target : k.Record), P c → P (c.without target))
    {before after : Cluster} (pruned : before.Pruned after) (holds : P before) : P after := by
  induction pruned with
  | refl => exact holds
  | delete target _ _ ih => exact step _ _ target ih

/-- Records leave, and nothing else happens to them. -/
theorem records_sublist {before after : Cluster} (pruned : before.Pruned after) (k : Kind) :
    (after.records k).Sublist (before.records k) := by
  refine pruned.preserves (P := fun c => (c.records k).Sublist (before.records k)) ?_ (.refl _)
  intro c k' target still
  rw [Cluster.records_without]
  exact List.filter_sublist.trans still

/-- A record and all that are equal to it are kept or lost together. -/
theorem records_eq {before after : Cluster} (pruned : before.Pruned after) (k : Kind) :
    after.records k = (before.records k).filter (· ∈ after.records k) := by
  induction pruned with
  | refl =>
    refine (List.filter_eq_self.mpr fun r held => ?_).symm
    exact decide_eq_true held
  | @delete c _ target _ _ ih =>
    have kept : ∀ r, r ∈ (c.without target).records k ↔
        r ∈ c.records k ∧ goesWith target r = false := by
      intro r
      rw [records_without, List.mem_filter, Bool.not_eq_true']
    calc (c.without target).records k
        = (c.records k).filter fun r => !goesWith target r := records_without c target k
      _ = ((before.records k).filter (· ∈ c.records k)).filter fun r => !goesWith target r := by
        rw [← ih]
      _ = (before.records k).filter (· ∈ (c.without target).records k) := by
        rw [List.filter_filter]
        refine List.filter_congr fun r _ => ?_
        simp only [kept, Bool.decide_and, Bool.and_comm, Bool.decide_eq_false]

theorem isHoused {before after : Cluster} (pruned : before.Pruned after) (home : String)
    (housed : before.IsHoused home) : after.IsHoused home := by
  refine pruned.preserves (P := fun c => c.IsHoused home) ?_ housed
  intro c k target still
  exact Cluster.isHoused_without c k target home still

end Cluster.Pruned

namespace Store

theorem delete_pruned (s : Store) (k : Kind) (name : String) (scope : Option String) :
    s.cluster.Pruned (s.delete k name scope).state.cluster := by
  rw [delete_cluster]
  cases found : s.cluster.find? k name scope with
  | none => exact .refl
  | some target => exact .delete target .refl (Cluster.find?_mem _ _ _ _ _ found).1

end Store

theorem Browser.close_cluster (b : Browser) (s : Store) : (b.close s).cluster = s.cluster := by
  unfold close Store.unwatch
  cases s.watchers.cancel? b.handle <;> rfl

namespace Console

theorem answerCommand_pruned (now : Nat) (s : Store) (cmd : Command) :
    s.cluster.Pruned (answerCommand now s cmd).state.cluster := by
  rcases answerCommand_cases now s cmd with ⟨k, r, _, _, deleted, _⟩ | kept
  · rw [deleted]
    exact s.delete_pruned k r.name r.home?
  · rw [kept]
    exact .refl

theorem answerLine_pruned (now : Nat) (s : Store) (line : String) :
    s.cluster.Pruned (answerLine now s line).state.cluster := by
  unfold answerLine
  cases Command.ofLine line with
  | error e => exact .refl
  | ok cmd => exact answerCommand_pruned now s cmd

end Console

namespace Desk

/-- What can be done at a desk. -/
inductive Operation where
  | line (text : String)
  | command (cmd : Command)
  | delete (k : Kind) (name : String) (scope : Option String)
  | openBrowser
  | act (browser : Nat) (a : Browser.Action)
  | close (browser : Nat)
  deriving DecidableEq, Repr

def answerCommand (d : Desk) (cmd : Command) : Step Desk Console.Failure String :=
  d.settle (Console.answerCommand d.now d.store cmd)

/-- The desk after an operation, whether that succeeds or not. -/
def perform (d : Desk) : Operation → Desk
  | .line text => (d.answerLine text).state
  | .command cmd => (d.answerCommand cmd).state
  | .delete k name scope => (d.delete k name scope).state
  | .openBrowser => d.openBrowser
  | .act browser a => d.act browser a
  | .close browser => d.close browser

def run (d : Desk) (ops : List Operation) : Desk := ops.foldl perform d

theorem run_append (d : Desk) (past future : List Operation) :
    d.run (past ++ future) = (d.run past).run future :=
  List.foldl_append

theorem perform_pruned (d : Desk) (op : Operation) :
    d.store.cluster.Pruned (d.perform op).store.cluster := by
  cases op with
  | line text =>
    rw [perform, answerLine, settle_store]
    exact Console.answerLine_pruned d.now d.store text
  | command cmd =>
    rw [perform, answerCommand, settle_store]
    exact Console.answerCommand_pruned d.now d.store cmd
  | delete k name scope =>
    rw [perform, delete, settle_store]
    exact d.store.delete_pruned k name scope
  | openBrowser => exact .refl
  | act browser a => exact .refl
  | close browser =>
    rw [perform, close]
    split
    · rw [Browser.close_cluster]
      exact .refl
    · exact .refl

theorem run_pruned (d : Desk) (ops : List Operation) :
    d.store.cluster.Pruned (d.run ops).store.cluster := by
  induction ops generalizing d with
  | nil => exact .refl
  | cons op rest ih => exact (d.perform_pruned op).trans (ih (d.perform op))

theorem perform_now (d : Desk) (op : Operation) : (d.perform op).now = d.now := by
  cases op with
  | line text => rw [perform, answerLine, settle_now]
  | command cmd => rw [perform, answerCommand, settle_now]
  | delete k name scope => rw [perform, delete, settle_now]
  | openBrowser => rfl
  | act browser a => rfl
  | close browser =>
    rw [perform, close]
    split <;> rfl

theorem run_now (d : Desk) (ops : List Operation) : (d.run ops).now = d.now := by
  induction ops generalizing d with
  | nil => rfl
  | cons op rest ih => exact (ih (d.perform op)).trans (d.perform_now op)

end Desk

end ClusterInspector
