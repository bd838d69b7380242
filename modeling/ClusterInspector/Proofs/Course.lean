import ClusterInspector.Proofs.Addressing
import ClusterInspector.Store

/-!
# The course of a deletion

A deletion has its effects one after the other: the collection of the target's kind is swept, for a
namespace also those of the other kinds, the deletion is noted, and those who watched when it began are
told one at a time. What this comes to is here said at once: the cluster is without the target, and the
registrations are as a round of notices leaves them.
-/
namespace ClusterInspector

namespace Cluster

theorem records_sweep {k : Kind} (c : Cluster) (target : k.Record) (swept k' : Kind) :
    (c.sweep target swept).records k' =
      if k' = swept then (c.records k').filter fun r => !goesWith target r else c.records k' := by
  rw [sweep, records_filter]
  by_cases same : k' = swept
  · simp [same]
  · simp [same]

/-- Outside the collection of a namespaced target nothing goes with it. -/
theorem sweep_own (c : Cluster) (k : Kind) (target : k.Record) (namespaced : k ≠ .namespaces) :
    c.sweep target k = c.without target := by
  refine ext_records fun k' => ?_
  rw [records_sweep, records_without]
  split
  · rfl
  · rename_i other
    refine (List.filter_eq_self.mpr fun r _ => ?_).symm
    rw [Bool.not_eq_true', ← Bool.not_eq_true, goesWith_other_kind k k' target r other]
    exact fun goes => namespaced goes.1

/-- Sweeping every collection in turn takes all that goes with the target. -/
theorem sweep_all (c : Cluster) (k : Kind) (target : k.Record) :
    Kind.all.foldl (fun c swept => c.sweep target swept) c = c.without target := by
  refine ext_records fun k' => ?_
  simp only [Kind.all, List.foldl_cons, List.foldl_nil, records_sweep, records_without]
  cases k' <;> rfl

end Cluster

namespace Store

variable {k : Kind} (target : k.Record) (s : Store)

/-- Effects that come to an end have all taken place, and made known what each of them does. -/
theorem undergoAll_of_ok (es : List Effect) (ok : (s.undergoAll target es).result = .ok ()) :
    (s.undergoAll target es).state = es.foldl (undergo target) s ∧
    (s.undergoAll target es).events = es.filterMap (·.event? target.name) := by
  induction es generalizing s with
  | nil => exact ⟨rfl, rfl⟩
  | cons e rest ih =>
    unfold undergoAll at ok ⊢
    cases unknown : s.unknown? e with
    | some h =>
      rw [unknown] at ok
      cases ok
    | none =>
      rw [unknown] at ok
      obtain ⟨state, events⟩ := ih (s.undergo target e) ok
      refine ⟨state, ?_⟩
      dsimp only
      rw [events, List.filterMap_cons]
      cases e.event? target.name <;> rfl

theorem undergoAll_append (es es' : List Effect) :
    s.undergoAll target (es ++ es') =
      (s.undergoAll target es).andThen fun s' _ => s'.undergoAll target es' := by
  induction es generalizing s with
  | nil => rfl
  | cons e rest ih =>
    rw [List.cons_append, undergoAll, undergoAll, ih]
    cases s.unknown? e with
    | some h => rfl
    | none =>
      unfold Step.andThen
      dsimp only
      cases ((s.undergo target e).undergoAll target rest).result with
      | error f => rfl
      | ok u =>
        dsimp only
        rw [List.append_assoc]

theorem undergoAll_sweeps (kinds : List Kind) :
    s.undergoAll target (kinds.map .sweeps) =
      { state := { s with cluster := kinds.foldl (fun c swept => c.sweep target swept) s.cluster }
        result := .ok () } := by
  induction kinds generalizing s with
  | nil => rfl
  | cons swept rest ih =>
    rw [List.map_cons, undergoAll]
    dsimp only [unknown?]
    rw [ih]
    rfl

/-- Telling the watchers one at a time is a round of notices. -/
theorem undergoAll_tells (watchers : List NamespaceWatcher) :
    s.undergoAll target (watchers.map .tells) =
      let round := Registry.tell NamespaceWatcher.cancels s.watchers watchers
      { state := { s with watchers := round.registry }
        events := round.told.map (.namespaceGone · target.name)
        result := match round.unknown with
          | none => .ok ()
          | some h => .error (.noSuchHandle h) } := by
  induction watchers generalizing s with
  | nil => rfl
  | cons w rest ih =>
    rw [List.map_cons, undergoAll, Registry.tell]
    cases cancelled : w.cancels with
    | none =>
      have known : s.unknown? (.tells w) = none := by simp [unknown?, cancelled]
      have same : s.undergo target (.tells w) = s := by simp [undergo, cancelled]
      rw [known, same, ih]
      rfl
    | some h =>
      dsimp only
      cases removed : s.watchers.cancel? h with
      | none =>
        have unknown : s.unknown? (.tells w) = some h := by
          simp [unknown?, cancelled, removed, Option.filter]
        rw [unknown]
        rfl
      | some watchers =>
        have known : s.unknown? (.tells w) = none := by
          simp [unknown?, cancelled, removed, Option.filter]
        have left : s.undergo target (.tells w) = { s with watchers } := by
          simp [undergo, cancelled, removed]
        rw [known, left, ih]
        rfl

/-- What deleting comes to: the target leaves with all that goes with it, and if it was a namespace,
those who are registered are told of it in one round. -/
theorem delete_eq (k : Kind) (name : String) (scope : Option String) :
    s.delete k name scope =
      match s.cluster.find? k name scope with
      | none => { state := s, result := .ok none }
      | some target =>
        let noted := .diagnostic (deleted s.cluster target)
        let left := s.cluster.without target
        if k.isNamespaced then
          { state := { s with cluster := left }, events := [noted], result := .ok (some target) }
        else
          let round := s.watchers.announce NamespaceWatcher.cancels
          { state := { cluster := left, watchers := round.registry }
            events := noted :: round.told.map (.namespaceGone · target.name)
            result := match round.unknown with
              | none => .ok (some target)
              | some h => .error (.noSuchHandle h) } := by
  unfold delete
  cases s.cluster.find? k name scope with
  | none => rfl
  | some target =>
    dsimp only
    unfold effects
    split
    · rename_i namespaced
      have swept := s.cluster.sweep_own k target (of_decide_eq_true namespaced)
      simp [undergoAll, unknown?, undergo, Effect.event?, Step.andThen, swept]
    · rw [undergoAll_append, undergoAll_sweeps, Cluster.sweep_all]
      unfold Step.andThen Registry.announce
      dsimp only [undergoAll, unknown?, undergo]
      rw [undergoAll_tells]
      dsimp only
      cases (Registry.tell NamespaceWatcher.cancels s.watchers s.watchers.active).unknown with
      | some h => rfl
      | none =>
        dsimp only
        rw [List.append_nil]
        rfl

end Store

end ClusterInspector
