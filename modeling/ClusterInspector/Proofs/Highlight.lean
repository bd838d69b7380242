import ClusterInspector.Proofs.Attendance

/-!
# The highlighted row

The index of a browser is to be that of a row in view. Every action of the user sees to this, and so
does a browser that is told of a deleted namespace. The deletion of a single record is not told, so it
can leave the index behind the last row. The highlight then stays on the last row however the user
moves up, until the index has come down to the rows again.
-/
namespace ClusterInspector

namespace Browser

/-- The index is that of a row, or zero where there is none. -/
def IsClamped (b : Browser) (c : Cluster) : Prop := b.index ≤ (b.rows c).length - 1

instance (b : Browser) (c : Cluster) : Decidable (b.IsClamped c) :=
  inferInstanceAs (Decidable (_ ≤ _))

theorem IsClamped.act {b : Browser} {c : Cluster} (clamped : b.IsClamped c) (a : Action) :
    (b.act c a).IsClamped c := by
  cases a with
  | down => exact Nat.min_le_right _ _
  | up => exact Nat.le_trans (Nat.sub_le _ _) clamped
  | activate row =>
    simp only [Browser.act, activate]
    split
    · exact clamped
    · split
      · exact clamped
      · rename_i r shown
        split
        · exact Nat.le_sub_one_of_lt (List.getElem?_eq_some_iff.mp shown).1
        · exact Nat.zero_le _
  | _ => exact Nat.zero_le _

/-- A browser that is told of a deleted namespace looks at its rows anew. -/
theorem isClamped_notice (b : Browser) (c : Cluster) (gone : String) :
    (b.notice c gone).IsClamped c :=
  Nat.min_le_right _ _

theorem selectedIndex_up (b : Browser) (c : Cluster) :
    (b.act c .up).selectedIndex c = min (b.index - 1) ((b.rows c).length - 1) := rfl

/-- From the row that the index is of, moving up comes to the row above, if there is one. -/
theorem IsClamped.selectedIndex_up {b : Browser} {c : Cluster} (clamped : b.IsClamped c) :
    (b.act c .up).selectedIndex c = b.selectedIndex c - 1 := by
  rw [Browser.selectedIndex_up]
  unfold selectedIndex
  unfold IsClamped at clamped
  omega

/-- Otherwise the highlight does not move. -/
theorem selectedIndex_up_of_not_isClamped (b : Browser) (c : Cluster) (beyond : ¬ b.IsClamped c) :
    (b.act c .up).selectedIndex c = b.selectedIndex c := by
  rw [selectedIndex_up]
  unfold selectedIndex
  unfold IsClamped at beyond
  omega

end Browser

namespace Desk

/-- The operation deletes a record other than a namespace, and leaves the browser with fewer rows
than its index needs. -/
def Undercuts (d : Desk) (b : Browser) (op : Operation) : Prop :=
  ∃ (k : Kind) (r : k.Record), d.deleted? op = some ⟨k, r⟩ ∧ k ≠ .namespaces ∧
    ¬ b.IsClamped (d.store.cluster.without r)

/-- An operation that undercuts a browser leaves its index behind the rows, and no other does. -/
theorem Change.isClamped_iff {d : Desk} {i : Nat} {b b' : Browser} {op : Operation} {c : Cluster}
    (change : d.Change i b op b' c) (told : d.Tells b) (clamped : b.IsClamped d.store.cluster) :
    b'.IsClamped c ↔ ¬ d.Undercuts b op := by
  cases change with
  | none _ keeps foreign =>
    refine iff_of_true clamped ?_
    rintro ⟨k, r, deletes, _⟩
    rw [keeps] at deletes
    cases deletes
  | acted a =>
    refine iff_of_true (clamped.act a) ?_
    rintro ⟨k, r, deletes, _⟩
    cases deletes
  | lost _ r deletes held namespaced =>
    constructor
    · rintro still ⟨k', r', deletes', _, beyond⟩
      cases deletes.symm.trans deletes'
      exact beyond still
    · intro spared
      by_contra beyond
      exact spared ⟨_, r, deletes, namespaced, beyond⟩
  | noticed _ r deletes held _ =>
    refine iff_of_true (b.isClamped_notice _ _) ?_
    rintro ⟨k', r', deletes', namespaced, _⟩
    cases deletes.symm.trans deletes'
    exact namespaced rfl
  | missed _ r deletes held untold => exact absurd told untold

theorem perform_isClamped_iff (d : Desk) (ops : List Operation) (fresh : d.IsFresh) (op : Operation)
    (i : Nat) (unclosed : ¬ d.WasClosed ops i) (b b' : Browser)
    (before : (d.run ops).browsers[i]? = some b)
    (after : ((d.run ops).perform op).browsers[i]? = some b')
    (clamped : b.IsClamped (d.run ops).store.cluster) :
    b'.IsClamped ((d.run ops).perform op).store.cluster ↔ ¬ (d.run ops).Undercuts b op := by
  obtain ⟨told, change⟩ := d.run_change ops fresh op i unclosed b b' before after
  exact change.isClamped_iff told clamped

/-- Along a run the index of a browser that was not closed is always that of a row if and only if no
operation of the run undercuts the browser. Where it is, moving up comes to the row above the
highlighted one, if there is one; where it is not, the highlight does not move. -/
theorem clamped_throughout_iff (d : Desk) (fresh : d.IsFresh) (ops : List Operation) (i : Nat)
    (unclosed : ¬ d.WasClosed ops i) :
    ((∀ past, past <+: ops → ∀ b, (d.run past).browsers[i]? = some b →
        b.IsClamped (d.run past).store.cluster) ↔
      ∀ past op, past ++ [op] <+: ops → ∀ b, (d.run past).browsers[i]? = some b →
        ¬ (d.run past).Undercuts b op) ∧
    ∀ b, (d.run ops).browsers[i]? = some b →
      let c := (d.run ops).store.cluster
      (b.IsClamped c → (b.act c .up).selectedIndex c = b.selectedIndex c - 1) ∧
      (¬ b.IsClamped c → (b.act c .up).selectedIndex c = b.selectedIndex c) := by
  have stillOpen : ∀ past, past <+: ops → ¬ d.WasClosed past i := fun past within closed =>
    unclosed (d.wasClosed_of_prefix past ops i within closed)
  refine ⟨⟨?_, ?_⟩, fun b _ =>
    ⟨Browser.IsClamped.selectedIndex_up, b.selectedIndex_up_of_not_isClamped _⟩⟩
  · intro clamped past op within b before
    have shorter := (List.prefix_append past [op]).trans within
    obtain ⟨b', after, _⟩ :=
      perform_change _ op i b (d.run_isAttended past fresh.isAttended) before
    refine (perform_isClamped_iff d past fresh op i (stillOpen past shorter) b b' before after
      (clamped past shorter b before)).mp ?_
    rw [← run_concat] at after ⊢
    exact clamped _ within b' after
  · intro spared past within b present
    refine d.run_preserves (P := fun d b => b.IsClamped d.store.cluster) past fresh i ?_ ?_ b present
    · intro d
      exact Nat.zero_le _
    · intro earlier op step b b' before after clamped
      have shorter := ((List.prefix_append earlier [op]).trans step).trans within
      exact (perform_isClamped_iff d earlier fresh op i (stillOpen earlier shorter) b b' before after
        clamped).mpr (spared earlier op (step.trans within) b before)

/-- The last pod is highlighted when it is deleted from the store, which undercuts the browser. -/
theorem clamped_throughout_iff_old :
    let past : List Operation := [.openBrowser, .act 0 (.show .pods), .act 0 .down, .act 0 .down,
      .act 0 .down, .act 0 .down]
    let deletion : Operation := .delete .pods "old" none
    let b : Browser := { kind := .pods, index := 4, handle := 2 }
    let ops := past ++ [deletion]
    crowdedDesk.IsFresh ∧ ¬ crowdedDesk.WasClosed ops 0 ∧
    (crowdedDesk.run past).browsers[0]? = some b ∧ (crowdedDesk.run past).Undercuts b deletion ∧
    ¬ ∀ past, past <+: ops → ∀ b, (crowdedDesk.run past).browsers[0]? = some b →
      b.IsClamped (crowdedDesk.run past).store.cluster := by
  intro past deletion b ops
  have unclosed := crowdedDesk.not_wasClosed_of_not_mem ops 0 (by decide)
  have present : (crowdedDesk.run past).browsers[0]? = some b := by decide +kernel
  have undercut : (crowdedDesk.run past).Undercuts b deletion :=
    ⟨.pods, crowdedPod "old" "lost" "4h", rfl, by decide, by decide +kernel⟩
  obtain ⟨throughout, _⟩ := clamped_throughout_iff crowdedDesk crowdedDesk_isFresh ops 0 unclosed
  refine ⟨crowdedDesk_isFresh, unclosed, present, undercut, fun clamped => ?_⟩
  exact throughout.mp clamped past deletion (List.prefix_refl _) b present undercut

/-- After a deletion from the console the index is behind the last of four rows, and moving up leaves
the highlight on that row. -/
theorem highlight_stuck_on_last :
    let ops : List Operation := [.openBrowser, .act 0 (.show .pods), .act 0 .down, .act 0 .down,
      .act 0 .down, .act 0 .down, .line "kubectl delete po old"]
    let b : Browser := { kind := .pods, index := 4, handle := 2 }
    let d := crowdedDesk.run ops
    let up := d.perform (.act 0 .up)
    d.browsers[0]? = some b ∧ (b.rows d.store.cluster).length = 4 ∧
    ¬ b.IsClamped d.store.cluster ∧ b.selectedIndex d.store.cluster = 3 ∧
    up.browsers[0]?.map (·.selectedIndex up.store.cluster) = some 3 := by
  decide +kernel

end Desk

end ClusterInspector
