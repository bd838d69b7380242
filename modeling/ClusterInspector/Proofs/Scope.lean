import ClusterInspector.Proofs.Attendance

/-!
# Scopes stay current

The scope of a browser is set by two actions of its user only, activating a namespace and clearing.
Besides, it is dropped when the browser is told that this very namespace is gone. Since a browser is
told until it is closed, its scope never outlives the namespace.
-/
namespace ClusterInspector

namespace Browser

/-- The scope, if there is one, is the name of a namespace of the cluster. -/
def IsCurrent (b : Browser) (c : Cluster) : Prop :=
  ∀ home, b.scope = some home → home ∈ c.namespaceNames

/-- The user's action sets the scope. -/
inductive SetsScope (b : Browser) (c : Cluster) : Action → Option String → Prop
  | activate (row : Int) (r : b.kind.Record) (isNamespace : b.kind = .namespaces)
    (fits : 0 ≤ row) (shown : (b.rows c)[row.toNat]? = some r) :
    SetsScope b c (.activate row) (some r.name)
  | clear : SetsScope b c .clear none

theorem name_mem_of_mem_rows (b : Browser) (c : Cluster) (r : b.kind.Record)
    (isNamespace : b.kind = .namespaces) (shown : r ∈ b.rows c) : r.name ∈ c.namespaceNames := by
  obtain ⟨kind, scope, filter, index, handle⟩ := b
  subst isNamespace
  exact (c.mem_namespaceNames r.name).mpr ⟨r, shown, rfl⟩

theorem SetsScope.scope_act {b : Browser} {c : Cluster} {a : Action} {scope : Option String}
    (sets : b.SetsScope c a scope) : (b.act c a).scope = scope := by
  cases sets with
  | activate row r isNamespace fits shown =>
    have notNamespaced : ¬ b.kind.isNamespaced = true := by
      rw [Cluster.isNamespaced_iff]
      exact not_not_intro isNamespace
    simp only [act, Browser.activate, if_neg (Int.not_lt.mpr fits), shown, if_neg notNamespaced, goTo]
  | clear => rfl

/-- Every other action keeps the scope. -/
theorem scope_act (b : Browser) (c : Cluster) (a : Action) :
    (b.act c a).scope = b.scope ∨ ∃ scope, b.SetsScope c a scope := by
  cases a with
  | activate row =>
    by_cases fits : 0 ≤ row
    · cases shown : (b.rows c)[row.toNat]? with
      | none =>
        left
        simp only [act, activate, if_neg (Int.not_lt.mpr fits), shown]
      | some r =>
        by_cases isNamespace : b.kind = .namespaces
        · exact Or.inr ⟨_, .activate row r isNamespace fits shown⟩
        · left
          have namespaced := (Cluster.isNamespaced_iff b.kind).mpr isNamespace
          simp only [act, activate, if_neg (Int.not_lt.mpr fits), shown, if_pos namespaced]
    · left
      simp only [act, activate, if_pos (Int.not_le.mp fits)]
  | clear => exact Or.inr ⟨none, .clear⟩
  | _ => exact Or.inl rfl

theorem IsCurrent.act {b : Browser} {c : Cluster} (current : b.IsCurrent c) (a : Action) :
    (b.act c a).IsCurrent c := by
  intro home within
  rcases b.scope_act c a with kept | ⟨scope, sets⟩
  · exact current home (kept ▸ within)
  · rw [sets.scope_act] at within
    subst within
    cases sets with
    | activate row r isNamespace fits shown =>
      exact b.name_mem_of_mem_rows c r isNamespace (List.mem_of_getElem? shown)

/-- Told that a namespace is gone, a browser is within another one, or within none. -/
theorem IsCurrent.notice {b : Browser} {c : Cluster} (current : b.IsCurrent c)
    (r : Kind.namespaces.Record) : (b.notice (c.without r) r.name).IsCurrent (c.without r) := by
  intro home within
  rw [scope_notice] at within
  split at within
  · cases within
  · rename_i other
    obtain ⟨owner, held, rfl⟩ := (c.mem_namespaceNames home).mp (current home within)
    have differs : owner.name ≠ r.name := fun same => other (same ▸ within)
    refine (Cluster.mem_namespaceNames _ _).mpr ⟨owner, ?_, rfl⟩
    rw [(c.losesNamespace_without r).named, List.mem_filter]
    exact ⟨held, by simpa using differs⟩

theorem IsCurrent.lose {b : Browser} {c : Cluster} (current : b.IsCurrent c) {k : Kind}
    (r : k.Record) (namespaced : k ≠ .namespaces) : b.IsCurrent (c.without r) := by
  intro home within
  obtain ⟨at_home, lies⟩ := Cluster.exists_home k r namespaced
  have kept := (c.losesNamed_without k r at_home namespaced lies).others _ (Ne.symm namespaced)
  rw [Cluster.mem_namespaceNames, kept, ← Cluster.mem_namespaceNames]
  exact current home within

end Browser

namespace Desk

/-- The operation gives the browser at a place another scope, or the same one anew: an action of its
own user does, or the deletion of the namespace that is its scope. -/
inductive Rescopes (d : Desk) (i : Nat) (b : Browser) : Operation → Option String → Prop
  | acted {a : Browser.Action} {scope : Option String}
    (sets : b.SetsScope d.store.cluster a scope) : Rescopes d i b (.act i a) scope
  | deserted (op : Operation) (r : Kind.namespaces.Record)
    (deletes : d.deleted? op = some ⟨.namespaces, r⟩) (within : b.scope = some r.name) :
    Rescopes d i b op none

theorem Change.isCurrent {d : Desk} {i : Nat} {b b' : Browser} {op : Operation} {c : Cluster}
    (change : d.Change i b op b' c) (told : d.Tells b) (current : b.IsCurrent d.store.cluster) :
    b'.IsCurrent c := by
  cases change with
  | none _ keeps => exact current
  | acted a => exact current.act a
  | lost _ r deletes held namespaced => exact current.lose r namespaced
  | noticed _ r deletes held _ => exact current.notice r
  | missed _ r deletes held untold => exact absurd told untold

theorem Change.scope_eq {d : Desk} {i : Nat} {b b' : Browser} {op : Operation} {c : Cluster}
    (change : d.Change i b op b' c) (told : d.Tells b) {scope : Option String}
    (rescopes : d.Rescopes i b op scope) : b'.scope = scope := by
  cases rescopes with
  | acted sets =>
    cases change with
    | none _ keeps foreign => exact absurd rfl (foreign _)
    | acted a => exact sets.scope_act
    | lost _ r deletes held namespaced => cases deletes
    | noticed _ r deletes held _ => cases deletes
    | missed _ r deletes held untold => cases deletes
  | deserted _ r gone within =>
    cases change with
    | none _ keeps foreign =>
      rw [gone] at keeps
      cases keeps
    | acted a => cases gone
    | lost _ r' deletes held namespaced =>
      cases gone.symm.trans deletes
      exact absurd rfl namespaced
    | noticed _ r' deletes held _ =>
      cases gone.symm.trans deletes
      rw [Browser.scope_notice, if_pos within]
    | missed _ r' deletes held untold => exact absurd told untold

theorem Change.scope_kept {d : Desk} {i : Nat} {b b' : Browser} {op : Operation} {c : Cluster}
    (change : d.Change i b op b' c) (keeps : ∀ scope, ¬ d.Rescopes i b op scope) :
    b'.scope = b.scope := by
  cases change with
  | none => rfl
  | acted a =>
    rcases b.scope_act d.store.cluster a with kept | ⟨scope, sets⟩
    · exact kept
    · exact absurd (.acted sets) (keeps scope)
  | lost => rfl
  | noticed _ r deletes held told =>
    rw [Browser.scope_notice]
    exact if_neg fun within => keeps _ (.deserted op r deletes within)
  | missed => rfl

theorem rescopes_of_deletion (d : Desk) (i : Nat) (b : Browser) (op : Operation)
    (t : (k : Kind) × k.Record) (deletes : d.deleted? op = some t) (scope : Option String)
    (rescopes : d.Rescopes i b op scope) :
    ∃ r : Kind.namespaces.Record, t = ⟨.namespaces, r⟩ ∧ b.scope = some r.name := by
  cases rescopes with
  | acted => cases deletes
  | deserted _ r gone within =>
    cases deletes.symm.trans gone
    exact ⟨r, rfl, within⟩

theorem run_isCurrent (d : Desk) (ops : List Operation) (fresh : d.IsFresh) (i : Nat)
    (unclosed : ¬ d.WasClosed ops i) (b : Browser) (present : (d.run ops).browsers[i]? = some b) :
    b.IsCurrent (d.run ops).store.cluster := by
  refine d.run_preserves (P := fun d b => b.IsCurrent d.store.cluster) ops fresh i ?_ ?_ b present
  · intro d home within
    cases within
  · intro past op within b b' before after current
    have stillOpen : ¬ d.WasClosed past i := fun closed =>
      unclosed (d.wasClosed_of_prefix past ops i ((List.prefix_append _ _).trans within) closed)
    obtain ⟨told, change⟩ := d.run_change past fresh op i stillOpen b b' before after
    exact change.isCurrent told current

/-- At every moment of a run, a browser that was not closed is within no namespace or within one that
the cluster has. The next operation changes its scope only where its own user activates a namespace or
clears, or where the namespace that is its scope is deleted; any other deletion keeps it. -/
theorem scopes_stay_current (d : Desk) (fresh : d.IsFresh) (ops : List Operation) (i : Nat)
    (b : Browser) (present : (d.run ops).browsers[i]? = some b) (unclosed : ¬ d.WasClosed ops i) :
    (b.scope = none ∨
      ∃ r ∈ (d.run ops).store.cluster.records .namespaces, b.scope = some r.name) ∧
    ∀ op : Operation, ∃ b', ((d.run ops).perform op).browsers[i]? = some b' ∧
      (∀ scope, (d.run ops).Rescopes i b op scope → b'.scope = scope) ∧
      ((∀ scope, ¬ (d.run ops).Rescopes i b op scope) → b'.scope = b.scope) ∧
      ∀ (k : Kind) (r : k.Record), (d.run ops).deleted? op = some ⟨k, r⟩ →
        b'.scope = if k = .namespaces ∧ b.scope = some r.name then none else b.scope := by
  have attended := d.run_isAttended ops fresh.isAttended
  have told := d.run_tells ops fresh i unclosed b present
  constructor
  · have current := d.run_isCurrent ops fresh i unclosed b present
    cases scope : b.scope with
    | none => exact Or.inl rfl
    | some home =>
      obtain ⟨r, held, named⟩ := (Cluster.mem_namespaceNames _ home).mp (current home scope)
      exact Or.inr ⟨r, held, by rw [named]⟩
  · intro op
    obtain ⟨b', after, change⟩ := perform_change _ op i b attended present
    refine ⟨b', after, fun scope => change.scope_eq told, change.scope_kept, ?_⟩
    intro k r deletes
    split
    · rename_i deserted
      obtain ⟨isNamespace, within⟩ := deserted
      subst isNamespace
      exact change.scope_eq told (.deserted op r deletes within)
    · rename_i spared
      refine change.scope_kept fun scope rescopes => spared ?_
      obtain ⟨r', same, within⟩ := rescopes_of_deletion _ i b op _ deletes scope rescopes
      cases same
      exact ⟨rfl, within⟩

/-- Two browsers go to `blue` and to `green`, a third is closed. When `blue` is deleted from the
console, the first is within no namespace, and a deletion in `blue` before that changed nothing. -/
theorem scopes_stay_current_blue :
    let ops : List Operation := [.openBrowser, .openBrowser, .openBrowser, .act 0 (.activate 0),
      .act 1 (.activate 1), .close 2, .line "kubectl delete deploy api -n blue"]
    let deletion : Operation := .line "kubectl delete ns blue"
    let b : Browser := { kind := .pods, scope := some "blue", handle := 2 }
    crowdedDesk.IsFresh ∧ (crowdedDesk.run ops).browsers[0]? = some b ∧
    ¬ crowdedDesk.WasClosed ops 0 ∧ "blue" ∈ (crowdedDesk.run ops).store.cluster.namespaceNames ∧
    ∃ b', ((crowdedDesk.run ops).perform deletion).browsers[0]? = some b' ∧ b'.scope = none := by
  intro ops deletion b
  have present : (crowdedDesk.run ops).browsers[0]? = some b := by decide +kernel
  have unclosed := crowdedDesk.not_wasClosed_of_not_mem ops 0 (by decide)
  obtain ⟨current, changes⟩ := scopes_stay_current crowdedDesk crowdedDesk_isFresh ops 0 b present
    unclosed
  obtain ⟨b', after, _, _, deserted⟩ := changes deletion
  refine ⟨crowdedDesk_isFresh, present, unclosed, ?_, b', after, ?_⟩
  · rcases current with nowhere | ⟨r, held, within⟩
    · cases nowhere
    · exact (Cluster.mem_namespaceNames _ _).mpr ⟨r, held, (Option.some.inj within).symm⟩
  · exact deserted .namespaces ⟨"blue", "Active", "9d"⟩ rfl

end Desk

end ClusterInspector
