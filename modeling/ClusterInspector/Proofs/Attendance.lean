import ClusterInspector.Proofs.Forward
import ClusterInspector.Proofs.Notices
import Mathlib.Data.List.Induction

/-!
# Who is told

A browser is registered with the store from the moment it is opened until it is closed itself, and
no longer. As long as it is registered it is told of every namespace that is deleted. Hence an
operation changes an open browser in two ways only: by its own user's action, and by such a notice.
-/
namespace ClusterInspector

namespace Registry

variable {α : Type} [DecidableEq α] (cancels : α → Option Handle)

/-- A registration that no watcher of the round cancels outlives the round. -/
theorem mem_tell (r : Registry α) (watchers : List α) (x : α) (registered : x ∈ r.active)
    (spared : ∀ a ∈ watchers, ∀ h, cancels a = some h → r.issued[h]? ≠ some x) :
    x ∈ (tell cancels r watchers).registry.active := by
  rw [← List.count_pos_iff, count_tell cancels r watchers x spared]
  exact List.count_pos_iff.mpr registered

end Registry

namespace Desk

/-- The store tells the browser of deleted namespaces. -/
def Tells (d : Desk) (b : Browser) : Prop := .browser b.handle ∈ d.store.watchers.active

/-- No browser has been opened yet, and no watcher of the store raises a fault. -/
structure IsFresh (d : Desk) : Prop where
  browsers : d.browsers = []
  observers : ∀ w ∈ d.store.watchers.issued, ∃ o, w = .observer o
  quiet : d.store.IsQuiet

theorem crowdedDesk_isFresh : crowdedDesk.IsFresh where
  browsers := rfl
  observers := by
    intro w issued
    have named : w = .observer { id := "first" } ∨
        w = .observer { id := "second", cancels := some 0 } := by
      simpa [crowdedDesk, crowded] using issued
    rcases named with rfl | rfl
    · exact ⟨_, rfl⟩
    · exact ⟨_, rfl⟩
  quiet := crowded_isQuiet

/-- Each browser has a registration of its own, which no watcher cancels. -/
structure IsAttended (d : Desk) : Prop where
  issued : ∀ b ∈ d.browsers, d.store.watchers.issued[b.handle]? = some (.browser b.handle)
  distinct : (d.browsers.map (·.handle)).Nodup
  harmless : ∀ w ∈ d.store.watchers.active, ∀ h, w.cancels = some h →
    ∃ o, d.store.watchers.issued[h]? = some (.observer o)

theorem IsFresh.isAttended {d : Desk} (fresh : d.IsFresh) : d.IsAttended where
  issued := by
    rw [fresh.browsers]
    nofun
  distinct := by
    rw [fresh.browsers]
    exact List.nodup_nil
  harmless := by
    intro w active h cancels
    have issued := fresh.quiet w active h cancels
    obtain ⟨o, same⟩ := fresh.observers _ (List.getElem_mem issued)
    exact ⟨o, by rw [List.getElem?_eq_getElem issued, same]⟩

theorem IsAttended.isQuiet {d : Desk} (attended : d.IsAttended) : d.store.IsQuiet := by
  intro w active h cancels
  obtain ⟨o, issued⟩ := attended.harmless w active h cancels
  exact (List.getElem?_eq_some_iff.mp issued).1

/-- A registered browser that no watcher cancels is registered after the round too. -/
theorem IsAttended.tells_announce {d : Desk} (attended : d.IsAttended) (b : Browser)
    (told : d.Tells b) :
    .browser b.handle ∈ (d.store.watchers.announce NamespaceWatcher.cancels).registry.active := by
  refine Registry.mem_tell _ _ _ _ told ?_
  intro w active h cancels
  obtain ⟨o, issued⟩ := attended.harmless w active h cancels
  rw [issued]
  nofun

theorem IsAttended.announce {d : Desk} (attended : d.IsAttended) (c : Cluster) (f : Browser → Browser)
    (handles : ∀ b, (f b).handle = b.handle) :
    IsAttended { d with
      store := ⟨c, (d.store.watchers.announce NamespaceWatcher.cancels).registry⟩
      browsers := d.browsers.map f } := by
  obtain ⟨active, issued⟩ := Registry.tell_registry NamespaceWatcher.cancels d.store.watchers
    d.store.watchers.active
  constructor
  · intro b member
    obtain ⟨b, held, rfl⟩ := List.mem_map.mp member
    rw [handles, Registry.announce, issued]
    exact attended.issued b held
  · rw [List.map_map, show (fun b : Browser => b.handle) ∘ f = (·.handle) from funext handles]
    exact attended.distinct
  · intro w member h cancels
    rw [Registry.announce, issued]
    exact attended.harmless w (active.subset member) h cancels

theorem openBrowser_eq (d : Desk) :
    d.openBrowser = { d with
      store.watchers := (d.store.watchers.register (.browser d.store.watchers.issued.length)).1
      browsers := d.browsers ++ [{ handle := d.store.watchers.issued.length }] } := rfl

theorem IsAttended.close_eq {d : Desk} (attended : d.IsAttended) (i : Nat) (b : Browser)
    (present : d.browsers[i]? = some b) :
    d.close i = { d with
      store.watchers.active := d.store.watchers.active.erase (.browser b.handle) } := by
  have issued := attended.issued b (List.mem_of_getElem? present)
  simp only [close, present, Browser.close, Store.unwatch, Registry.cancel?, issued, Option.map_some]

theorem IsAttended.openBrowser {d : Desk} (attended : d.IsAttended) : d.openBrowser.IsAttended := by
  have fits : ∀ {h : Handle} {w : NamespaceWatcher}, d.store.watchers.issued[h]? = some w →
      (d.store.watchers.issued ++ [.browser d.store.watchers.issued.length])[h]? = some w := by
    intro h w issued
    obtain ⟨bound, _⟩ := List.getElem?_eq_some_iff.mp issued
    rw [List.getElem?_append_left bound, issued]
  rw [openBrowser_eq]
  constructor
  · intro b member
    rcases List.mem_append.mp member with old | new
    · exact fits (attended.issued b old)
    · rw [List.mem_singleton.mp new]
      exact List.getElem?_concat_length
  · rw [List.map_append, List.map_singleton, List.nodup_append]
    refine ⟨attended.distinct, List.pairwise_singleton _ _, ?_⟩
    -- a handle that a browser has was issued before
    intro h member h' new
    obtain ⟨b, held, rfl⟩ := List.mem_map.mp member
    obtain ⟨bound, _⟩ := List.getElem?_eq_some_iff.mp (attended.issued b held)
    rw [List.mem_singleton.mp new]
    exact Nat.ne_of_lt bound
  · intro w member h cancels
    rcases List.mem_append.mp member with old | new
    · obtain ⟨o, issued⟩ := attended.harmless w old h cancels
      exact ⟨o, fits issued⟩
    · rw [List.mem_singleton.mp new] at cancels
      cases cancels

theorem IsAttended.close {d : Desk} (attended : d.IsAttended) (i : Nat) : (d.close i).IsAttended := by
  cases present : d.browsers[i]? with
  | none =>
    simp only [Desk.close, present]
    exact attended
  | some b =>
    rw [attended.close_eq i b present]
    exact ⟨attended.issued, attended.distinct, fun w member =>
      attended.harmless w (List.mem_of_mem_erase member)⟩

theorem IsAttended.act {d : Desk} (attended : d.IsAttended) (i : Nat) (a : Browser.Action) :
    (d.act i a).IsAttended := by
  have handles : (d.act i a).browsers.map (·.handle) = d.browsers.map (·.handle) := by
    refine List.ext_getElem? fun j => ?_
    simp only [Desk.act, List.getElem?_map, List.getElem?_modify]
    split <;> simp [Function.comp_def]
  constructor
  · intro b member
    have named : b.handle ∈ d.browsers.map (·.handle) := by
      rw [← handles]
      exact List.mem_map_of_mem member
    obtain ⟨b', held, same⟩ := List.mem_map.mp named
    rw [← same]
    exact attended.issued b' held
  · rw [handles]
    exact attended.distinct
  · exact attended.harmless

theorem perform_isAttended (d : Desk) (op : Operation) (attended : d.IsAttended) :
    (d.perform op).IsAttended := by
  rcases d.perform_cases op with
    ⟨k, r, _, found, after⟩ | ⟨_, kept | rfl | ⟨i, a, rfl⟩ | ⟨i, rfl⟩⟩
  · rw [after]
    by_cases kind : k = .namespaces
    · subst kind
      rw [d.delete_namespace r found attended.isQuiet]
      refine attended.announce _ _ fun b => ?_
      split <;> simp
    · rw [d.delete_namespaced k r found kind]
      exact ⟨attended.issued, attended.distinct, attended.harmless⟩
  · rw [kept]
    exact attended
  · exact attended.openBrowser
  · exact attended.act i a
  · exact attended.close i

theorem run_isAttended (d : Desk) (ops : List Operation) (attended : d.IsAttended) :
    (d.run ops).IsAttended := by
  induction ops generalizing d with
  | nil => exact attended
  | cons op rest ih => exact ih _ (d.perform_isAttended op attended)

/-- What an operation does to a browser and to the cluster that it looks at. -/
inductive Change (d : Desk) (i : Nat) (b : Browser) : Operation → Browser → Cluster → Prop
  | none (op : Operation) (keeps : d.deleted? op = none) (foreign : ∀ a, op ≠ .act i a) :
    Change d i b op b d.store.cluster
  | acted (a : Browser.Action) : Change d i b (.act i a) (b.act d.store.cluster a) d.store.cluster
  | lost (op : Operation) {k : Kind} (r : k.Record) (deletes : d.deleted? op = some ⟨k, r⟩)
    (held : r ∈ d.store.cluster.records k) (namespaced : k ≠ .namespaces) :
    Change d i b op b (d.store.cluster.without r)
  | noticed (op : Operation) (r : Kind.namespaces.Record)
    (deletes : d.deleted? op = some ⟨.namespaces, r⟩)
    (held : r ∈ d.store.cluster.records .namespaces) (told : d.Tells b) :
    Change d i b op (b.notice (d.store.cluster.without r) r.name) (d.store.cluster.without r)
  | missed (op : Operation) (r : Kind.namespaces.Record)
    (deletes : d.deleted? op = some ⟨.namespaces, r⟩)
    (held : r ∈ d.store.cluster.records .namespaces) (untold : ¬ d.Tells b) :
    Change d i b op b (d.store.cluster.without r)

theorem perform_change (d : Desk) (op : Operation) (i : Nat) (b : Browser)
    (attended : d.IsAttended) (present : d.browsers[i]? = some b) :
    ∃ b', (d.perform op).browsers[i]? = some b' ∧
      d.Change i b op b' (d.perform op).store.cluster := by
  by_cases own : ∃ a, op = .act i a
  · obtain ⟨a, rfl⟩ := own
    refine ⟨_, ?_, .acted a⟩
    simp only [perform, act, List.getElem?_modify_eq, present, Option.map_eq_map, Option.map_some]
  have foreign : ∀ a, op ≠ .act i a := fun a same => own ⟨a, same⟩
  have bound := (List.getElem?_eq_some_iff.mp present).1
  rcases d.perform_cases op with
    ⟨k, r, deletes, found, after⟩ | ⟨keeps, kept | rfl | ⟨j, a, rfl⟩ | ⟨j, rfl⟩⟩
  · have held := (Cluster.find?_mem _ _ _ _ _ found).1
    rw [after]
    by_cases kind : k = .namespaces
    · subst kind
      rw [d.delete_namespace r found attended.isQuiet]
      refine ⟨_, by rw [List.getElem?_map, present, Option.map_some], ?_⟩
      split
      · rename_i told
        exact .noticed op r deletes held told
      · rename_i untold
        exact .missed op r deletes held untold
    · rw [d.delete_namespaced k r found kind]
      exact ⟨b, present, .lost op r deletes held kind⟩
  · rw [kept]
    exact ⟨b, present, .none op keeps foreign⟩
  · refine ⟨b, ?_, .none _ keeps foreign⟩
    rw [perform, openBrowser_eq, List.getElem?_append_left bound, present]
  · have other : j ≠ i := by
      rintro rfl
      exact foreign a rfl
    refine ⟨b, ?_, .none _ keeps foreign⟩
    simp only [perform, act, List.getElem?_modify_ne _ _ other, present]
  · cases closed : d.browsers[j]? with
    | none =>
      simp only [perform, close, closed]
      exact ⟨b, present, .none _ keeps foreign⟩
    | some b' =>
      rw [perform, attended.close_eq j b' closed]
      exact ⟨b, present, .none _ keeps foreign⟩

theorem Change.handle {d : Desk} {i : Nat} {b b' : Browser} {op : Operation} {c : Cluster}
    (change : d.Change i b op b' c) : b'.handle = b.handle := by
  cases change <;> simp

/-- Only a browser's own closing ends its registration. -/
theorem perform_tells (d : Desk) (op : Operation) (i : Nat) (b : Browser) (attended : d.IsAttended)
    (present : d.browsers[i]? = some b) (told : d.Tells b) (unclosed : op ≠ .close i) :
    (d.perform op).Tells b := by
  rcases d.perform_cases op with
    ⟨k, r, _, found, after⟩ | ⟨_, kept | rfl | ⟨j, a, rfl⟩ | ⟨j, rfl⟩⟩
  · rw [after]
    by_cases kind : k = .namespaces
    · subst kind
      rw [d.delete_namespace r found attended.isQuiet]
      exact attended.tells_announce b told
    · rw [d.delete_namespaced k r found kind]
      exact told
  · rw [kept]
    exact told
  · exact List.mem_append_left _ told
  · exact told
  · cases closed : d.browsers[j]? with
    | none =>
      simp only [perform, close, closed]
      exact told
    | some b' =>
      rw [perform, attended.close_eq j b' closed]
      refine (List.mem_erase_of_ne ?_).mpr told
      intro same
      have sameHandle : b.handle = b'.handle := NamespaceWatcher.browser.inj same
      have sameIndex : i = j := by
        have bound := (List.getElem?_eq_some_iff.mp present).1
        refine (List.getElem?_inj (by simpa using bound) attended.distinct).mp ?_
        simp only [List.getElem?_map, present, closed, Option.map_some, sameHandle]
      exact unclosed (by rw [sameIndex])

theorem run_concat (d : Desk) (ops : List Operation) (op : Operation) :
    d.run (ops ++ [op]) = (d.run ops).perform op :=
  d.run_append ops [op]

/-- A browser appears only by being opened. -/
theorem perform_opens (d : Desk) (op : Operation) (i : Nat) (b : Browser)
    (present : (d.perform op).browsers[i]? = some b) (absent : d.browsers.length ≤ i) :
    op = .openBrowser ∧ b = { handle := d.store.watchers.issued.length } := by
  have missing : ∀ {browsers : List Browser}, browsers.length = d.browsers.length →
      browsers[i]? ≠ some b := by
    intro browsers same found
    have bound := (List.getElem?_eq_some_iff.mp found).1
    omega
  rcases d.perform_cases op with
    ⟨k, r, _, found, after⟩ | ⟨_, kept | rfl | ⟨j, a, rfl⟩ | ⟨j, rfl⟩⟩
  · rw [after] at present
    exact absurd present (missing (by simp [delete, settle]))
  · rw [kept] at present
    exact absurd present (missing rfl)
  · rw [perform, openBrowser_eq, List.getElem?_append_right absent] at present
    exact ⟨rfl, List.mem_singleton.mp (List.mem_of_getElem? present)⟩
  · exact absurd present (missing (by simp [perform, act]))
  · refine absurd present (missing ?_)
    rw [perform, close]
    split <;> rfl

/-- What holds of every browser as it is opened, and is kept by each operation of a run, holds along
the run. -/
theorem run_preserves {P : Desk → Browser → Prop} (d : Desk) (ops : List Operation)
    (fresh : d.IsFresh) (i : Nat)
    (opens : ∀ d : Desk, P d.openBrowser { handle := d.store.watchers.issued.length })
    (keeps : ∀ past op, past ++ [op] <+: ops → ∀ b b', (d.run past).browsers[i]? = some b →
      ((d.run past).perform op).browsers[i]? = some b' → P (d.run past) b →
      P ((d.run past).perform op) b')
    (b : Browser) (present : (d.run ops).browsers[i]? = some b) : P (d.run ops) b := by
  induction ops using List.reverseRecOn generalizing b with
  | nil =>
    rw [run, List.foldl_nil, fresh.browsers] at present
    cases present
  | append_singleton ops op ih =>
    have before := ih fun past op' within =>
      keeps past op' (within.trans (List.prefix_append ops [op]))
    rw [run_concat] at present ⊢
    by_cases old : i < (d.run ops).browsers.length
    · have present₀ := List.getElem?_eq_getElem old
      exact keeps ops op (List.prefix_refl _) _ b present₀ present (before _ present₀)
    · obtain ⟨rfl, rfl⟩ := perform_opens _ op i b present (Nat.le_of_not_lt old)
      exact opens (d.run ops)

/-- At some point of the run the browser was there and was closed. -/
def WasClosed (d : Desk) (ops : List Operation) (i : Nat) : Prop :=
  ∃ past, past ++ [.close i] <+: ops ∧ i < (d.run past).browsers.length

theorem wasClosed_of_prefix (d : Desk) (past ops : List Operation) (i : Nat) (within : past <+: ops)
    (closed : d.WasClosed past i) : d.WasClosed ops i := by
  obtain ⟨before, closing, bound⟩ := closed
  exact ⟨before, closing.trans within, bound⟩

theorem not_wasClosed_of_not_mem (d : Desk) (ops : List Operation) (i : Nat)
    (never : .close i ∉ ops) : ¬ d.WasClosed ops i := by
  rintro ⟨past, closing, _⟩
  exact never (closing.subset (by simp))

/-- Along a run a browser is told of deleted namespaces from its opening until its closing. -/
theorem run_tells (d : Desk) (ops : List Operation) (fresh : d.IsFresh) (i : Nat)
    (unclosed : ¬ d.WasClosed ops i) (b : Browser) (present : (d.run ops).browsers[i]? = some b) :
    (d.run ops).Tells b := by
  refine d.run_preserves (P := Tells) ops fresh i ?_ ?_ b present
  · intro d
    exact List.mem_append_right _ (List.mem_singleton_self _)
  · intro past op within b b' before after told
    have attended := d.run_isAttended past fresh.isAttended
    obtain ⟨b'', present, change⟩ := perform_change _ op i b attended before
    cases after.symm.trans present
    rw [Tells, change.handle]
    refine perform_tells _ op i b attended before told ?_
    rintro rfl
    exact unclosed ⟨past, within, (List.getElem?_eq_some_iff.mp before).1⟩

/-- What the next operation does to a browser that was not closed, and that is told. -/
theorem run_change (d : Desk) (ops : List Operation) (fresh : d.IsFresh) (op : Operation) (i : Nat)
    (unclosed : ¬ d.WasClosed ops i) (b b' : Browser) (before : (d.run ops).browsers[i]? = some b)
    (after : ((d.run ops).perform op).browsers[i]? = some b') :
    (d.run ops).Tells b ∧
      (d.run ops).Change i b op b' ((d.run ops).perform op).store.cluster := by
  have attended := d.run_isAttended ops fresh.isAttended
  obtain ⟨b'', found, change⟩ := perform_change _ op i b attended before
  cases after.symm.trans found
  exact ⟨d.run_tells ops fresh i unclosed b before, change⟩

end Desk

end ClusterInspector
