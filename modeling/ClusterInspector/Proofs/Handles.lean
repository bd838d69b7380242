import ClusterInspector.Proofs.Notices
import ClusterInspector.Proofs.Limits
import Mathlib.Data.List.Infix

/-!
# Handles and registrations

A handle stands for one registration, but cancelling it drops the oldest registration of its watcher.
Main statements: when the two come to the same, and that they do where nobody is registered twice. Then
each round of notices tells those whose handles were not cancelled, in order of registration.
-/
namespace ClusterInspector

namespace Registry

/-- What is done to registrations between rounds of notices. -/
inductive Operation (α : Type) where
  | register (a : α)
  | cancel (h : Handle)
  deriving DecidableEq, Repr

variable {α : Type}

/-- Who was registered, in order; the handle of each is its place. -/
def registered : List (Operation α) → List α
  | [] => []
  | .register a :: rest => a :: registered rest
  | .cancel _ :: rest => registered rest

theorem registered_append (ops ops' : List (Operation α)) :
    registered (ops ++ ops') = registered ops ++ registered ops' := by
  induction ops with
  | nil => rfl
  | cons op rest ih =>
    cases op with
    | register a => exact congrArg (a :: ·) ih
    | cancel h => exact ih

variable [DecidableEq α]

/-- The registrations whose own handle is not cancelled afterwards, where the next handle to be issued is
given. -/
def standingFrom (next : Nat) : List (Operation α) → List (Nat × α)
  | [] => []
  | .register a :: rest =>
    if .cancel next ∈ rest then standingFrom (next + 1) rest
    else (next, a) :: standingFrom (next + 1) rest
  | .cancel _ :: rest => standingFrom next rest

/-- The registrations that stand after the operations, each with its handle. -/
def standing (ops : List (Operation α)) : List (Nat × α) := standingFrom 0 ops

/-- A standing registration is of the one that was registered in its place. -/
theorem standingFrom_place (next : Nat) (ops : List (Operation α)) (p : Nat × α)
    (member : p ∈ standingFrom next ops) :
    next ≤ p.1 ∧ (registered ops)[p.1 - next]? = some p.2 := by
  induction ops generalizing next with
  | nil => cases member
  | cons op rest ih =>
    cases op with
    | cancel h => exact ih next member
    | register a =>
      have later : p ∈ standingFrom (next + 1) rest →
          next ≤ p.1 ∧ (registered (.register a :: rest))[p.1 - next]? = some p.2 := by
        intro among
        obtain ⟨bound, place⟩ := ih (next + 1) among
        have shift : p.1 - next = p.1 - (next + 1) + 1 := by omega
        refine ⟨by omega, ?_⟩
        rw [shift]
        exact place
      rw [standingFrom] at member
      split at member
      · exact later member
      · rcases List.mem_cons.mp member with rfl | among
        · exact ⟨Nat.le_refl _, by simp [registered]⟩
        · exact later among

theorem standingFrom_sorted (next : Nat) (ops : List (Operation α)) :
    (standingFrom next ops).Pairwise fun p q => p.1 < q.1 := by
  induction ops generalizing next with
  | nil => exact .nil
  | cons op rest ih =>
    cases op with
    | cancel h => exact ih next
    | register a =>
      rw [standingFrom]
      split
      · exact ih (next + 1)
      · refine .cons ?_ (ih (next + 1))
        intro q member
        exact (standingFrom_place (next + 1) rest q member).1

theorem standingFrom_concat_register (next : Nat) (ops : List (Operation α)) (a : α) :
    standingFrom next (ops ++ [.register a]) =
      standingFrom next ops ++ [(next + (registered ops).length, a)] := by
  induction ops generalizing next with
  | nil => simp [standingFrom, registered]
  | cons op rest ih =>
    cases op with
    | cancel h => exact ih next
    | register b =>
      have count : next + 1 + (registered rest).length =
          next + (registered (.register b :: rest)).length := by
        rw [registered, List.length_cons]
        omega
      have later : Operation.cancel next ∈ rest ++ [.register a] ↔ .cancel next ∈ rest := by simp
      simp only [List.cons_append, standingFrom, ih (next + 1), count, later]
      split <;> rfl

theorem standingFrom_concat_cancel (next : Nat) (ops : List (Operation α)) (h : Nat) :
    standingFrom next (ops ++ [.cancel h]) = (standingFrom next ops).filter (·.1 ≠ h) := by
  induction ops generalizing next with
  | nil => rfl
  | cons op rest ih =>
    cases op with
    | cancel g => exact ih next
    | register b =>
      have now : Operation.cancel next ∈ rest ++ [.cancel h] ↔ .cancel next ∈ rest ∨ next = h := by
        simp
      simp only [List.cons_append, standingFrom, ih (next + 1), now]
      by_cases gone : .cancel next ∈ rest
      · simp [gone]
      · by_cases own : next = h
        · subst own
          simp [gone]
        · simp [gone, own]

/-- A handle that was never issued cancels nothing. -/
def perform (r : Registry α) : Operation α → Registry α
  | .register a => (r.register a).1
  | .cancel h => (r.cancel? h).getD r

def run (r : Registry α) (ops : List (Operation α)) : Registry α := ops.foldl perform r

theorem run_concat (r : Registry α) (ops : List (Operation α)) (op : Operation α) :
    r.run (ops ++ [op]) = (r.run ops).perform op := by
  rw [run, List.foldl_append]
  rfl

theorem issued_run (r : Registry α) (ops : List (Operation α)) :
    (r.run ops).issued = r.issued ++ registered ops := by
  induction ops generalizing r with
  | nil => exact (List.append_nil _).symm
  | cons op rest ih =>
    refine (ih (r.perform op)).trans ?_
    cases op with
    | register a => exact List.append_assoc r.issued [a] (registered rest)
    | cancel h =>
      rw [perform, registered]
      cases removed : r.cancel? h with
      | none => rfl
      | some r' => exact congrArg (· ++ _) (issued_cancel? removed)

omit [DecidableEq α] in
/-- If one registration is dropped from the front and should be dropped at its handle, then all up to that
handle have to be of the same watcher. -/
theorem map_eq_cons_filter_iff (l : List (Nat × α)) (h : Nat) (a : α)
    (sorted : l.Pairwise fun p q => p.1 < q.1) (own : ∀ p ∈ l, p.1 = h → p.2 = a) :
    l.map Prod.snd = a :: (l.filter (·.1 ≠ h)).map Prod.snd ↔
      (h, a) ∈ l ∧ ∀ p ∈ l, p.1 < h → p.2 = a := by
  induction l with
  | nil => simp
  | cons p rest ih =>
    obtain ⟨g, b⟩ := p
    obtain ⟨later, sorted⟩ := List.pairwise_cons.mp sorted
    have ih := ih sorted fun q member => own q (List.mem_cons_of_mem _ member)
    by_cases same : g = h
    · subst same
      have isOwn : b = a := own (g, b) List.mem_cons_self rfl
      subst isOwn
      have kept : rest.filter (·.1 ≠ g) = rest := by
        rw [List.filter_eq_self]
        intro q member
        exact decide_eq_true (Nat.ne_of_gt (later q member))
      refine iff_of_true ?_ ⟨List.mem_cons_self, ?_⟩
      · rw [List.filter_cons_of_neg (by simp), kept, List.map_cons]
      · intro q member less
        rcases List.mem_cons.mp member with rfl | among
        · rfl
        · exact absurd less (Nat.lt_asymm (later q among))
    · rw [List.filter_cons_of_pos (by simpa using same), List.map_cons, List.map_cons,
        List.cons_eq_cons]
      constructor
      · rintro ⟨rfl, rest_eq⟩
        obtain ⟨present, alike⟩ := ih.mp rest_eq
        refine ⟨List.mem_cons_of_mem _ present, ?_⟩
        intro q member less
        rcases List.mem_cons.mp member with rfl | among
        · rfl
        · exact alike q among less
      · rintro ⟨present, alike⟩
        have among : (h, a) ∈ rest := by
          rcases List.mem_cons.mp present with first | among
          · exact absurd (congrArg Prod.fst first).symm same
          · exact among
        have head : b = a := alike (g, b) List.mem_cons_self (later (h, a) among)
        subst head
        refine ⟨rfl, ih.mpr ⟨among, ?_⟩⟩
        intro q member less
        exact alike q (List.mem_cons_of_mem _ member) less

/-- The handle drops a registration that is not its own: its own is gone and another of its watcher
stands, or one of its watcher stands before it with one of somebody else in between. -/
def Misses (l : List (Nat × α)) (h : Nat) (a : α) : Prop :=
  ∃ g, (g, a) ∈ l ∧ ((h, a) ∉ l ∨ ∃ p ∈ l, g < p.1 ∧ p.1 < h ∧ p.2 ≠ a)

omit [DecidableEq α] in
theorem misses_cons_of_ne (l : List (Nat × α)) (g h : Nat) (a b : α) (later : ∀ p ∈ l, g < p.1)
    (other : b ≠ a) : Misses ((g, b) :: l) h a ↔ Misses l h a := by
  have among : ∀ i, (i, a) ∈ (g, b) :: l ↔ (i, a) ∈ l := by
    intro i
    rw [List.mem_cons, or_iff_right]
    intro same
    exact other (congrArg Prod.snd same).symm
  simp only [Misses, among]
  refine exists_congr fun i => and_congr_right fun present => or_congr_right ?_
  rw [List.exists_mem_cons_iff, or_iff_right]
  intro before
  exact Nat.lt_asymm (later _ present) before.1

/-- Dropping the oldest registration of a watcher is dropping the one of the handle, to all who listen,
unless the handle misses. -/
theorem erase_eq_filter_iff (l : List (Nat × α)) (h : Nat) (a : α)
    (sorted : l.Pairwise fun p q => p.1 < q.1) (own : ∀ p ∈ l, p.1 = h → p.2 = a) :
    (l.map Prod.snd).erase a = (l.filter (·.1 ≠ h)).map Prod.snd ↔ ¬ Misses l h a := by
  induction l with
  | nil => simp [Misses]
  | cons p rest ih =>
    obtain ⟨g, b⟩ := p
    obtain ⟨later, sortedRest⟩ := List.pairwise_cons.mp sorted
    have ownRest : ∀ q ∈ rest, q.1 = h → q.2 = a :=
      fun q member => own q (List.mem_cons_of_mem _ member)
    by_cases watcher : b = a
    · subst watcher
      have whole := map_eq_cons_filter_iff ((g, b) :: rest) h b sorted own
      rw [List.map_cons, List.cons_eq_cons, and_iff_right rfl] at whole
      rw [List.map_cons, List.erase_cons_head, whole]
      constructor
      · rintro ⟨present, alike⟩ ⟨i, _, gone | ⟨p, member, _, before, other⟩⟩
        · exact gone present
        · exact other (alike p member before)
      · intro hits
        -- the oldest registration of the watcher is the first of the list
        have first : ¬ ((h, b) ∉ (g, b) :: rest ∨
            ∃ p ∈ (g, b) :: rest, g < p.1 ∧ p.1 < h ∧ p.2 ≠ b) :=
          fun missed => hits ⟨g, List.mem_cons_self, missed⟩
        rw [not_or, not_not] at first
        obtain ⟨present, none_between⟩ := first
        refine ⟨present, ?_⟩
        intro p member before
        by_contra other
        rcases List.mem_cons.mp member with rfl | among
        · exact other rfl
        · exact none_between ⟨p, member, later p among, before, other⟩
    · have different : g ≠ h := fun same => watcher (own (g, b) List.mem_cons_self same)
      rw [misses_cons_of_ne rest g h a b later watcher, ← ih sortedRest ownRest,
        List.map_cons, List.erase_cons_tail (by simpa using watcher),
        List.filter_cons_of_pos (by simpa using different), List.map_cons, List.cons_eq_cons]
      exact and_iff_right rfl

theorem standing_concat_register (ops : List (Operation α)) (a : α) :
    standing (ops ++ [.register a]) = standing ops ++ [((registered ops).length, a)] := by
  rw [standing, standingFrom_concat_register, Nat.zero_add]
  rfl

theorem standing_concat_cancel (ops : List (Operation α)) (h : Nat) :
    standing (ops ++ [.cancel h]) = (standing ops).filter (·.1 ≠ h) :=
  standingFrom_concat_cancel 0 ops h

theorem standing_place (ops : List (Operation α)) (p : Nat × α) (member : p ∈ standing ops) :
    (registered ops)[p.1]? = some p.2 :=
  (standingFrom_place 0 ops p member).2

/-- After the operations the operation cancels a handle that misses. -/
def Strays (past : List (Operation α)) : Operation α → Prop
  | .register _ => False
  | .cancel h => ∃ a, (registered past)[h]? = some a ∧ Misses (standing past) h a

/-- Those that a round would tell are those of the standing registrations, in order of registration. -/
def IsFaithful (ops : List (Operation α)) : Prop :=
  (run {} ops).active = (standing ops).map Prod.snd

theorem issued_run_empty (ops : List (Operation α)) :
    (run {} ops : Registry α).issued = registered ops :=
  issued_run {} ops

theorem isFaithful_concat_iff (past : List (Operation α)) (op : Operation α) (before : IsFaithful past) :
    IsFaithful (past ++ [op]) ↔ ¬ Strays past op := by
  unfold IsFaithful
  rw [run_concat]
  cases op with
  | register a =>
    refine iff_of_true ?_ id
    rw [standing_concat_register, List.map_append]
    exact congrArg (· ++ [a]) before
  | cancel h =>
    have own : ∀ p ∈ standing past, p.1 = h → (registered past)[h]? = some p.2 := by
      rintro p member rfl
      exact standing_place past p member
    rw [standing_concat_cancel, perform, cancel?, issued_run_empty]
    cases place : (registered past)[h]? with
    | none =>
      have untouched : (standing past).filter (·.1 ≠ h) = standing past := by
        rw [List.filter_eq_self]
        intro p member
        refine decide_eq_true fun same => ?_
        rw [own p member same] at place
        cases place
      rw [untouched]
      refine iff_of_true before ?_
      rintro ⟨a, issued, _⟩
      rw [place] at issued
      cases issued
    | some a =>
      have owned : ∀ p ∈ standing past, p.1 = h → p.2 = a := by
        intro p member same
        exact Option.some.inj ((own p member same).symm.trans place)
      have drops := erase_eq_filter_iff (standing past) h a (standingFrom_sorted 0 past) owned
      have strays : Strays past (.cancel h) ↔ Misses (standing past) h a := by
        simp only [Strays, place, Option.some.injEq, exists_eq_left']
      rw [strays, ← drops, ← before]
      rfl

/-- No operation strays. -/
def Keeps (ops : List (Operation α)) : Prop :=
  ∀ past op, past ++ [op] <+: ops → ¬ Strays past op

theorem isFaithful_throughout_iff (ops : List (Operation α)) :
    (∀ past, past <+: ops → IsFaithful past) ↔ Keeps ops := by
  constructor
  · intro holds past op within
    have shorter := (List.prefix_append past [op]).trans within
    exact (isFaithful_concat_iff past op (holds past shorter)).mp (holds _ within)
  · intro keeps past
    induction past using List.reverseRecOn with
    | nil => exact fun _ => rfl
    | append_singleton past op ih =>
      intro within
      have shorter := (List.prefix_append past [op]).trans within
      exact (isFaithful_concat_iff past op (ih shorter)).mpr (keeps past op within)

/-- No handle misses where everyone is registered once. -/
theorem keeps_of_nodup (ops : List (Operation α)) (once : (registered ops).Nodup) : Keeps ops := by
  rintro past (a | h) within
  · exact id
  · rintro ⟨a, place, g, present, missed⟩
    obtain ⟨future, rfl⟩ := within
    rw [registered_append, registered_append] at once
    have oncePast := (List.nodup_append.mp (List.nodup_append.mp once).1).1
    have twin := standing_place past (g, a) present
    obtain ⟨bound, _⟩ := List.getElem?_eq_some_iff.mp twin
    have same : g = h := (List.getElem?_inj bound oncePast).mp (twin.trans place.symm)
    subst same
    rcases missed with gone | ⟨p, _, after, before, _⟩
    · exact gone present
    · omega

/-- Cancelling a handle once more changes nothing unless its watcher is registered still. -/
theorem run_concat_cancel_eq_iff (ops : List (Operation α)) (h : Nat) :
    (run {} (ops ++ [.cancel h]) : Registry α) = run {} ops ↔
      ∀ a, (registered ops)[h]? = some a → a ∉ (run {} ops).active := by
  have issued : (run {} ops).issued = registered ops := issued_run_empty ops
  rw [run_concat, perform, cancel?, issued]
  cases place : (registered ops)[h]? with
  | none =>
    refine iff_of_true rfl ?_
    intro a issued
    cases issued
  | some a =>
    have dropped : (run {} ops).active.erase a = (run {} ops).active ↔ a ∉ (run {} ops).active :=
      List.erase_eq_self_iff
    simp only [Option.some.injEq, forall_eq', ← dropped, ← issued]
    exact ⟨congrArg active, fun same => congrArg (Registry.mk · _) same⟩

/-- What the handles of a registry of someone's come to in the course of operations. Each stands for its
own registration all along exactly where no operation strays, and none does where nobody registers
twice. Cancelling one more changes nothing exactly where its watcher is not registered. -/
structure Governs {σ : Type} (watchers : σ → Registry α) (enlist : σ → Operation α → σ) (start : σ)
    (ops : List (Operation α)) : Prop where
  throughout : (∀ past, past <+: ops →
    (watchers (past.foldl enlist start)).active = (standing past).map Prod.snd) ↔ Keeps ops
  once : (registered ops).Nodup → Keeps ops
  again : ∀ h, watchers (enlist (ops.foldl enlist start) (.cancel h)) =
      watchers (ops.foldl enlist start) ↔
    ∀ a, (registered ops)[h]? = some a → a ∉ (watchers (ops.foldl enlist start)).active

theorem foldl_enlist {σ : Type} (watchers : σ → Registry α) (enlist : σ → Operation α → σ)
    (performs : ∀ t op, watchers (enlist t op) = (watchers t).perform op) (start : σ)
    (ops : List (Operation α)) : watchers (ops.foldl enlist start) = (watchers start).run ops := by
  induction ops generalizing start with
  | nil => rfl
  | cons op rest ih => rw [List.foldl_cons, ih, performs, run, run, List.foldl_cons]

theorem governs_of_performs {σ : Type} (watchers : σ → Registry α) (enlist : σ → Operation α → σ)
    (performs : ∀ t op, watchers (enlist t op) = (watchers t).perform op) (start : σ)
    (fresh : watchers start = {}) (ops : List (Operation α)) : Governs watchers enlist start ops where
  throughout := by
    simp only [foldl_enlist watchers enlist performs, fresh]
    exact isFaithful_throughout_iff ops
  once := keeps_of_nodup ops
  again := by
    intro h
    rw [performs, foldl_enlist watchers enlist performs, fresh, ← run_concat]
    exact run_concat_cancel_eq_iff ops h

end Registry

/-- Someone begins to watch the store, or cancels a handle. -/
def Store.enlist (s : Store) : Registry.Operation NamespaceWatcher → Store
  | .register who => (s.watch who).1
  | .cancel h => (s.unwatch h).toOption.getD s

/-- Someone begins to watch the log, or cancels a handle. -/
def Log.enlist (l : Log) : Registry.Operation EntryWatcher → Log
  | .register who => (l.watch who).1
  | .cancel h => (l.unwatch h).toOption.getD l

theorem Store.enlist_eq (s : Store) (op : Registry.Operation NamespaceWatcher) :
    s.enlist op = { s with watchers := s.watchers.perform op } := by
  cases op with
  | register who => rfl
  | cancel h =>
    simp only [enlist, unwatch, Registry.perform]
    cases s.watchers.cancel? h <;> rfl

theorem Log.enlist_eq (l : Log) (op : Registry.Operation EntryWatcher) :
    l.enlist op = { l with watchers := l.watchers.perform op } := by
  cases op with
  | register who => rfl
  | cancel h =>
    simp only [enlist, unwatch, Registry.perform]
    cases l.watchers.cancel? h <;> rfl

theorem Store.cluster_foldl_enlist (s : Store) (ops : List (Registry.Operation NamespaceWatcher)) :
    (ops.foldl enlist s).cluster = s.cluster := by
  induction ops generalizing s with
  | nil => rfl
  | cons op rest ih =>
    rw [List.foldl_cons, ih, enlist_eq]

theorem Store.governs (s : Store) (unwatched : s.watchers = {})
    (ops : List (Registry.Operation NamespaceWatcher)) :
    Registry.Governs Store.watchers enlist s ops :=
  Registry.governs_of_performs watchers enlist (fun t op => congrArg watchers (t.enlist_eq op)) s
    unwatched ops

theorem Log.governs (l : Log) (unwatched : l.watchers = {})
    (ops : List (Registry.Operation EntryWatcher)) :
    Registry.Governs Log.watchers enlist l ops :=
  Registry.governs_of_performs watchers enlist (fun t op => congrArg watchers (t.enlist_eq op)) l
    unwatched ops

theorem Store.events_delete_namespace (s : Store) (standing : List (Nat × NamespaceWatcher))
    (active : s.watchers.active = standing.map Prod.snd) (quiet : s.IsQuiet) (name : String)
    (scope : Option String) (t : Kind.namespaces.Record)
    (found : s.cluster.find? .namespaces name scope = some t) :
    (s.delete .namespaces name scope).events = .diagnostic (deleted s.cluster t) ::
      standing.map fun p => .namespaceGone p.2 t.name := by
  rw [s.delete_namespace name scope t found quiet]
  dsimp only
  rw [active, List.map_map]
  rfl

theorem Log.events_append (l : Log) (standing : List (Nat × EntryWatcher))
    (active : l.watchers.active = standing.map Prod.snd) (quiet : l.IsQuiet) (role : EntryRole)
    (content : String) :
    ∃ entry, (l.append role content).result = .ok entry ∧
      (l.append role content).events = standing.map fun p => .entryAdded p.2 entry := by
  have told := Registry.told_announce EntryWatcher.cancels l.watchers quiet
  have finished := Registry.unknown_announce EntryWatcher.cancels l.watchers quiet
  refine ⟨⟨role, content, l.clock.read.1.clockText⟩, ?_, ?_⟩
  · simp only [append, finished]
  · simp only [append, told, active, List.map_map]
    rfl

/-- The handles of a store and of a log stand for their own registrations exactly where no operation
strays; then a round tells the registrations whose handles were not cancelled, in their order. -/
theorem rounds_tell_standing_iff (s : Store) (l : Log)
    (ops : List (Registry.Operation NamespaceWatcher)) (ops' : List (Registry.Operation EntryWatcher))
    (unwatched : s.watchers = {}) (unheard : l.watchers = {}) :
    (Registry.Governs Store.watchers Store.enlist s ops ∧
      (Registry.Keeps ops → (ops.foldl Store.enlist s).IsQuiet → ∀ name scope t,
        s.cluster.find? .namespaces name scope = some t →
        ((ops.foldl Store.enlist s).delete .namespaces name scope).events =
          .diagnostic (Store.deleted s.cluster t) ::
            (Registry.standing ops).map fun p => .namespaceGone p.2 t.name)) ∧
    (Registry.Governs Log.watchers Log.enlist l ops' ∧
      (Registry.Keeps ops' → (ops'.foldl Log.enlist l).IsQuiet → ∀ role content, ∃ entry,
        ((ops'.foldl Log.enlist l).append role content).result = .ok entry ∧
        ((ops'.foldl Log.enlist l).append role content).events =
          (Registry.standing ops').map fun p => .entryAdded p.2 entry)) := by
  constructor
  · have governs := s.governs unwatched ops
    refine ⟨governs, ?_⟩
    intro keeps quiet name scope t found
    have active := governs.throughout.mpr keeps ops (List.prefix_refl ops)
    have cluster := s.cluster_foldl_enlist ops
    rw [← cluster] at found ⊢
    exact Store.events_delete_namespace _ _ active quiet name scope t found
  · have governs := l.governs unheard ops'
    refine ⟨governs, ?_⟩
    intro keeps quiet role content
    have active := governs.throughout.mpr keeps ops' (List.prefix_refl ops')
    exact Log.events_append _ _ active quiet role content

/-- Of a watcher registered before and after another one the first registration goes, and a round comes
to it last, in a store as in a log. -/
theorem rounds_tell_standing_iff_twice :
    let early : NamespaceWatcher := .observer ⟨"early", some 1⟩
    let late : NamespaceWatcher := .observer ⟨"late", none⟩
    let file : EntryWatcher := .observer ⟨"file", none⟩
    let s : Store := { cluster := crowded.cluster }
    let l : Log := { clock := { time := 0 } }
    let ops : List (Registry.Operation NamespaceWatcher) :=
      [.register early, .register late, .register early, .cancel 0]
    let ops' : List (Registry.Operation EntryWatcher) :=
      [.register .screen, .register file, .register .screen, .cancel 0]
    s.watchers = {} ∧ l.watchers = {} ∧ Registry.Keeps ops ∧ Registry.Keeps ops' ∧
    (ops.foldl Store.enlist s).IsQuiet ∧ (ops'.foldl Log.enlist l).IsQuiet ∧
    ((ops.foldl Store.enlist s).delete .namespaces "blue" none).events.tail =
      [.namespaceGone late "blue", .namespaceGone early "blue"] ∧
    ∃ entry, ((ops'.foldl Log.enlist l).append .output "ready").events =
      [.entryAdded file entry, .entryAdded .screen entry] := by
  intro early late file s l ops ops'
  obtain ⟨⟨governs, tells⟩, ⟨governs', tells'⟩⟩ := rounds_tell_standing_iff s l ops ops' rfl rfl
  have faithful : ∀ past ∈ ops.inits,
      (past.foldl Store.enlist s).watchers.active = (Registry.standing past).map Prod.snd := by
    decide
  have faithful' : ∀ past ∈ ops'.inits,
      (past.foldl Log.enlist l).watchers.active = (Registry.standing past).map Prod.snd := by
    decide
  have keeps : Registry.Keeps ops :=
    governs.throughout.mp fun past within => faithful past ((List.mem_inits past ops).mpr within)
  have keeps' : Registry.Keeps ops' :=
    governs'.throughout.mp fun past within => faithful' past ((List.mem_inits past ops').mpr within)
  have quiet : (ops.foldl Store.enlist s).IsQuiet := by
    rw [Store.IsQuiet, Registry.IsSound]
    decide
  have quiet' : (ops'.foldl Log.enlist l).IsQuiet := by
    rw [Log.IsQuiet, Registry.IsSound]
    decide
  refine ⟨rfl, rfl, keeps, keeps', quiet, quiet', ?_, ?_⟩
  · rw [tells keeps quiet "blue" none ⟨"blue", "Active", "9d"⟩ rfl]
    decide
  · obtain ⟨entry, _, told⟩ := tells' keeps' quiet' .output "ready"
    exact ⟨entry, told⟩

/-- A handle that is cancelled twice takes the other registration of its watcher along: that one stands,
and no round tells it. And a handle that is cancelled once takes the first registration of its
watcher for the last, so that the others are told out of order. -/
theorem twin_dropped_by_second_cancel :
    let twin : NamespaceWatcher := .observer ⟨"twin", none⟩
    let other : NamespaceWatcher := .observer ⟨"other", none⟩
    let s : Store := { cluster := { namespaces := [⟨"blue", "Active", "9d"⟩] } }
    let again : List (Registry.Operation NamespaceWatcher) :=
      [.register twin, .register twin, .cancel 0, .cancel 0]
    let last : List (Registry.Operation NamespaceWatcher) :=
      [.register twin, .register other, .register twin, .cancel 2]
    Registry.standing again = [(1, twin)] ∧
    ((again.foldl Store.enlist s).delete .namespaces "blue" none).events.tail = [] ∧
    Registry.standing last = [(0, twin), (1, other)] ∧
    ((last.foldl Store.enlist s).delete .namespaces "blue" none).events.tail =
      [.namespaceGone other "blue", .namespaceGone twin "blue"] := by
  decide +kernel

end ClusterInspector
