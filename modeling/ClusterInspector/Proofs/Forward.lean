import ClusterInspector.Proofs.Run

/-!
# Lookups along a run

A lookup begins ambiguous, found or not found, and deletions can only move it forward in that order.
While it is found it finds one and the same record. Once nothing is found, and once a namespace is
gone, that stays so whatever is done afterwards.
-/
namespace ClusterInspector

structure Command.Addresses (cmd : Command) (k : Kind) (name : String) (scope : Option String) :
    Prop where
  kind : cmd.kind = some k
  name : cmd.name = some name
  scope : cmd.scope = scope

namespace Console

open Cluster

/-- Where a lookup finds a record, all that the address selects share its name and namespace. -/
theorem select_alike (c : Cluster) (k : Kind) (name : String) (scope : Option String)
    (r other : k.Record) (rest : List k.Record) (selected : c.select k scope (some name) = r :: rest)
    (alone : scope = none → k ≠ .namespaces → rest = []) (member : other ∈ r :: rest) :
    other.name = r.name ∧ other.home? = r.home? := by
  have addressed : ∀ r' ∈ r :: rest, r'.name = name ∧ liesIn scope r' = true := by
    intro r' among
    rw [← selected, mem_select] at among
    exact ⟨(isNamed_some name k r').mp among.2.2, among.2.1⟩
  obtain ⟨firstName, firstScope⟩ := addressed r List.mem_cons_self
  obtain ⟨otherName, otherScope⟩ := addressed other member
  refine ⟨otherName.trans firstName.symm, ?_⟩
  by_cases namespaced : k = .namespaces
  · subst namespaced
    rfl
  · cases scope with
    | none =>
      rw [alone rfl namespaced, List.mem_singleton] at member
      rw [member]
    | some home =>
      rw [(liesIn_some home k r namespaced).mp firstScope,
        (liesIn_some home k other namespaced).mp otherScope]

/-- After a deletion a lookup finds the record it found before, or nothing. -/
theorem resolve_without (c : Cluster) (k k' : Kind) (name : String) (scope : Option String)
    (r : k.Record) (target : k'.Record) (found : resolve c k name scope = .ok r) :
    resolve (c.without target) k name scope = .ok r ∨
      resolve (c.without target) k name scope = .error (.notFound k name) := by
  obtain ⟨rest, selected, alone⟩ := (resolve_eq_ok_iff c k name scope r).mp found
  -- the deletion takes all of the records the address selects, or none of them
  have alike : ∀ other ∈ r :: rest, goesWith target other = goesWith target r := by
    intro other member
    obtain ⟨sameName, sameHome⟩ := select_alike c k name scope r other rest selected alone member
    exact goesWith_congr k' k target other r sameName sameHome
  have after := select_without c k' k target scope (some name)
  rw [selected] at after
  cases goes : goesWith target r with
  | true =>
    refine Or.inr ((resolve_eq_notFound_iff _ k name scope).mpr ?_)
    rw [after, List.filter_eq_nil_iff]
    intro other member
    simp [alike other member, goes]
  | false =>
    refine Or.inl ((resolve_eq_ok_iff _ k name scope r).mpr ⟨rest, ?_, alone⟩)
    rw [after, List.filter_eq_self]
    intro other member
    simp [alike other member, goes]

theorem notFound_without (c : Cluster) (k k' : Kind) (name : String) (scope : Option String)
    (target : k'.Record) (missing : resolve c k name scope = .error (.notFound k name)) :
    resolve (c.without target) k name scope = .error (.notFound k name) := by
  rw [resolve_eq_notFound_iff] at missing ⊢
  rw [select_without, missing, List.filter_nil]

/-- Deleting the record that a lookup found leaves nothing to be found. -/
theorem resolve_without_self (c : Cluster) (k : Kind) (name : String) (scope : Option String)
    (r : k.Record) (found : resolve c k name scope = .ok r) :
    resolve (c.without r) k name scope = .error (.notFound k name) := by
  rcases resolve_without c k k name scope r r found with again | missing
  · exact absurd (resolve_mem _ k name scope r again).1 (target_not_mem_without c k r)
  · exact missing

/-- What a lookup comes to, in the order in which that can change. -/
inductive Standing where
  | ambiguous | found | notFound
  deriving DecidableEq, Repr

def Standing.rank : Standing → Nat
  | ambiguous => 0
  | found => 1
  | notFound => 2

def standing (c : Cluster) (k : Kind) (name : String) (scope : Option String) : Standing :=
  match resolve c k name scope with
  | .ok _ => .found
  | .error (.ambiguous ..) => .ambiguous
  | .error _ => .notFound

theorem standing_found_iff (c : Cluster) (k : Kind) (name : String) (scope : Option String) :
    standing c k name scope = .found ↔ ∃ r, resolve c k name scope = .ok r := by
  unfold standing
  rcases resolve_cases c k name scope with ⟨_, missed⟩ | ⟨_, _, _, _, _, _, missed⟩ | ⟨_, _, _, _, found⟩
  · simp [missed]
  · simp [missed]
  · simp [found]

theorem standing_notFound_iff (c : Cluster) (k : Kind) (name : String) (scope : Option String) :
    standing c k name scope = .notFound ↔ resolve c k name scope = .error (.notFound k name) := by
  unfold standing
  rcases resolve_cases c k name scope with ⟨_, missed⟩ | ⟨_, _, _, _, _, _, missed⟩ | ⟨_, _, _, _, found⟩
  · simp [missed]
  · simp [missed]
  · simp [found]

theorem rank_without (c : Cluster) (k k' : Kind) (name : String) (scope : Option String)
    (target : k'.Record) :
    (standing c k name scope).rank ≤ (standing (c.without target) k name scope).rank := by
  cases before : standing c k name scope with
  | ambiguous => exact Nat.zero_le _
  | found =>
    obtain ⟨r, found⟩ := (standing_found_iff c k name scope).mp before
    rcases resolve_without c k k' name scope r target found with again | missing
    · have still := (standing_found_iff _ k name scope).mpr ⟨r, again⟩
      exact Nat.le_of_eq (congrArg Standing.rank still.symm)
    · rw [(standing_notFound_iff _ k name scope).mpr missing]
      decide
  | notFound =>
    have missing := (standing_notFound_iff c k name scope).mp before
    have still := (standing_notFound_iff _ k name scope).mpr
      (notFound_without c k k' name scope target missing)
    exact Nat.le_of_eq (congrArg Standing.rank still.symm)

theorem target_of_addresses (c : Cluster) (cmd : Command) (k : Kind) (name : String)
    (scope : Option String) (addressed : cmd.Addresses k name scope) (named : name ≠ "") :
    target c cmd = (resolve c k name scope).map (Sigma.mk k) := by
  obtain ⟨kind, hasName, rfl⟩ := addressed
  unfold target
  rw [kind, hasName]
  split
  · simp_all
  · simp_all
  · simp_all
  · rename_i same sameName
    cases same
    cases sameName
    rfl

theorem answer_describe (now : Nat) (s : Store) (cmd : Command) (k : Kind) (name : String)
    (scope : Option String) (r : k.Record) (addressed : cmd.Addresses k name scope)
    (named : name ≠ "") (verb : cmd.verb = .describe)
    (found : resolve s.cluster k name scope = .ok r) :
    (answerCommand now s cmd).result = (Report.describe now r).mapError .fault := by
  have targeted := target_of_addresses s.cluster cmd k name scope addressed named
  rw [found] at targeted
  exact answerCommand_reports now s cmd k r verb targeted

theorem answer_missing (now : Nat) (s : Store) (cmd : Command) (k : Kind) (name : String)
    (scope : Option String) (addressed : cmd.Addresses k name scope) (named : name ≠ "")
    (verb : cmd.verb = .describe ∨ cmd.verb = .delete)
    (missing : resolve s.cluster k name scope = .error (.notFound k name)) :
    (answerCommand now s cmd).result = .error (.refused (.notFound k name)) := by
  have targeted := target_of_addresses s.cluster cmd k name scope addressed named
  rw [missing] at targeted
  exact answerCommand_refuses now s cmd _ verb targeted

theorem answer_get_nothing (now : Nat) (s : Store) (cmd : Command) (k : Kind)
    (verb : cmd.verb = .get) (kind : cmd.kind = some k)
    (nothing : s.cluster.select k cmd.scope cmd.name = []) :
    (answerCommand now s cmd).result = .ok (nothingFound k cmd.scope) := by
  rw [answerCommand_lists now s cmd k verb kind, list, nothing]
  rfl

/-- A deletion by address that is confirmed has found its record, which is gone afterwards. -/
theorem resolve_of_confirmed (now : Nat) (s : Store) (cmd : Command) (k : Kind) (name text : String)
    (scope : Option String) (addressed : cmd.Addresses k name scope) (verb : cmd.verb = .delete)
    (confirmed : (answerCommand now s cmd).result = .ok text) :
    ∃ r, resolve s.cluster k name scope = .ok r ∧
      (answerCommand now s cmd).state.cluster = s.cluster.without r := by
  obtain ⟨kind, hasName, rfl⟩ := addressed
  cases found : target s.cluster cmd with
  | error e =>
    rw [answerCommand_refuses now s cmd e (Or.inr verb) found] at confirmed
    cases confirmed
  | ok t =>
    obtain ⟨k', r⟩ := t
    obtain ⟨sameKind, name', sameName, _, resolved⟩ := (target_eq_ok_iff s.cluster cmd k' r).mp found
    rw [kind] at sameKind
    rw [hasName] at sameName
    cases sameKind
    cases sameName
    exact ⟨r, resolved, (answerCommand_deletes now s cmd k r verb found).2⟩

end Console

namespace Desk

open Console Cluster

/-- Nothing is at an address: reports and deletions are refused, and listings are empty. -/
structure IsVacant (d : Desk) (k : Kind) (name : String) (scope : Option String) : Prop where
  standing : standing d.store.cluster k name scope = .notFound
  refused : ∀ cmd : Command, cmd.Addresses k name scope →
    cmd.verb = .describe ∨ cmd.verb = .delete →
    (d.answerCommand cmd).result = .error (.refused (.notFound k name))
  listed : ∀ cmd : Command, cmd.Addresses k name scope → cmd.verb = .get →
    (d.answerCommand cmd).result = .ok (nothingFound k scope)

/-- Nothing lies in a namespace, by any kind and name. -/
structure IsDeserted (d : Desk) (home : String) : Prop where
  refused : ∀ (cmd : Command) (k : Kind) (name : String), k ≠ .namespaces → name ≠ "" →
    cmd.Addresses k name (some home) → cmd.verb = .describe ∨ cmd.verb = .delete →
    (d.answerCommand cmd).result = .error (.refused (.notFound k name))
  listed : ∀ (cmd : Command) (k : Kind), k ≠ .namespaces → cmd.verb = .get →
    cmd.kind = some k → cmd.scope = some home →
    (d.answerCommand cmd).result = .ok s!"No resources found in {home} namespace."

/-- The operation takes a namespace away: a direct deletion that does not come back with nothing, or
a deletion by command that is confirmed. -/
inductive TakesNamespace (d : Desk) (home : String) : Operation → Prop
  | direct (scope : Option String) (taken : (d.delete .namespaces home scope).result ≠ .ok none) :
    TakesNamespace d home (.delete .namespaces home scope)
  | command (cmd : Command) (scope : Option String) (text : String) (verb : cmd.verb = .delete)
    (addressed : cmd.Addresses .namespaces home scope)
    (confirmed : (d.answerCommand cmd).result = .ok text) : TakesNamespace d home (.command cmd)

theorem isVacant_of_notFound (d : Desk) (k : Kind) (name : String) (scope : Option String)
    (named : name ≠ "") (missing : resolve d.store.cluster k name scope = .error (.notFound k name)) :
    d.IsVacant k name scope where
  standing := (standing_notFound_iff _ k name scope).mpr missing
  refused := by
    intro cmd addressed verb
    exact answer_missing d.now d.store cmd k name scope addressed named verb missing
  listed := by
    intro cmd addressed verb
    obtain ⟨kind, hasName, rfl⟩ := addressed
    refine answer_get_nothing d.now d.store cmd k verb kind ?_
    rw [hasName]
    exact (resolve_eq_notFound_iff _ k name _).mp missing

theorem isDeserted_of_absent (d : Desk) (home : String) (housed : d.store.cluster.IsHoused home)
    (absent : home ∉ d.store.cluster.namespaceNames) : d.IsDeserted home := by
  have nothing : ∀ (k : Kind) (name : Option String), k ≠ .namespaces →
      d.store.cluster.select k (some home) name = [] := by
    intro k name namespaced
    rw [List.eq_nil_iff_forall_not_mem]
    intro r member
    obtain ⟨held, inScope, _⟩ := mem_select.mp member
    exact absent (housed k r held ((liesIn_some home k r namespaced).mp inScope))
  constructor
  · intro cmd k name namespaced named addressed verb
    refine answer_missing d.now d.store cmd k name _ addressed named verb ?_
    exact (resolve_eq_notFound_iff _ k name _).mpr (nothing k (some name) namespaced)
  · intro cmd k namespaced verb kind scope
    have answered := answer_get_nothing d.now d.store cmd k verb kind
    rw [scope] at answered
    refine (answered (nothing k cmd.name namespaced)).trans ?_
    simp only [nothingFound, (isNamespaced_iff k).mpr namespaced, if_true]

theorem run_resolve (d : Desk) (ops : List Operation) (k : Kind) (name : String)
    (scope : Option String) (r : k.Record) (found : resolve d.store.cluster k name scope = .ok r) :
    resolve (d.run ops).store.cluster k name scope = .ok r ∨
      resolve (d.run ops).store.cluster k name scope = .error (.notFound k name) := by
  refine (d.run_pruned ops).preserves (P := fun c => resolve c k name scope = .ok r ∨
    resolve c k name scope = .error (.notFound k name)) ?_ (Or.inl found)
  rintro c k' target (still | missing)
  · exact resolve_without c k k' name scope r target still
  · exact Or.inr (notFound_without c k k' name scope target missing)

theorem run_notFound (d : Desk) (ops : List Operation) (k : Kind) (name : String)
    (scope : Option String)
    (missing : resolve d.store.cluster k name scope = .error (.notFound k name)) :
    resolve (d.run ops).store.cluster k name scope = .error (.notFound k name) := by
  refine (d.run_pruned ops).preserves
    (P := fun c => resolve c k name scope = .error (.notFound k name)) ?_ missing
  intro c k' target still
  exact notFound_without c k k' name scope target still

theorem run_rank (d : Desk) (ops : List Operation) (k : Kind) (name : String)
    (scope : Option String) :
    (standing d.store.cluster k name scope).rank ≤
      (standing (d.run ops).store.cluster k name scope).rank := by
  refine (d.run_pruned ops).preserves (P := fun c =>
    (standing d.store.cluster k name scope).rank ≤ (standing c k name scope).rank) ?_ (Nat.le_refl _)
  intro c k' target reached
  exact Nat.le_trans reached (rank_without c k k' name scope target)

/-- As long as an address is found, its report is the same, be that a text or a fault. -/
theorem run_describe (d : Desk) (ops : List Operation) (k : Kind) (name : String)
    (scope : Option String) (named : name ≠ "")
    (found : standing d.store.cluster k name scope = .found)
    (again : standing (d.run ops).store.cluster k name scope = .found)
    (cmd : Command) (addressed : cmd.Addresses k name scope) (verb : cmd.verb = .describe) :
    ((d.run ops).answerCommand cmd).result = (d.answerCommand cmd).result := by
  obtain ⟨r, found⟩ := (standing_found_iff _ k name scope).mp found
  obtain ⟨r', again⟩ := (standing_found_iff _ k name scope).mp again
  have same : resolve (d.run ops).store.cluster k name scope = .ok r := by
    rcases d.run_resolve ops k name scope r found with same | missing
    · exact same
    · rw [missing] at again
      cases again
  have before := answer_describe d.now d.store cmd k name scope r addressed named verb found
  have after := answer_describe (d.run ops).now (d.run ops).store cmd k name scope r addressed named
    verb same
  rw [answerCommand, settle_result, after, d.run_now ops, answerCommand, settle_result, before]

theorem perform_confirmed (d : Desk) (k : Kind) (name text : String) (scope : Option String)
    (cmd : Command) (addressed : cmd.Addresses k name scope) (verb : cmd.verb = .delete)
    (confirmed : (d.answerCommand cmd).result = .ok text) :
    resolve (d.perform (.command cmd)).store.cluster k name scope = .error (.notFound k name) := by
  obtain ⟨r, found, after⟩ :=
    resolve_of_confirmed d.now d.store cmd k name text scope addressed verb confirmed
  rw [perform, answerCommand, settle_store, after]
  exact resolve_without_self d.store.cluster k name scope r found

theorem takesNamespace_spec (d : Desk) (home : String) (op : Operation)
    (taken : d.TakesNamespace home op) :
    home ∈ d.store.cluster.namespaceNames ∧ home ∉ (d.perform op).store.cluster.namespaceNames := by
  suffices ∃ target : Kind.namespaces.Record, target ∈ d.store.cluster.records .namespaces ∧
      target.name = home ∧ (d.perform op).store.cluster = d.store.cluster.without target by
    obtain ⟨target, held, named, after⟩ := this
    refine ⟨(mem_namespaceNames _ home).mpr ⟨target, held, named⟩, ?_⟩
    rw [after, mem_namespaceNames, (losesNamespace_without d.store.cluster target).named]
    simp [named]
  cases taken with
  | direct scope taken =>
    have after := d.store.delete_cluster .namespaces home scope
    cases found : d.store.cluster.find? .namespaces home scope with
    | none => exact absurd (by simp [delete, settle, Store.delete_eq, found]) taken
    | some target =>
      rw [found] at after
      obtain ⟨held, _, named⟩ := find?_mem _ _ _ _ _ found
      exact ⟨target, held, named, after⟩
  | command cmd scope text verb addressed confirmed =>
    obtain ⟨r, found, after⟩ :=
      resolve_of_confirmed d.now d.store cmd .namespaces home text scope addressed verb confirmed
    obtain ⟨held, _, named⟩ := resolve_mem _ .namespaces home scope r found
    exact ⟨r, held, named, after⟩

theorem run_deserted (d : Desk) (ops : List Operation) (home : String)
    (present : home ∈ d.store.cluster.namespaceNames)
    (absent : home ∉ (d.run ops).store.cluster.namespaceNames) : (d.run ops).IsDeserted home := by
  have housed : d.store.cluster.IsHoused home := fun _ _ _ _ => present
  exact isDeserted_of_absent (d.run ops) home ((d.run_pruned ops).isHoused home housed) absent

theorem run_absent (d : Desk) (ops : List Operation) (home : String)
    (absent : home ∉ d.store.cluster.namespaceNames) :
    home ∉ (d.run ops).store.cluster.namespaceNames := by
  rw [mem_namespaceNames] at absent ⊢
  rintro ⟨r, member, named⟩
  exact absent ⟨r, ((d.run_pruned ops).records_sublist .namespaces).subset member, named⟩

/-- Between any two moments of a run the outcome of a lookup moves forward only, from ambiguous to
found to not found, and the reports of an address that is found at both are the same. A deletion by
an address that is confirmed leaves the address vacant at once and for good, and a namespace that has
been taken away is deserted from then on. -/
theorem lookups_move_forward (d : Desk) (past future : List Operation) (k : Kind) (name : String)
    (scope : Option String) (named : name ≠ "") :
    let earlier := d.run past
    let later := d.run (past ++ future)
    (standing earlier.store.cluster k name scope).rank ≤
      (standing later.store.cluster k name scope).rank ∧
    (standing earlier.store.cluster k name scope = .found →
      standing later.store.cluster k name scope = .found →
      ∀ cmd : Command, cmd.Addresses k name scope → cmd.verb = .describe →
        (later.answerCommand cmd).result = (earlier.answerCommand cmd).result) ∧
    (∀ (cmd : Command) (text : String), cmd.Addresses k name scope → cmd.verb = .delete →
      (earlier.answerCommand cmd).result = .ok text →
      (d.run (past ++ .command cmd :: future)).IsVacant k name scope) ∧
    (∀ home : String, home ∈ earlier.store.cluster.namespaceNames →
      home ∉ later.store.cluster.namespaceNames → later.IsDeserted home) ∧
    (∀ (home : String) (op : Operation), earlier.TakesNamespace home op →
      (d.run (past ++ op :: future)).IsDeserted home) := by
  dsimp only
  rw [run_append]
  refine ⟨run_rank _ future k name scope, ?_, ?_, ?_, ?_⟩
  · intro found again cmd addressed verb
    exact run_describe _ future k name scope named found again cmd addressed verb
  · intro cmd text addressed verb confirmed
    have missing := perform_confirmed _ k name text scope cmd addressed verb confirmed
    rw [run_append]
    exact isVacant_of_notFound _ k name scope named (run_notFound _ future k name scope missing)
  · intro home present absent
    exact run_deserted _ future home present absent
  · intro home op taken
    obtain ⟨present, absent⟩ := takesNamespace_spec _ home op taken
    rw [run_append]
    exact run_deserted _ (op :: future) home present (run_absent _ future home absent)

def crowdedDesk : Desk := { store := crowded, now := noon }

/-- The pod `web` is ambiguous until `blue` is deleted, then found, then deleted itself; `green` is
taken away last. -/
theorem lookups_move_forward_web :
    let past : List Operation := [.line "kubectl delete ns blue"]
    let cmd : Command := { verb := .delete, kind := some .pods, name := some "web" }
    let future : List Operation := [.line "kubectl get po", .delete .namespaces "green" none]
    "web" ≠ "" ∧
    standing crowdedDesk.store.cluster .pods "web" none = .ambiguous ∧
    standing (crowdedDesk.run past).store.cluster .pods "web" none = .found ∧
    (crowdedDesk.run (past ++ .command cmd :: future)).IsVacant .pods "web" none ∧
    (crowdedDesk.run (past ++ future)).IsDeserted "green" := by
  intro past cmd future
  have forward := lookups_move_forward crowdedDesk past future .pods "web" none (by decide)
  obtain ⟨_, _, vacant, deserted, _⟩ := forward
  have confirmed : ((crowdedDesk.run past).answerCommand cmd).result =
      .ok "pod \"web\" deleted" := rfl
  refine ⟨by decide, by decide, by decide +kernel, ?_, ?_⟩
  · exact vacant cmd _ ⟨rfl, rfl, rfl⟩ rfl confirmed
  · exact deserted "green" (by decide +kernel) (by decide +kernel)

end Desk

end ClusterInspector
