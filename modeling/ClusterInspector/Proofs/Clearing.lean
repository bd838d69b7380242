import ClusterInspector.Proofs.Forward
import Mathlib.Data.List.Forall2

/-!
# Deletions by full address

A deletion that is told the namespace as well as the kind and the name leaves nothing to a search: it
takes the records at its address, if there are any, and where the address is that of a namespace all
that lies in it. What any number of such deletions leave depends only on which addresses they are for,
not on their order or number, on repeats and misses among them, or on how they are asked for.
-/
namespace ClusterInspector

/-- What tells a record from those it is not deleted with: its kind, its name, and its namespace where
the kind has one. -/
structure Address where
  kind : Kind
  name : String
  home? : Option String
  fits : home?.isSome = kind.isNamespaced
  deriving DecidableEq, Repr

/-- The scope leaves no other record of the name to be found. Namespaces lie in none. -/
def Address.Admits (a : Address) (scope : Option String) : Prop :=
  a.kind ≠ .namespaces → scope = a.home?

theorem Address.home?_of_namespace (a : Address) (isNamespace : a.kind = .namespaces) :
    a.home? = none := by
  have absent : a.home?.isSome = false := by
    rw [a.fits, isNamespace]
    rfl
  simpa using absent

namespace Cluster

/-- A deletion at the address takes the record away: it is at the address, or the address is that of
its namespace, and the cluster has a record of that namespace. -/
def takes (c : Cluster) (a : Address) {k : Kind} (r : k.Record) : Bool :=
  if k = a.kind then r.name = a.name && r.home? = a.home?
  else a.kind = .namespaces && r.home? = some a.name && c.namespaceNames.contains a.name

/-- The records that no address takes. -/
def clear (c : Cluster) (as : List Address) : Cluster :=
  c.filter fun r => !as.any fun a => c.takes a r

@[simp] theorem records_clear (c : Cluster) (as : List Address) (k : Kind) :
    (c.clear as).records k = (c.records k).filter fun r => !as.any fun a => c.takes a r :=
  records_filter _ c k

theorem clear_nil (c : Cluster) : c.clear [] = c := by
  refine ext_records fun k => ?_
  rw [records_clear, List.filter_eq_self]
  exact fun _ _ => rfl

theorem takes_same_kind (c : Cluster) (a : Address) (r : a.kind.Record) :
    c.takes a r = true ↔ r.name = a.name ∧ r.home? = a.home? := by
  simp [takes]

theorem takes_other_kind (c : Cluster) (a : Address) (k : Kind) (r : k.Record) (other : k ≠ a.kind) :
    c.takes a r = true ↔
      a.kind = .namespaces ∧ r.home? = some a.name ∧ a.name ∈ c.namespaceNames := by
  simp [takes, other, and_assoc]

theorem takes_namespace (c : Cluster) (a : Address) (owner : Kind.namespaces.Record)
    (takes : c.takes a owner = true) : a.kind = .namespaces ∧ owner.name = a.name := by
  by_cases same : Kind.namespaces = a.kind
  · simp only [Cluster.takes, if_pos same, Bool.and_eq_true, decide_eq_true_eq] at takes
    exact ⟨same.symm, takes.1⟩
  · exact absurd ((takes_other_kind c a _ owner same).mp takes).1 (Ne.symm same)

/-- What a namespace's address has taken from the cluster needs no second deletion: either its record
is there still, or all that lay in it has gone with the record. -/
theorem takes_clear (c : Cluster) (as : List Address) (b : Address) (k : Kind) (r : k.Record)
    (stays : as.any (fun a => c.takes a r) = false) :
    (c.clear as).takes b r = c.takes b r := by
  by_cases same : k = b.kind
  · simp only [takes, if_pos same]
  · rw [Bool.eq_iff_iff, takes_other_kind _ b k r same, takes_other_kind c b k r same]
    refine and_congr_right fun isNamespace => and_congr_right fun lies => ?_
    rw [mem_namespaceNames, mem_namespaceNames, records_clear]
    constructor
    · rintro ⟨owner, held, named⟩
      exact ⟨owner, (List.mem_filter.mp held).1, named⟩
    · rintro ⟨owner, held, named⟩
      refine ⟨owner, List.mem_filter.mpr ⟨held, ?_⟩, named⟩
      rw [Bool.not_eq_true']
      by_contra goes
      rw [Bool.not_eq_false, List.any_eq_true] at goes
      obtain ⟨a, listed, takes⟩ := goes
      -- the address that takes the owner is that of its namespace, so it takes the record too
      obtain ⟨kind, itsName⟩ := takes_namespace c a owner takes
      have taken : c.takes a r = true := by
        refine (takes_other_kind c a k r ?_).mpr ⟨kind, ?_, ?_⟩
        · rw [kind, ← isNamespace]
          exact same
        · rw [lies, ← named, itsName]
        · exact (mem_namespaceNames c _).mpr ⟨owner, held, itsName⟩
      have kept := List.any_eq_false.mp stays a listed
      exact kept taken

theorem clear_clear (c : Cluster) (as bs : List Address) :
    (c.clear as).clear bs = c.clear (as ++ bs) := by
  refine ext_records fun k => ?_
  rw [records_clear, records_clear, records_clear, List.filter_filter]
  refine List.filter_congr fun r _ => ?_
  rw [List.any_append, Bool.not_or, Bool.and_comm]
  cases stays : as.any fun a => c.takes a r with
  | true => rfl
  | false => simp only [takes_clear c as _ k r stays]

/-- Only which addresses are listed counts. -/
theorem clear_congr (c : Cluster) (as bs : List Address) (same : ∀ a, a ∈ as ↔ a ∈ bs) :
    c.clear as = c.clear bs := by
  refine ext_records fun k => ?_
  rw [records_clear, records_clear]
  refine List.filter_congr fun r _ => congrArg (!·) ?_
  rw [Bool.eq_iff_iff, List.any_eq_true, List.any_eq_true]
  exact exists_congr fun a => and_congr_left fun _ => same a

theorem find?_admitted (c : Cluster) (a : Address) (scope : Option String) (admits : a.Admits scope) :
    c.find? a.kind a.name scope = c.find? a.kind a.name a.home? := by
  obtain ⟨kind, name, home?, fits⟩ := a
  by_cases isNamespace : kind = .namespaces
  · subst isNamespace
    simp only [find?, select, liesIn_namespaces]
  · rw [admits isNamespace]

/-- What is found at an address has the address's name and namespace. -/
theorem find?_at (c : Cluster) (a : Address) (r : a.kind.Record)
    (found : c.find? a.kind a.name a.home? = some r) :
    r ∈ c.records a.kind ∧ r.name = a.name ∧ r.home? = a.home? := by
  obtain ⟨held, inScope, named⟩ := find?_mem c a.kind a.name a.home? r found
  refine ⟨held, named, ?_⟩
  obtain ⟨kind, name, home?, fits⟩ := a
  cases home? with
  | none =>
    have lies := r.home?_isSome
    rw [← fits] at lies
    exact Option.isNone_iff_eq_none.mp (by simpa using lies)
  | some home =>
    refine (liesIn_some home kind r ?_).mp inScope
    exact (isNamespaced_iff kind).mp fits.symm

theorem clear_found (c : Cluster) (a : Address) (r : a.kind.Record)
    (found : c.find? a.kind a.name a.home? = some r) : c.clear [a] = c.without r := by
  obtain ⟨held, named, home⟩ := find?_at c a r found
  refine ext_records fun k => ?_
  rw [records_clear, records_without]
  refine List.filter_congr fun r' _ => congrArg (!·) ?_
  rw [List.any_cons, List.any_nil, Bool.or_false]
  by_cases same : k = a.kind
  · simp only [takes, goesWith, if_pos same, named, home]
  · rw [Bool.eq_iff_iff, takes_other_kind c a k r' same, goesWith_other_kind _ k r r' same, named]
    refine and_congr_right fun isNamespace => and_iff_left ?_
    obtain ⟨kind, name, home?, fits⟩ := a
    cases isNamespace
    exact (mem_namespaceNames c name).mpr ⟨r, held, named⟩

theorem clear_missing (c : Cluster) (a : Address)
    (missing : c.find? a.kind a.name a.home? = none) : c.clear [a] = c := by
  have nothing : ∀ r ∈ c.records a.kind, ¬ (r.name = a.name ∧ r.home? = a.home?) := by
    rintro r held ⟨named, home⟩
    rw [find?_eq_find?, List.find?_eq_none] at missing
    refine missing r held ?_
    rw [← home, liesIn_home, (isNamed_some a.name a.kind r).mpr named]
    rfl
  refine ext_records fun k => ?_
  rw [records_clear, List.filter_eq_self]
  intro r held
  rw [List.any_cons, List.any_nil, Bool.or_false, Bool.not_eq_true', ← Bool.not_eq_true]
  by_cases same : k = a.kind
  · subst same
    rw [takes_same_kind]
    exact nothing r held
  · rw [takes_other_kind c a k r same]
    rintro ⟨isNamespace, _, listed⟩
    obtain ⟨owner, owned, named⟩ := (mem_namespaceNames c a.name).mp listed
    have home := a.home?_of_namespace isNamespace
    obtain ⟨kind, name, home?, fits⟩ := a
    cases isNamespace
    exact nothing owner owned ⟨named, home.symm⟩

end Cluster

theorem Store.delete_at (s : Store) (a : Address) (scope : Option String) (admits : a.Admits scope) :
    (s.delete a.kind a.name scope).state.cluster = s.cluster.clear [a] := by
  rw [delete_cluster, s.cluster.find?_admitted a scope admits]
  cases found : s.cluster.find? a.kind a.name a.home? with
  | none => exact (s.cluster.clear_missing a found).symm
  | some r => exact (s.cluster.clear_found a r found).symm

namespace Console

open Cluster

/-- With a full address a lookup is never ambiguous. -/
theorem resolve_at (c : Cluster) (a : Address) (scope : Option String) (admits : a.Admits scope) :
    resolve c a.kind a.name scope =
      match c.find? a.kind a.name scope with
      | some r => .ok r
      | none => .error (.notFound a.kind a.name) := by
  rcases resolve_cases c a.kind a.name scope with ⟨selected, missed⟩ |
    ⟨_, _, _, _, unscoped, namespaced, _⟩ | ⟨r, rest, selected, _, found⟩
  · rw [missed, find?, selected]
    rfl
  · have given := a.fits
    rw [← admits namespaced, unscoped, (isNamespaced_iff a.kind).mpr namespaced] at given
    cases given
  · rw [found, find?, selected]
    rfl

/-- A command that deletes at an address does what the direct deletion does, also where that finds
nothing and the command is refused. -/
theorem answerCommand_at (now : Nat) (s : Store) (cmd : Command) (a : Address) (scope : Option String)
    (admits : a.Admits scope) (verb : cmd.verb = .delete)
    (addressed : cmd.Addresses a.kind a.name scope) (named : a.name ≠ "") :
    (answerCommand now s cmd).state.cluster = s.cluster.clear [a] := by
  have targeted := target_of_addresses s.cluster cmd a.kind a.name scope addressed named
  rw [resolve_at s.cluster a scope admits, s.cluster.find?_admitted a scope admits] at targeted
  cases found : s.cluster.find? a.kind a.name a.home? with
  | none =>
    rw [found] at targeted
    have kept := answerCommand_keeps now s cmd fun _ t hit => by
      rw [targeted] at hit
      cases hit
    rw [kept, s.cluster.clear_missing a found]
  | some r =>
    rw [found] at targeted
    rw [(answerCommand_deletes now s cmd a.kind r verb targeted).2, s.cluster.clear_found a r found]

end Console

namespace Desk

/-- The operation deletes at the address: directly, by a command or by a line. -/
inductive DeletesAt (a : Address) : Operation → Prop
  | direct (scope : Option String) (admits : a.Admits scope) :
    DeletesAt a (.delete a.kind a.name scope)
  | command (cmd : Command) (scope : Option String) (admits : a.Admits scope)
    (verb : cmd.verb = .delete) (addressed : cmd.Addresses a.kind a.name scope)
    (named : a.name ≠ "") : DeletesAt a (.command cmd)
  | line (text : String) (cmd : Command) (read : Command.ofLine text = .ok cmd)
    (asCommand : DeletesAt a (.command cmd)) : DeletesAt a (.line text)

theorem perform_at (d : Desk) (op : Operation) (a : Address) (deletes : DeletesAt a op) :
    (d.perform op).store.cluster = d.store.cluster.clear [a] := by
  induction deletes with
  | direct scope admits =>
    rw [perform, delete, settle_store]
    exact d.store.delete_at a scope admits
  | command cmd scope admits verb addressed named =>
    rw [perform, answerCommand, settle_store]
    exact Console.answerCommand_at d.now d.store cmd a scope admits verb addressed named
  | line text cmd read _ asCommand =>
    rw [perform, answerCommand, settle_store] at asCommand
    rw [perform, answerLine, settle_store, Console.answerLine, read]
    exact asCommand

theorem run_at (d : Desk) (ops : List Operation) (as : List Address)
    (deletes : List.Forall₂ DeletesAt as ops) :
    (d.run ops).store.cluster = d.store.cluster.clear as := by
  induction deletes generalizing d with
  | nil => exact d.store.cluster.clear_nil.symm
  | cons first _ ih =>
    have step := d.perform_at _ _ first
    rw [run, List.foldl_cons, ← run, ih, step, Cluster.clear_clear, List.singleton_append]

/-- Deletions at full addresses leave, in order, the records at first that are at none of the addresses
and in none of the namespaces among them that had a record at first. So two such runs come to the same
if they are for the same addresses, in whatever order and by whatever way each is asked for. -/
theorem deletions_commute (d : Desk) (ops ops' : List Operation) (as as' : List Address)
    (deletes : List.Forall₂ DeletesAt as ops) (deletes' : List.Forall₂ DeletesAt as' ops')
    (same : ∀ a, a ∈ as ↔ a ∈ as') :
    (∀ k, (d.run ops).store.cluster.records k =
      (d.store.cluster.records k).filter fun r => !as.any fun a => d.store.cluster.takes a r) ∧
    (d.run ops').store.cluster = (d.run ops).store.cluster := by
  have after := d.run_at ops as deletes
  have after' := d.run_at ops' as' deletes'
  refine ⟨?_, ?_⟩
  · intro k
    rw [after, Cluster.records_clear]
  · rw [after', after, Cluster.clear_congr d.store.cluster as as' same]

/-- The namespace `blue` goes before or after what lies in it; `lost` has no record, so the pod in it
stays. -/
theorem deletions_commute_blue :
    let blue : Address := ⟨.namespaces, "blue", none, rfl⟩
    let lost : Address := ⟨.namespaces, "lost", none, rfl⟩
    let web : Address := ⟨.pods, "web", some "blue", rfl⟩
    let api : Address := ⟨.deployments, "api", some "green", rfl⟩
    let ops : List Operation := [.delete .pods "web" (some "blue"), .line "kubectl delete ns blue",
      .delete .namespaces "lost" none, .line "kubectl delete deploy api -n green"]
    let ops' : List Operation := [.command ⟨.delete, some .deployments, some "api", some "green", []⟩,
      .delete .namespaces "blue" (some "green"), .line "kubectl delete -n blue pod web",
      .line "kubectl delete ns lost", .line "kubectl delete ns blue"]
    List.Forall₂ DeletesAt [web, blue, lost, api] ops ∧
    List.Forall₂ DeletesAt [api, blue, web, lost, blue] ops' ∧
    (crowdedDesk.run ops').store.cluster = (crowdedDesk.run ops).store.cluster ∧
    ((crowdedDesk.run ops).store.cluster.records .pods).map (·.name) = ["web", "job", "old"] := by
  intro blue lost web api ops ops'
  have told : ∀ (a : Address) (cmd : Command), a.Admits cmd.scope → cmd.verb = .delete →
      cmd.kind = some a.kind → cmd.name = some a.name → a.name ≠ "" → DeletesAt a (.command cmd) := by
    intro a cmd admits verb kind name named
    exact .command cmd cmd.scope admits verb ⟨kind, name, rfl⟩ named
  have once : List.Forall₂ DeletesAt [web, blue, lost, api] ops := by
    refine .cons (.direct (a := web) _ fun _ => rfl) (.cons (.line _ _ rfl ?_)
      (.cons (.direct (a := lost) _ nofun) (.cons (.line _ _ rfl ?_) .nil)))
    · exact told blue _ nofun rfl rfl rfl (by decide)
    · exact told api _ (fun _ => rfl) rfl rfl rfl (by decide)
  have again : List.Forall₂ DeletesAt [api, blue, web, lost, blue] ops' := by
    refine .cons ?_ (.cons (.direct (a := blue) _ nofun) (.cons (.line _ _ rfl ?_)
      (.cons (.line _ _ rfl ?_) (.cons (.line _ _ rfl ?_) .nil))))
    · exact told api _ (fun _ => rfl) rfl rfl rfl (by decide)
    · exact told web _ (fun _ => rfl) rfl rfl rfl (by decide)
    · exact told lost _ nofun rfl rfl rfl (by decide)
    · exact told blue _ nofun rfl rfl rfl (by decide)
  have same : ∀ a, a ∈ [web, blue, lost, api] ↔ a ∈ [api, blue, web, lost, blue] := by
    intro a
    simp only [List.mem_cons, List.not_mem_nil, or_false]
    tauto
  obtain ⟨left, alike⟩ := deletions_commute crowdedDesk ops ops' _ _ once again same
  refine ⟨once, again, alike, ?_⟩
  rw [left]
  decide +kernel

end Desk

end ClusterInspector
