import ClusterInspector.Console
import ClusterInspector.Proofs.Course
import ClusterInspector.Proofs.Registrations
import ClusterInspector.Proofs.Sample
import Mathlib.Tactic.ByContra

/-!
# Deletion

What deleting from a store, answering a command and answering a line do to the cluster. Only a
deletion whose lookup succeeds changes it, and then by exactly the records that the deletion names.
-/
namespace ClusterInspector

namespace Store

/-- No watcher of the store raises a fault when it is told of a namespace. -/
def IsQuiet (s : Store) : Prop := s.watchers.IsSound NamespaceWatcher.cancels

theorem delete_cluster (s : Store) (k : Kind) (name : String) (scope : Option String) :
    (s.delete k name scope).state.cluster =
      match s.cluster.find? k name scope with
      | none => s.cluster
      | some target => s.cluster.without target := by
  rw [delete_eq]
  cases s.cluster.find? k name scope with
  | none => rfl
  | some target =>
    dsimp only
    split <;> rfl

/-- A deletion from a quiet store gives back what it found. -/
theorem delete_result (s : Store) (k : Kind) (name : String) (scope : Option String)
    (quiet : s.IsQuiet) : (s.delete k name scope).result = .ok (s.cluster.find? k name scope) := by
  rw [delete_eq]
  cases s.cluster.find? k name scope with
  | none => rfl
  | some target =>
    dsimp only
    split
    · rfl
    · rw [Registry.unknown_announce _ s.watchers quiet]

theorem isQuiet_delete (s : Store) (k : Kind) (name : String) (scope : Option String)
    (quiet : s.IsQuiet) : (s.delete k name scope).state.IsQuiet := by
  rw [delete_eq]
  cases s.cluster.find? k name scope with
  | none => exact quiet
  | some target =>
    dsimp only
    split
    · exact quiet
    · exact Registry.isSound_announce _ s.watchers quiet

end Store

theorem crowded_isQuiet : crowded.IsQuiet := by
  simp [Store.IsQuiet, Registry.IsSound, crowded, NamespaceWatcher.cancels]

namespace Console

open Cluster

/-- What a lookup can come to, by what the address selects. -/
theorem resolve_cases (c : Cluster) (k : Kind) (name : String) (scope : Option String) :
    (c.select k scope (some name) = [] ∧ resolve c k name scope = .error (.notFound k name)) ∨
    (∃ r other rest, c.select k scope (some name) = r :: other :: rest ∧
      scope = none ∧ k ≠ .namespaces ∧
      resolve c k name scope =
        .error (.ambiguous k name ((r :: other :: rest).filterMap (·.home?)))) ∨
    (∃ r rest, c.select k scope (some name) = r :: rest ∧
      (scope = none → k ≠ .namespaces → rest = []) ∧ resolve c k name scope = .ok r) := by
  cases selected : c.select k scope (some name) with
  | nil => exact Or.inl ⟨rfl, by simp [resolve, selected]⟩
  | cons r rest =>
    by_cases ambiguous : rest ≠ [] ∧ scope = none ∧ k ≠ .namespaces
    · obtain ⟨several, unscoped, namespaced⟩ := ambiguous
      obtain ⟨other, rest, rfl⟩ := List.exists_cons_of_ne_nil several
      subst unscoped
      refine Or.inr (Or.inl ⟨r, other, rest, rfl, rfl, namespaced, ?_⟩)
      simp [resolve, selected, (isNamespaced_iff k).mpr namespaced]
    · refine Or.inr (Or.inr ⟨r, rest, rfl, ?_, ?_⟩)
      · intro unscoped namespaced
        cases rest with
        | nil => rfl
        | cons other rest =>
          exact absurd ⟨List.cons_ne_nil other rest, unscoped, namespaced⟩ ambiguous
      · have single : (!rest.isEmpty && scope.isNone && k.isNamespaced) = false := by
          rw [← Bool.not_eq_true]
          simpa [Kind.isNamespaced, and_assoc] using ambiguous
        simp only [resolve, selected, single]
        rfl

theorem resolve_eq_ok_iff (c : Cluster) (k : Kind) (name : String) (scope : Option String)
    (r : k.Record) :
    resolve c k name scope = .ok r ↔ ∃ rest, c.select k scope (some name) = r :: rest ∧
      (scope = none → k ≠ .namespaces → rest = []) := by
  rcases resolve_cases c k name scope with ⟨selected, missed⟩ |
    ⟨first, other, rest, selected, unscoped, namespaced, missed⟩ | ⟨first, rest, selected, alone, found⟩
  · simp [selected, missed]
  · subst unscoped
    simp [selected, missed, namespaced]
  · rw [found, selected]
    constructor
    · intro same
      cases same
      exact ⟨rest, rfl, alone⟩
    · rintro ⟨rest', same, _⟩
      cases same
      rfl

theorem resolve_eq_notFound_iff (c : Cluster) (k : Kind) (name : String) (scope : Option String) :
    resolve c k name scope = .error (.notFound k name) ↔ c.select k scope (some name) = [] := by
  rcases resolve_cases c k name scope with ⟨selected, missed⟩ |
    ⟨first, other, rest, selected, _, _, missed⟩ | ⟨first, rest, selected, _, found⟩
  · simp [selected, missed]
  · simp [selected, missed]
  · simp [selected, found]

theorem resolve_find? (c : Cluster) (k : Kind) (name : String) (scope : Option String)
    (r : k.Record) (resolved : resolve c k name scope = .ok r) :
    c.find? k name scope = some r := by
  obtain ⟨rest, selected, _⟩ := (resolve_eq_ok_iff c k name scope r).mp resolved
  rw [find?, selected, List.head?_cons]

theorem resolve_mem (c : Cluster) (k : Kind) (name : String) (scope : Option String) (r : k.Record)
    (resolved : resolve c k name scope = .ok r) :
    r ∈ c.records k ∧ liesIn scope r = true ∧ r.name = name :=
  find?_mem c k name scope r (resolve_find? c k name scope r resolved)

theorem target_eq_ok_iff (c : Cluster) (cmd : Command) (k : Kind) (r : k.Record) :
    target c cmd = .ok ⟨k, r⟩ ↔
      cmd.kind = some k ∧ ∃ name, cmd.name = some name ∧ name ≠ "" ∧
        resolve c k name cmd.scope = .ok r := by
  unfold target
  split
  · simp_all
  · simp_all
  · simp_all
  · rename_i k' name empty kind named
    rw [kind, named]
    constructor
    · intro found
      cases resolved : resolve c k' name cmd.scope with
      | error e => simp [resolved, Except.map] at found
      | ok r' =>
        simp only [resolved, Except.map, Except.ok.injEq, Sigma.mk.injEq] at found
        obtain ⟨rfl, same⟩ := found
        cases same
        exact ⟨rfl, name, rfl, fun same => empty (by rw [same]) , resolved⟩
    · rintro ⟨same, name', rfl', _, resolved⟩
      cases same
      cases rfl'
      simp [resolved, Except.map]

/-- The namespace that a name is taken from: the one given, or else the only one it occurs in. -/
def IsHomeOf (c : Cluster) (k : Kind) (name : String) (scope : Option String) (home : String) : Prop :=
  (∃ r ∈ c.records k, r.name = name ∧ r.home? = some home) ∧
  match scope with
  | some given => home = given
  | none => ∀ r ∈ c.records k, r.name = name → r.home? = some home

theorem resolve_home (c : Cluster) (k : Kind) (name : String) (scope : Option String)
    (r : k.Record) (home : String) (resolved : resolve c k name scope = .ok r)
    (namespaced : k ≠ .namespaces) (at_home : r.home? = some home) :
    IsHomeOf c k name scope home := by
  obtain ⟨held, inScope, named⟩ := resolve_mem c k name scope r resolved
  refine ⟨⟨r, held, named, at_home⟩, ?_⟩
  cases scope with
  | some given =>
    rw [liesIn_some given k r namespaced, at_home] at inScope
    exact Option.some.inj inScope
  | none =>
    intro other member sameName
    obtain ⟨rest, selected, alone⟩ := (resolve_eq_ok_iff c k name none r).mp resolved
    have among : other ∈ c.select k none (some name) := by
      rw [mem_select]
      exact ⟨member, liesIn_none k other, (isNamed_some name k other).mpr sameName⟩
    rw [selected, alone rfl namespaced, List.mem_singleton] at among
    rw [among]
    exact at_home

theorem answerCommand_lists (now : Nat) (s : Store) (cmd : Command) (k : Kind)
    (verb : cmd.verb = .get) (kind : cmd.kind = some k) :
    (answerCommand now s cmd).result = (list s.cluster k cmd.scope cmd.name).mapError .fault := by
  simp only [answerCommand, verb, kind]

theorem answerCommand_reports (now : Nat) (s : Store) (cmd : Command) (k : Kind) (r : k.Record)
    (verb : cmd.verb = .describe) (found : target s.cluster cmd = .ok ⟨k, r⟩) :
    (answerCommand now s cmd).result = (Report.describe now r).mapError .fault := by
  simp only [answerCommand, verb, found]

/-- A command that needs a record is refused where its lookup is. -/
theorem answerCommand_refuses (now : Nat) (s : Store) (cmd : Command) (e : Command.Refusal)
    (verb : cmd.verb = .describe ∨ cmd.verb = .delete) (missed : target s.cluster cmd = .error e) :
    (answerCommand now s cmd).result = .error (.refused e) := by
  rcases verb with verb | verb
  · simp only [answerCommand, verb, missed, refuse]
  · simp only [answerCommand, verb, missed, refuse]

theorem mapError_ne_refused (x : Except Fault String) (e : Command.Refusal) :
    x.mapError Failure.fault ≠ .error (.refused e) := by
  cases x <;> nofun

theorem answerCommand_refused_iff (now : Nat) (s : Store) (cmd : Command) (e : Command.Refusal)
    (verb : cmd.verb = .describe ∨ cmd.verb = .delete) :
    (answerCommand now s cmd).result = .error (.refused e) ↔ target s.cluster cmd = .error e := by
  constructor
  · intro refused
    cases sought : target s.cluster cmd with
    | error e' =>
      rw [answerCommand_refuses now s cmd e' verb sought] at refused
      cases refused
      rfl
    | ok t =>
      exfalso
      rcases verb with verb | verb
      · rw [answerCommand_reports now s cmd t.1 t.2 verb sought] at refused
        exact mapError_ne_refused _ e refused
      · simp only [answerCommand, verb, sought] at refused
        split at refused <;> cases refused
  · exact answerCommand_refuses now s cmd e verb

/-- Whatever is not a deletion that finds its target leaves the store as it is, watchers included. -/
theorem answerCommand_keeps (now : Nat) (s : Store) (cmd : Command)
    (kept : cmd.verb = .delete → ∀ t, target s.cluster cmd ≠ .ok t) :
    (answerCommand now s cmd).state = s := by
  unfold answerCommand
  cases verb : cmd.verb with
  | get => cases cmd.kind <;> rfl
  | describe => cases target s.cluster cmd <;> rfl
  | delete =>
    cases found : target s.cluster cmd with
    | error e => rfl
    | ok t => exact absurd found (kept verb t)
  | apply => rfl
  | help => rfl

theorem answerCommand_deletes (now : Nat) (s : Store) (cmd : Command) (k : Kind) (r : k.Record)
    (deletes : cmd.verb = .delete) (found : target s.cluster cmd = .ok ⟨k, r⟩) :
    (answerCommand now s cmd).state = (s.delete k r.name r.home?).state ∧
    (answerCommand now s cmd).state.cluster = s.cluster.without r := by
  have same : (answerCommand now s cmd).state = (s.delete k r.name r.home?).state := by
    simp only [answerCommand, deletes, found]
  refine ⟨same, ?_⟩
  obtain ⟨_, name, _, _, resolved⟩ := (target_eq_ok_iff s.cluster cmd k r).mp found
  -- the record is looked up a second time, by its own name and namespace
  have again := find?_self s.cluster k name cmd.scope r
    (resolve_find? s.cluster k name cmd.scope r resolved)
  rw [same, Store.delete_cluster, again]

theorem answerCommand_confirms (now : Nat) (s : Store) (cmd : Command) (k : Kind) (r : k.Record)
    (deletes : cmd.verb = .delete) (found : target s.cluster cmd = .ok ⟨k, r⟩) (quiet : s.IsQuiet) :
    (answerCommand now s cmd).result = .ok s!"{k.singular}{k.group} \"{r.name}\" deleted" := by
  have result := Store.delete_result s k r.name r.home? quiet
  simp only [answerCommand, deletes, found, result]

/-- A command deletes the record that it addresses, or it leaves the store as it is. -/
theorem answerCommand_cases (now : Nat) (s : Store) (cmd : Command) :
    (∃ (k : Kind) (r : k.Record), cmd.verb = .delete ∧ target s.cluster cmd = .ok ⟨k, r⟩ ∧
      (answerCommand now s cmd).state = (s.delete k r.name r.home?).state ∧
      (answerCommand now s cmd).state.cluster = s.cluster.without r) ∨
    (answerCommand now s cmd).state = s := by
  by_cases deletes : cmd.verb = .delete ∧ ∃ t, target s.cluster cmd = .ok t
  · obtain ⟨verb, ⟨k, r⟩, found⟩ := deletes
    exact Or.inl ⟨k, r, verb, found, answerCommand_deletes now s cmd k r verb found⟩
  · exact Or.inr (answerCommand_keeps now s cmd fun verb t found => deletes ⟨verb, t, found⟩)

theorem isQuiet_answerCommand (now : Nat) (s : Store) (cmd : Command) (quiet : s.IsQuiet) :
    (answerCommand now s cmd).state.IsQuiet := by
  rcases answerCommand_cases now s cmd with ⟨k, r, _, _, deleted, _⟩ | kept
  · rw [deleted]
    exact s.isQuiet_delete k r.name r.home? quiet
  · rw [kept]
    exact quiet

theorem isQuiet_answerLine (now : Nat) (s : Store) (line : String) (quiet : s.IsQuiet) :
    (answerLine now s line).state.IsQuiet := by
  unfold answerLine
  cases Command.ofLine line with
  | error e => exact quiet
  | ok cmd => exact isQuiet_answerCommand now s cmd quiet

/-- The line is a deletion, and its lookup finds the record. -/
def Deletes (c : Cluster) (line : String) (k : Kind) (r : k.Record) : Prop :=
  ∃ cmd, Command.ofLine line = .ok cmd ∧ cmd.verb = .delete ∧ target c cmd = .ok ⟨k, r⟩

theorem answerLine_keeps (now : Nat) (s : Store) (line : String)
    (kept : ∀ k r, ¬ Deletes s.cluster line k r) : (answerLine now s line).state = s := by
  unfold answerLine
  cases parsed : Command.ofLine line with
  | error e => rfl
  | ok cmd =>
    refine answerCommand_keeps now s cmd ?_
    rintro deletes ⟨k, r⟩ found
    exact kept k r ⟨cmd, parsed, deletes, found⟩

theorem answerLine_deletes (now : Nat) (s : Store) (line : String) (k : Kind) (r : k.Record)
    (deletes : Deletes s.cluster line k r) :
    (answerLine now s line).state.cluster = s.cluster.without r := by
  obtain ⟨cmd, parsed, verb, found⟩ := deletes
  simp only [answerLine, parsed]
  exact (answerCommand_deletes now s cmd k r verb found).2

theorem answerLine_confirms (now : Nat) (s : Store) (line : String) (k : Kind) (r : k.Record)
    (deletes : Deletes s.cluster line k r) (quiet : s.IsQuiet) :
    (answerLine now s line).result =
      .ok { text := s!"{k.singular}{k.group} \"{r.name}\" deleted" } := by
  obtain ⟨cmd, parsed, verb, found⟩ := deletes
  simp only [answerLine, parsed]
  rw [answerCommand_confirms now s cmd k r verb found quiet]

/-- A deletion that finds its target does change the cluster. -/
theorem answerLine_changes_iff (now : Nat) (s : Store) (line : String) :
    (answerLine now s line).state.cluster ≠ s.cluster ↔ ∃ k r, Deletes s.cluster line k r := by
  constructor
  · intro changed
    by_contra none
    refine changed (congrArg Store.cluster (answerLine_keeps now s line ?_))
    intro k r deletes
    exact none ⟨k, r, deletes⟩
  · rintro ⟨k, r, deletes⟩
    rw [answerLine_deletes now s line k r deletes]
    obtain ⟨cmd, _, _, found⟩ := deletes
    obtain ⟨_, name, _, _, resolved⟩ := (target_eq_ok_iff s.cluster cmd k r).mp found
    exact without_ne s.cluster k r (resolve_mem s.cluster k name cmd.scope r resolved).1

/-- Answering a line changes the cluster exactly where the line is a deletion that finds its target;
refusals and faults leave it as it was. A deletion of a namespaced kind takes the records of that
kind with the name in the one namespace it addresses, a deletion of a namespace takes the namespaces
of that name and all that lies in them; everything else stays, in its order. -/
theorem answerLine_effects (now : Nat) (s : Store) (line : String) (quiet : s.IsQuiet) :
    let step := answerLine now s line
    (step.state.cluster ≠ s.cluster ↔ ∃ k r, Deletes s.cluster line k r) ∧
    (∀ reply, step.result = .ok reply → reply.isError = true → step.state.cluster = s.cluster) ∧
    (∀ f, step.result = .error f → step.state.cluster = s.cluster) ∧
    ∀ cmd k r, Command.ofLine line = .ok cmd → cmd.verb = .delete →
      target s.cluster cmd = .ok ⟨k, r⟩ →
      ∃ name, cmd.kind = some k ∧ cmd.name = some name ∧
        step.result = .ok { text := s!"{k.singular}{k.group} \"{name}\" deleted" } ∧
        (k = .namespaces → s.cluster.LosesNamespace step.state.cluster name) ∧
        (k ≠ .namespaces → ∃ home, IsHomeOf s.cluster k name cmd.scope home ∧
          s.cluster.LosesNamed step.state.cluster k name home) := by
  dsimp only
  -- an answer that is not the confirmation cannot come from a deletion
  have unchanged : (∀ k r, ¬ Deletes s.cluster line k r) →
      (answerLine now s line).state.cluster = s.cluster := by
    intro none
    exact congrArg Store.cluster (answerLine_keeps now s line none)
  refine ⟨answerLine_changes_iff now s line, ?_, ?_, ?_⟩
  · intro reply answered isError
    refine unchanged fun k r deletes => ?_
    rw [answerLine_confirms now s line k r deletes quiet] at answered
    cases answered
    cases isError
  · intro f faulted
    refine unchanged fun k r deletes => ?_
    rw [answerLine_confirms now s line k r deletes quiet] at faulted
    cases faulted
  · intro cmd k r parsed verb found
    have deletes : Deletes s.cluster line k r := ⟨cmd, parsed, verb, found⟩
    have confirmed := answerLine_confirms now s line k r deletes quiet
    have after := answerLine_deletes now s line k r deletes
    obtain ⟨kind, name, named, _, resolved⟩ := (target_eq_ok_iff s.cluster cmd k r).mp found
    have sameName : r.name = name := (resolve_mem s.cluster k name cmd.scope r resolved).2.2
    rw [sameName] at confirmed
    refine ⟨name, kind, named, confirmed, ?_, ?_⟩
    · intro isNamespace
      subst isNamespace
      rw [after, ← sameName]
      exact losesNamespace_without s.cluster r
    · intro namespaced
      obtain ⟨home, at_home⟩ := exists_home k r namespaced
      have isHome := resolve_home s.cluster k name cmd.scope r home resolved namespaced at_home
      refine ⟨home, isHome, ?_⟩
      rw [after, ← sameName]
      exact losesNamed_without s.cluster k r home namespaced at_home

/-- Both `web` pods of `blue` go, the one of `green` between them stays. -/
theorem answerLine_effects_web :
    crowded.IsQuiet ∧
    (answerLine 0 crowded "kubectl delete po web -n blue").state.cluster ≠ crowded.cluster ∧
    crowded.cluster.LosesNamed
      (answerLine 0 crowded "kubectl delete po web -n blue").state.cluster .pods "web" "blue" := by
  have effects := answerLine_effects 0 crowded "kubectl delete po web -n blue" crowded_isQuiet
  obtain ⟨changes, _, _, taken⟩ := effects
  have found : Console.target crowded.cluster
      { verb := .delete, kind := some .pods, name := some "web", scope := some "blue" } =
      .ok ⟨.pods, crowdedPod "web" "blue" "5d"⟩ := rfl
  obtain ⟨name, _, named, _, _, losesNamed⟩ := taken _ _ _ rfl rfl found
  obtain ⟨home, ⟨_, given⟩, loses⟩ := losesNamed (by decide)
  cases named
  cases given
  exact ⟨crowded_isQuiet, changes.mpr ⟨_, _, _, rfl, rfl, found⟩, loses⟩

end Console

end ClusterInspector
