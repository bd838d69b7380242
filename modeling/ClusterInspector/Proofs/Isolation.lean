import ClusterInspector.Proofs.Deletion

/-!
# Isolation of namespaces

What a command addressed to a namespace answers, and what it takes away, depends on what lies in that
namespace and on nothing else of the store. Two stores that agree there keep answering such commands
alike and keep agreeing, whatever else is done to each of them in between, as long as that deletes
neither the namespace nor anything in it.
-/
namespace ClusterInspector

namespace Cluster

/-- What lies in the namespace is the same in both clusters, in the same order. -/
def AgreesIn (home : String) (c c' : Cluster) : Prop :=
  ∀ k ≠ Kind.namespaces, c.select k (some home) none = c'.select k (some home) none

namespace AgreesIn

variable {home : String} {a b c : Cluster}

theorem refl (home : String) (c : Cluster) : c.AgreesIn home c := fun _ _ => rfl

theorem symm (agree : a.AgreesIn home b) : b.AgreesIn home a :=
  fun k namespaced => (agree k namespaced).symm

theorem trans (first : a.AgreesIn home b) (second : b.AgreesIn home c) : a.AgreesIn home c :=
  fun k namespaced => (first k namespaced).trans (second k namespaced)

end AgreesIn

theorem select_eq_filter (c : Cluster) (k : Kind) (scope name : Option String) :
    c.select k scope name = (c.select k scope none).filter (isNamed name) := by
  simp [select, List.filter_filter, isNamed, Bool.and_comm]

theorem AgreesIn.select {home : String} {c c' : Cluster} (agree : c.AgreesIn home c') (k : Kind)
    (namespaced : k ≠ .namespaces) (name : Option String) :
    c.select k (some home) name = c'.select k (some home) name := by
  rw [select_eq_filter, agree k namespaced, ← select_eq_filter]

/-- One and the same deletion keeps what agreed in agreement. -/
theorem AgreesIn.without {home : String} {c c' : Cluster} (agree : c.AgreesIn home c') (k : Kind)
    (target : k.Record) : (c.without target).AgreesIn home (c'.without target) := by
  intro k' namespaced
  rw [select_without, select_without, agree k' namespaced]

/-- The target is another namespace, or lies in another one. -/
def IsElsewhere (home : String) {k : Kind} (target : k.Record) : Prop :=
  if k = .namespaces then target.name ≠ home else target.home? ≠ some home

theorem goesWith_elsewhere (home : String) (k k' : Kind) (target : k.Record) (r : k'.Record)
    (elsewhere : IsElsewhere home target) (namespaced : k' ≠ .namespaces)
    (lies : r.home? = some home) : goesWith target r = false := by
  unfold IsElsewhere at elsewhere
  rw [← Bool.not_eq_true]
  intro goes
  by_cases same : k' = k
  · subst same
    rw [if_neg namespaced] at elsewhere
    have sameHome := ((goesWith_same_kind k' target r).mp goes).2
    exact elsewhere (sameHome.symm.trans lies)
  · obtain ⟨isNamespace, named⟩ := (goesWith_other_kind k k' target r same).mp goes
    rw [if_pos isNamespace] at elsewhere
    rw [lies] at named
    exact elsewhere (Option.some.inj named).symm

theorem agreesIn_without (home : String) (c : Cluster) (k : Kind) (target : k.Record)
    (elsewhere : IsElsewhere home target) : c.AgreesIn home (c.without target) := by
  intro k' namespaced
  rw [select_without, eq_comm, List.filter_eq_self]
  intro r member
  have lies := (liesIn_some home k' r namespaced).mp (mem_select.mp member).2.1
  rw [goesWith_elsewhere home k k' target r elsewhere namespaced lies, Bool.not_false]

end Cluster

theorem Store.delete_result_namespaced (s : Store) (k : Kind) (name : String)
    (scope : Option String) (namespaced : k ≠ .namespaces) :
    (s.delete k name scope).result = .ok (s.cluster.find? k name scope) := by
  rw [delete_eq]
  cases s.cluster.find? k name scope with
  | none => rfl
  | some target => simp only [(Cluster.isNamespaced_iff k).mpr namespaced, if_true]

namespace Console

open Cluster

/-- The command lists, reports on or deletes records of a kind that lie in the namespace. -/
structure IsWithin (home : String) (cmd : Command) : Prop where
  verb : cmd.verb = .get ∨ cmd.verb = .describe ∨ cmd.verb = .delete
  kind : ∃ k, cmd.kind = some k ∧ k ≠ .namespaces
  scope : cmd.scope = some home

/-- The command is no deletion, or it deletes in another namespace that it names, or it deletes
another namespace. -/
def Spares (home : String) (cmd : Command) : Prop :=
  cmd.verb = .delete →
    (∃ k other, cmd.kind = some k ∧ k ≠ .namespaces ∧ cmd.scope = some other ∧ other ≠ home) ∨
    (cmd.kind = some .namespaces ∧ cmd.name ≠ some home)

theorem list_agrees (home : String) (c c' : Cluster) (agree : c.AgreesIn home c') (k : Kind)
    (namespaced : k ≠ .namespaces) (name : Option String) :
    list c k (some home) name = list c' k (some home) name := by
  rw [list, list, agree.select k namespaced name]

theorem target_agrees (home : String) (c c' : Cluster) (agree : c.AgreesIn home c') (cmd : Command)
    (within : IsWithin home cmd) : target c cmd = target c' cmd := by
  obtain ⟨k, kind, namespaced⟩ := within.kind
  have resolved : ∀ name, resolve c k name (some home) = resolve c' k name (some home) := by
    intro name
    rw [resolve, resolve, agree.select k namespaced (some name)]
  unfold target
  rw [kind, within.scope]
  split
  · rfl
  · rfl
  · rfl
  · rename_i same _
    cases same
    rw [resolved]

/-- The confirmation of a deletion within a namespace needs nothing of the watchers: they are not
told. -/
theorem answerCommand_confirms_namespaced (now : Nat) (s : Store) (cmd : Command) (k : Kind)
    (r : k.Record) (deletes : cmd.verb = .delete) (found : target s.cluster cmd = .ok ⟨k, r⟩)
    (namespaced : k ≠ .namespaces) :
    (answerCommand now s cmd).result = .ok s!"{k.singular}{k.group} \"{r.name}\" deleted" := by
  have result := s.delete_result_namespaced k r.name r.home? namespaced
  simp only [answerCommand, deletes, found, result]

/-- A command within the namespace cannot tell stores that agree there apart, nor does it make them
differ. -/
theorem answerCommand_agrees (now : Nat) (home : String) (s s' : Store)
    (agree : s.cluster.AgreesIn home s'.cluster) (cmd : Command) (within : IsWithin home cmd) :
    (answerCommand now s cmd).result = (answerCommand now s' cmd).result ∧
    (answerCommand now s cmd).state.cluster.AgreesIn home
      (answerCommand now s' cmd).state.cluster := by
  have sameTarget := target_agrees home s.cluster s'.cluster agree cmd within
  -- what is not a deletion leaves both stores as they are
  have unchanged : cmd.verb ≠ .delete →
      (answerCommand now s cmd).state.cluster.AgreesIn home
        (answerCommand now s' cmd).state.cluster := by
    intro other
    rw [answerCommand_keeps now s cmd fun verb => absurd verb other,
      answerCommand_keeps now s' cmd fun verb => absurd verb other]
    exact agree
  obtain ⟨k, kind, namespaced⟩ := within.kind
  rcases within.verb with verb | verb | verb
  · refine ⟨?_, unchanged (by simp [verb])⟩
    rw [answerCommand_lists now s cmd k verb kind, answerCommand_lists now s' cmd k verb kind,
      within.scope, list_agrees home s.cluster s'.cluster agree k namespaced]
  · refine ⟨?_, unchanged (by simp [verb])⟩
    cases found : target s.cluster cmd with
    | error e =>
      rw [answerCommand_refuses now s cmd e (Or.inl verb) found,
        answerCommand_refuses now s' cmd e (Or.inl verb) (sameTarget ▸ found)]
    | ok t =>
      obtain ⟨k', r⟩ := t
      rw [answerCommand_reports now s cmd k' r verb found,
        answerCommand_reports now s' cmd k' r verb (sameTarget ▸ found)]
  · cases found : target s.cluster cmd with
    | error e =>
      have found' : target s'.cluster cmd = .error e := sameTarget ▸ found
      rw [answerCommand_refuses now s cmd e (Or.inr verb) found,
        answerCommand_refuses now s' cmd e (Or.inr verb) found',
        answerCommand_keeps now s cmd (by simp [found]),
        answerCommand_keeps now s' cmd (by simp [found'])]
      exact ⟨rfl, agree⟩
    | ok t =>
      obtain ⟨k', r⟩ := t
      have found' : target s'.cluster cmd = .ok ⟨k', r⟩ := sameTarget ▸ found
      obtain ⟨sameKind, _⟩ := (target_eq_ok_iff s.cluster cmd k' r).mp found
      rw [kind] at sameKind
      cases sameKind
      rw [answerCommand_confirms_namespaced now s cmd k r verb found namespaced,
        answerCommand_confirms_namespaced now s' cmd k r verb found' namespaced,
        (answerCommand_deletes now s cmd k r verb found).2,
        (answerCommand_deletes now s' cmd k r verb found').2]
      exact ⟨rfl, agree.without k r⟩

/-- A command that spares the namespace leaves what lies in it as it was. -/
theorem answerCommand_spares (now : Nat) (home : String) (s : Store) (cmd : Command)
    (spares : Spares home cmd) :
    s.cluster.AgreesIn home (answerCommand now s cmd).state.cluster := by
  rcases answerCommand_cases now s cmd with ⟨k, r, verb, found, _, left⟩ | kept
  · rw [left]
    refine agreesIn_without home s.cluster k r ?_
    obtain ⟨kind, name, named, _, resolved⟩ := (target_eq_ok_iff s.cluster cmd k r).mp found
    obtain ⟨_, inScope, sameName⟩ := resolve_mem s.cluster k name cmd.scope r resolved
    unfold IsElsewhere
    rcases spares verb with ⟨k', other, kind', namespaced, scope, different⟩ | ⟨kind', different⟩
    · rw [kind] at kind'
      cases kind'
      rw [scope] at inScope
      rw [if_neg namespaced, (liesIn_some other k r namespaced).mp inScope]
      simpa using different
    · rw [kind] at kind'
      cases kind'
      rw [if_pos rfl, sameName]
      simpa [named] using different
  · rw [kept]
    exact .refl home s.cluster

/-- A command given in a run: one that is looked at, or one that comes in between. -/
inductive Turn where
  | watched (cmd : Command)
  | between (cmd : Command)
  deriving DecidableEq, Repr

namespace Turn

def command : Turn → Command
  | watched cmd | between cmd => cmd

def watched? : Turn → Option Command
  | watched cmd => some cmd
  | between _ => none

/-- What is looked at is within the namespace, and what comes in between spares it. -/
def Respects (home : String) : Turn → Prop
  | watched cmd => IsWithin home cmd
  | between cmd => Spares home cmd

end Turn

/-- The store after a run. -/
def after (now : Nat) (s : Store) (turns : List Turn) : Store :=
  turns.foldl (fun s turn => (answerCommand now s turn.command).state) s

/-- What the commands that are looked at come to. -/
def outcomes (now : Nat) : Store → List Turn → List (Except Failure String)
  | _, [] => []
  | s, .watched cmd :: rest =>
    (answerCommand now s cmd).result :: outcomes now (answerCommand now s cmd).state rest
  | s, .between cmd :: rest => outcomes now (answerCommand now s cmd).state rest

/-- A run comes to the same as the commands that are looked at, given alone to a store that agrees. -/
theorem outcomes_watched (now : Nat) (home : String) (s s' : Store)
    (agree : s.cluster.AgreesIn home s'.cluster) (turns : List Turn)
    (respects : ∀ turn ∈ turns, turn.Respects home) :
    let alone := (turns.filterMap Turn.watched?).map Turn.watched
    outcomes now s turns = outcomes now s' alone ∧
    (after now s turns).cluster.AgreesIn home (after now s' alone).cluster := by
  induction turns generalizing s s' with
  | nil => exact ⟨rfl, agree⟩
  | cons turn rest ih =>
    have others : ∀ turn ∈ rest, turn.Respects home :=
      fun turn member => respects turn (List.mem_cons_of_mem _ member)
    cases turn with
    | watched cmd =>
      have within : IsWithin home cmd := respects (.watched cmd) List.mem_cons_self
      obtain ⟨result, still⟩ := answerCommand_agrees now home s s' agree cmd within
      obtain ⟨results, final⟩ := ih _ _ still others
      exact ⟨by simp only [outcomes, List.filterMap_cons, Turn.watched?, List.map_cons, result,
        results], final⟩
    | between cmd =>
      have spares : Spares home cmd := respects (.between cmd) List.mem_cons_self
      have kept := answerCommand_spares now home s cmd spares
      exact ih _ s' (kept.symm.trans agree) others

/-- Two stores that agree in a namespace answer the same commands on it alike, one by one, and agree
in it afterwards, whatever commands that spare the namespace come in between in either of them. -/
theorem namespaces_isolated (now : Nat) (home : String) (s s' : Store)
    (agree : s.cluster.AgreesIn home s'.cluster) (turns turns' : List Turn)
    (respects : ∀ turn ∈ turns, turn.Respects home)
    (respects' : ∀ turn ∈ turns', turn.Respects home)
    (same : turns.filterMap Turn.watched? = turns'.filterMap Turn.watched?) :
    outcomes now s turns = outcomes now s' turns' ∧
    (after now s turns).cluster.AgreesIn home (after now s' turns').cluster := by
  obtain ⟨results, final⟩ := outcomes_watched now home s s' agree turns respects
  obtain ⟨results', final'⟩ := outcomes_watched now home s' s' (.refl home _) turns' respects'
  rw [same] at results final
  exact ⟨results.trans results'.symm, final.trans final'.symm⟩

/-- What lies in `green` and one pod of another namespace. -/
def sparse : Store where
  cluster := {
    namespaces := [⟨"green", "Active", "1h"⟩]
    pods := [crowdedPod "web" "red" "2d", crowdedPod "web" "green" "1d",
      crowdedPod "job" "green" "1000000d"]
    deployments := [⟨"api", "green", "2/2", 2, 2, "3d"⟩]
    daemonsets := [⟨"agent", "green", 3, 3, 2, 3, 2, "8d"⟩] }

/-- One store loses `blue` before the pod `web` of `green` is deleted, the other a pod of `red`
afterwards. The job's report meets a limit in both. -/
theorem namespaces_isolated_green :
    let gone : Command :=
      { verb := .delete, kind := some .pods, name := some "web", scope := some "green" }
    let report : Command := { gone with verb := .describe, name := some "job" }
    let turns : List Turn :=
      [.between { verb := .delete, kind := some .namespaces, name := some "blue" },
        .watched gone, .watched gone, .watched report]
    let turns' : List Turn :=
      [.watched gone, .between { gone with scope := some "red" }, .watched gone,
        .between { verb := .get, kind := some .pods }, .watched report]
    crowded.cluster.AgreesIn "green" sparse.cluster ∧
    outcomes noon crowded turns = outcomes noon sparse turns' ∧
    (after noon crowded turns).cluster.AgreesIn "green" (after noon sparse turns').cluster := by
  intro gone report turns turns'
  have agree : crowded.cluster.AgreesIn "green" sparse.cluster := by
    intro k namespaced
    cases k with
    | namespaces => contradiction
    | pods => rfl
    | deployments => rfl
    | daemonsets => rfl
  have within : IsWithin "green" gone := ⟨by decide, ⟨.pods, rfl, by decide⟩, rfl⟩
  have reports : IsWithin "green" report := ⟨by decide, ⟨.pods, rfl, by decide⟩, rfl⟩
  have respects : ∀ turn ∈ turns, turn.Respects "green" := by
    simp only [turns, List.forall_mem_cons]
    exact ⟨fun _ => Or.inr ⟨rfl, by decide⟩, within, within, reports, List.forall_mem_nil _⟩
  have respects' : ∀ turn ∈ turns', turn.Respects "green" := by
    simp only [turns', List.forall_mem_cons]
    exact ⟨within, fun _ => Or.inl ⟨.pods, "red", rfl, by decide, rfl, by decide⟩, within, nofun,
      reports, List.forall_mem_nil _⟩
  exact ⟨agree, namespaces_isolated noon "green" crowded sparse agree turns turns' respects respects'
    rfl⟩

end Console

end ClusterInspector
