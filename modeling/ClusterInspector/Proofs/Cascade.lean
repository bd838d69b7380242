import ClusterInspector.Proofs.Notices

/-!
# What a deletion comes to

A deletion finds the first record that matches, and has its effects one after the other. Those who
watched when it began are told one at a time, each of them free to change who is registered; whoever is
told finds the cluster as it is at the end.
-/
namespace ClusterInspector

namespace Cluster

/-- The record has the name, and is in the namespace if one is given and the kind lies in any. -/
structure IsMatch (name : String) (scope : Option String) {k : Kind} (r : k.Record) : Prop where
  named : r.name = name
  inside : k ≠ .namespaces → ∀ home, scope = some home → r.home? = some home

theorem isMatch_iff (name : String) (scope : Option String) (k : Kind) (r : k.Record) :
    IsMatch name scope r ↔ (liesIn scope r && isNamed (some name) r) = true := by
  rw [Bool.and_eq_true, isNamed_some]
  constructor
  · rintro ⟨named, inside⟩
    refine ⟨?_, named⟩
    cases scope with
    | none => rfl
    | some home =>
      by_cases namespaced : k = .namespaces
      · subst namespaced
        rfl
      · exact (liesIn_some home k r namespaced).mpr (inside namespaced home rfl)
  · rintro ⟨inScope, named⟩
    refine ⟨named, ?_⟩
    rintro namespaced home rfl
    exact (liesIn_some home k r namespaced).mp inScope

/-- The record matches, and none before it does. -/
structure IsFirst (c : Cluster) (k : Kind) (name : String) (scope : Option String) (t : k.Record) :
    Prop where
  isMatch : IsMatch name scope t
  none_before : ∃ before after, c.records k = before ++ t :: after ∧
    ∀ r ∈ before, ¬ IsMatch name scope r

theorem isFirst_of_find? (c : Cluster) (k : Kind) (name : String) (scope : Option String)
    (t : k.Record) (found : c.find? k name scope = some t) : c.IsFirst k name scope t := by
  rw [find?_eq_find?] at found
  obtain ⟨matched, before, after, split, passed⟩ := List.find?_eq_some_iff_append.mp found
  refine ⟨(isMatch_iff name scope k t).mpr matched, before, after, split, ?_⟩
  intro r member
  rw [isMatch_iff, Bool.not_eq_true]
  exact (Bool.not_eq_true' _).mp (passed r member)

theorem find?_eq_none_iff (c : Cluster) (k : Kind) (name : String) (scope : Option String) :
    c.find? k name scope = none ↔ ∀ r ∈ c.records k, ¬ IsMatch name scope r := by
  simp only [find?_eq_find?, List.find?_eq_none, isMatch_iff]

/-- No more than what was held is lost, so the sizes add up. -/
theorem size_without_add_lost (c : Cluster) (k : Kind) (target : k.Record) (k' : Kind) :
    (c.without target).size k' + c.lost target k' = c.size k' := by
  have less : (c.without target).size k' ≤ c.size k' := by
    rw [size, size, records_without]
    exact List.length_filter_le _ _
  rw [lost]
  omega

end Cluster

namespace Store

theorem foldl_sweeps {k : Kind} (target : k.Record) (s : Store) (kinds : List Kind) :
    (kinds.map Effect.sweeps).foldl (undergo target) s =
      { s with cluster := kinds.foldl (fun c swept => c.sweep target swept) s.cluster } := by
  induction kinds generalizing s with
  | nil => rfl
  | cons swept rest ih => exact ih _

theorem undergo_tells_cluster {k : Kind} (target : k.Record) (s : Store) (w : NamespaceWatcher) :
    (s.undergo target (.tells w)).cluster = s.cluster := by
  unfold undergo
  dsimp only
  split <;> rfl

/-- Those who are told in the course of effects, each with the store that it finds. -/
def audience {k : Kind} (target : k.Record) : Store → List Effect → List (NamespaceWatcher × Store)
  | _, [] => []
  | s, .tells w :: rest => (w, s) :: audience target (s.undergo target (.tells w)) rest
  | s, e :: rest => audience target (s.undergo target e) rest

theorem audience_append {k : Kind} (target : k.Record) (s : Store) (es es' : List Effect) :
    audience target s (es ++ es') =
      audience target s es ++ audience target (es.foldl (undergo target) s) es' := by
  induction es generalizing s with
  | nil => rfl
  | cons e rest ih =>
    cases e with
    | sweeps k' => exact ih _
    | notes d => exact ih _
    | tells w => exact congrArg ((w, s) :: ·) (ih _)

theorem audience_sweeps {k : Kind} (target : k.Record) (s : Store) (kinds : List Kind) :
    audience target s (kinds.map .sweeps) = [] := by
  induction kinds generalizing s with
  | nil => rfl
  | cons swept rest ih => exact ih _

/-- Whoever is told by name is called once, and finds the cluster that all the others find. -/
theorem audience_tells {k : Kind} (target : k.Record) (s : Store) (watchers : List NamespaceWatcher) :
    (audience target s (watchers.map .tells)).map Prod.fst = watchers ∧
    ∀ p ∈ audience target s (watchers.map .tells), p.2.cluster = s.cluster := by
  induction watchers generalizing s with
  | nil => exact ⟨rfl, nofun⟩
  | cons w rest ih =>
    obtain ⟨told, seen⟩ := ih (s.undergo target (.tells w))
    refine ⟨congrArg (w :: ·) told, ?_⟩
    intro p member
    rcases List.mem_cons.mp member with rfl | later
    · rfl
    · exact (seen p later).trans (undergo_tells_cluster target s w)

theorem effects_namespace (s : Store) (t : Kind.namespaces.Record) :
    s.effects t = Kind.all.map .sweeps ++ .notes (deleted s.cluster t) ::
      s.watchers.active.map .tells := rfl

/-- When the first watcher of a namespace is told, all that goes with it has left. -/
theorem foldl_sweeps_all (s : Store) (t : Kind.namespaces.Record) :
    (Kind.all.map Effect.sweeps).foldl (undergo t) s =
      { s with cluster := s.cluster.without t } := by
  rw [foldl_sweeps, Cluster.sweep_all]

theorem audience_effects (s : Store) (t : Kind.namespaces.Record) :
    (audience t s (s.effects t)).map Prod.fst = s.watchers.active ∧
    ∀ p ∈ audience t s (s.effects t), p.2.cluster = s.cluster.without t := by
  rw [effects_namespace, audience_append, audience_sweeps, List.nil_append, foldl_sweeps_all]
  exact audience_tells t { s with cluster := s.cluster.without t } s.watchers.active

/-- The deletion has the effects of deleting the target, in their order, and no others. -/
structure FollowsCourse {k : Kind} (s : Store) (t : k.Record)
    (step : Step Store Fault (Option k.Record)) : Prop where
  state : step.state = (s.effects t).foldl (undergo t) s
  events : step.events = (s.effects t).filterMap (·.event? t.name)

theorem followsCourse_of_found (s : Store) (k : Kind) (name : String) (scope : Option String)
    (t : k.Record) (found : s.cluster.find? k name scope = some t) (quiet : s.IsQuiet) :
    s.FollowsCourse t (s.delete k name scope) := by
  have result := s.delete_result k name scope quiet
  have step : s.delete k name scope = (s.undergoAll t (s.effects t)).andThen fun s' _ =>
      { state := s', result := .ok (some t) } := by simp only [delete, found]
  cases ended : (s.undergoAll t (s.effects t)).result with
  | error f =>
    rw [step, Step.andThen_of_error ended] at result
    cases result
  | ok _ =>
    obtain ⟨state, events⟩ := undergoAll_of_ok t s _ ended
    rw [step, Step.andThen_of_ok ended]
    refine ⟨state, ?_⟩
    rw [List.append_nil]
    exact events

/-- A record that lies in a namespace is deleted, with those of its kind that share its name and
namespace, and nobody is told. -/
structure TakesRecord {k : Kind} (s : Store) (t : k.Record) (home : String)
    (step : Step Store Fault (Option k.Record)) : Prop where
  loses : s.cluster.LosesNamed step.state.cluster k t.name home
  spares : ∀ r ∈ s.cluster.records k, r.home? ≠ some home → r ∈ step.state.cluster.records k
  watchers : step.state.watchers = s.watchers
  events : step.events = [.diagnostic ⟨.info, s!"Deleted {k.singular} {home}/{t.name}"⟩]

/-- What is noted of a namespace that is gone, with the numbers of records that went with it. -/
def cascaded (name : String) (pods deployments daemonsets : Nat) : Diagnostic :=
  ⟨.info, s!"Deleted namespace {name} (cascaded: {pods} pods, " ++
    s!"{deployments} deployments, {daemonsets} daemonsets)"⟩

/-- A namespace is deleted with all that lies in it, and those who were registered when it began are
told once each, when this is done. -/
structure TakesNamespace {k : Kind} (s : Store) (t : k.Record)
    (step : Step Store Fault (Option k.Record)) : Prop where
  loses : s.cluster.LosesNamespace step.state.cluster t.name
  vacates : ∀ k', ∀ r ∈ step.state.cluster.records k', r.home? ≠ some t.name
  events : ∃ pods deployments daemonsets,
    step.events = .diagnostic (cascaded t.name pods deployments daemonsets) ::
      s.watchers.active.map (.namespaceGone · t.name) ∧
    step.state.cluster.size .pods + pods = s.cluster.size .pods ∧
    step.state.cluster.size .deployments + deployments = s.cluster.size .deployments ∧
    step.state.cluster.size .daemonsets + daemonsets = s.cluster.size .daemonsets
  tells : (audience t s (s.effects t)).map Prod.fst = s.watchers.active
  shows : ∀ p ∈ audience t s (s.effects t), p.2.cluster = step.state.cluster

theorem takesRecord_of_found (s : Store) (k : Kind) (name : String) (scope : Option String)
    (t : k.Record) (home : String) (found : s.cluster.find? k name scope = some t)
    (namespaced : k ≠ .namespaces) (lies : t.home? = some home) :
    s.TakesRecord t home (s.delete k name scope) := by
  rw [s.delete_named k name scope t found namespaced]
  have loses := s.cluster.losesNamed_without k t home namespaced lies
  refine ⟨loses, ?_, rfl, ?_⟩
  · intro r held elsewhere
    rw [loses.named, List.mem_filter]
    exact ⟨held, by simp [elsewhere]⟩
  · simp only [deleted, lies]

theorem takesNamespace_of_found (s : Store) (name : String) (scope : Option String)
    (t : Kind.namespaces.Record) (found : s.cluster.find? .namespaces name scope = some t)
    (quiet : s.IsQuiet) : s.TakesNamespace t (s.delete .namespaces name scope) := by
  rw [s.delete_namespace name scope t found quiet]
  obtain ⟨told, seen⟩ := s.audience_effects t
  have loses := s.cluster.losesNamespace_without t
  have adds := s.cluster.size_without_add_lost .namespaces t
  refine ⟨loses, ?_, ⟨_, _, _, rfl, adds .pods, adds .deployments, adds .daemonsets⟩, told, seen⟩
  intro k' r held lies
  by_cases namespaced : k' = .namespaces
  · subst namespaced
    cases lies
  · rw [loses.housed k' namespaced, List.mem_filter] at held
    simp [lies] at held

/-- A deletion comes back with nothing exactly where no record matches, and then nothing happens. Else it
takes the first match, with those of its kind, name and namespace. Only for a namespace are watchers told:
each registration that there was when the deletion began, once, in order, whatever those told before
it cancelled; each finds the cluster as it is at the end. -/
theorem deletion_outcome (s : Store) (k : Kind) (name : String) (scope : Option String)
    (quiet : s.IsQuiet) :
    let step := s.delete k name scope
    (step.result = .ok none ↔ ∀ r ∈ s.cluster.records k, ¬ Cluster.IsMatch name scope r) ∧
    (step.result = .ok none → step.state = s ∧ step.events = []) ∧
    (step.result ≠ .ok none → ∃ t, step.result = .ok (some t) ∧
      s.cluster.IsFirst k name scope t ∧ s.FollowsCourse t step ∧
      (k ≠ .namespaces → ∃ home, t.home? = some home ∧ s.TakesRecord t home step) ∧
      (k = .namespaces → s.TakesNamespace t step)) := by
  dsimp only
  have result := s.delete_result k name scope quiet
  rw [result, ← Cluster.find?_eq_none_iff]
  cases found : s.cluster.find? k name scope with
  | none =>
    refine ⟨⟨fun _ => rfl, fun _ => rfl⟩, fun _ => ?_, fun hit => absurd rfl hit⟩
    simp only [delete, found, and_self]
  | some t =>
    have given : (Except.ok (some t) : Except Fault (Option k.Record)) ≠ .ok none := by
      intro same
      cases same
    refine ⟨iff_of_false given (Option.some_ne_none t), fun same => absurd same given,
      fun _ => ⟨t, rfl, ?_, ?_, ?_, ?_⟩⟩
    · exact s.cluster.isFirst_of_find? k name scope t found
    · exact s.followsCourse_of_found k name scope t found quiet
    · intro namespaced
      obtain ⟨home, lies⟩ := Cluster.exists_home k t namespaced
      exact ⟨home, lies, s.takesRecord_of_found k name scope t home found namespaced lies⟩
    · intro isNamespace
      subst isNamespace
      exact s.takesNamespace_of_found name scope t found quiet

/-- The crowded cluster with three registrations: the first and the last are of one watcher, who drops
the second whenever it is told. -/
def restless : Store where
  cluster := crowded.cluster
  watchers := {
    active := [.observer ⟨"early", some 1⟩, .observer ⟨"late", some 0⟩, .observer ⟨"early", some 1⟩]
    issued := [.observer ⟨"early", some 1⟩, .observer ⟨"late", some 0⟩, .observer ⟨"early", some 1⟩] }

/-- The one in the middle is told though its registration is gone by then, and both records of the
namespace have left. -/
theorem deletion_outcome_restless :
    let step := restless.delete .namespaces "blue" none
    restless.IsQuiet ∧ step.result = .ok (some (⟨"blue", "Active", "9d"⟩ : Namespace)) ∧
    step.events.tail = [.namespaceGone (.observer ⟨"early", some 1⟩) "blue",
      .namespaceGone (.observer ⟨"late", some 0⟩) "blue",
      .namespaceGone (.observer ⟨"early", some 1⟩) "blue"] ∧
    step.state.watchers.active = [.observer ⟨"early", some 1⟩] ∧
    ∀ k, ∀ r ∈ step.state.cluster.records k, r.home? ≠ some "blue" := by
  have quiet : restless.IsQuiet := by
    simp [IsQuiet, Registry.IsSound, restless, NamespaceWatcher.cancels]
  have given : (restless.delete .namespaces "blue" none).result ≠ .ok none := by
    intro same
    cases same
  obtain ⟨_, _, taken⟩ := deletion_outcome restless .namespaces "blue" none quiet
  obtain ⟨t, result, _, _, _, namespace'⟩ := taken given
  obtain ⟨_, vacates, ⟨_, _, _, events, _⟩, _, _⟩ := namespace' rfl
  have first := result.symm.trans (delete_result _ .namespaces "blue" none quiet)
  cases first
  refine ⟨quiet, result, ?_, rfl, vacates⟩
  rw [events]
  rfl

end Store

end ClusterInspector
