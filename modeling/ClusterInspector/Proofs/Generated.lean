import ClusterInspector.Chance.Script
import ClusterInspector.Proofs.Addressing
import ClusterInspector.Proofs.Draws
import ClusterInspector.Proofs.ReadBack
import Mathlib.Data.List.Nodup

/-!
# What is generated

Generated clusters are coherent, whatever the source of choices: each collection has records in every
namespace of the pool and nowhere else, as many as there may be and under keys of their own, and the
fields of a record agree with each other, also where one is a text that has to be read to see it. This
holds of everything that one generator is asked for, one request after the other.
-/
namespace ClusterInspector

open Generator
open Text.Numeral (isWritable_of_nine_digits)

/-- An age of at most thirty days and some hours, which reads back. -/
def IsRecent (age : String) : Prop :=
  ∃ days hours minutes : Nat, days ≤ maxAgeDays ∧ hours ≤ 23 ∧ minutes ≤ 59 ∧
    age = Age.write days hours minutes ∧ Age.read age = .ok (Age.kept days hours minutes)

structure Namespace.IsCoherent (r : Namespace) : Prop where
  status : r.status = "Active"
  age : IsRecent r.age

/-- Not all containers of a pod need be ready, but none is ready exactly where the pod does not run. -/
structure Pod.IsCoherent (r : Pod) : Prop where
  status : r.status = .running ↔ r.problem = none ∨ r.problem = some .cpuThrottled
  message : r.problemMessage.isSome ↔ r.problem.isSome
  ready : ∃ x : Int, Report.readiness r.ready = (x, 2) ∧ 0 ≤ x ∧ x ≤ 2 ∧
    (x = 0 ↔ r.status ≠ .running)
  restarts : 0 ≤ r.restarts ∧ r.restarts ≤ 20
  node : r.node = some "node-1" ∨ r.node = some "node-2" ∨ r.node = some "node-3"
  age : IsRecent r.age

structure Deployment.IsCoherent (r : Deployment) : Prop where
  ready : ∃ replicas : Int, Report.readiness r.ready = (r.available, replicas) ∧
    0 ≤ r.available ∧ r.available ≤ r.upToDate ∧ r.upToDate ≤ replicas ∧ 2 ≤ replicas ∧ replicas ≤ 5
  age : IsRecent r.age

structure DaemonSet.IsCoherent (r : DaemonSet) : Prop where
  desired : r.desired = nodeCount
  current : r.current ≤ r.desired ∧ 2 ≤ r.current
  upToDate : r.upToDate = r.current
  ready : r.ready ≤ r.upToDate ∧ 1 ≤ r.ready
  available : r.available = r.ready
  age : IsRecent r.age

def Kind.Record.IsCoherent : {k : Kind} → k.Record → Prop
  | .namespaces, r => Namespace.IsCoherent r
  | .pods, r => Pod.IsCoherent r
  | .deployments, r => Deployment.IsCoherent r
  | .daemonsets, r => DaemonSet.IsCoherent r

/-- The records of one namespace: coherent, between so many and so many, with names of their own. -/
structure IsShare {k : Kind} (least most : Nat) (home : String) (rs : List k.Record) : Prop where
  housed : ∀ r ∈ rs, r.home? = some home
  counted : least ≤ rs.length ∧ rs.length ≤ most
  unique : (rs.map (·.name)).Nodup
  coherent : ∀ r ∈ rs, r.IsCoherent

/-- How many of the records lie in a namespace. -/
def population {k : Kind} (rs : List k.Record) (home : String) : Nat :=
  rs.countP (·.home? = some home)

/-- Coherent records that lie in the given namespaces, in each between so many and so many, with keys
of their own. -/
structure IsStocked {k : Kind} (homes : List String) (least most : Nat) (rs : List k.Record) :
    Prop where
  pooled : ∀ r ∈ rs, ∃ home ∈ homes, r.home? = some home
  counted : ∀ home ∈ homes, least ≤ population rs home ∧ population rs home ≤ most
  unique : (rs.map fun r => (r.name, r.home?)).Nodup
  coherent : ∀ r ∈ rs, r.IsCoherent

/-- A collection as it is generated: the namespaces are those of the pool, in its order, and the
records of each other kind are spread over them. -/
def AreCoherent : {k : Kind} → List k.Record → Prop
  | .namespaces, (rs : List Namespace) =>
    rs.map (·.name) = namespacePool ∧ ∀ r ∈ rs, r.IsCoherent
  | .pods, rs => IsStocked namespacePool 3 8 rs
  | .deployments, rs => IsStocked namespacePool 1 3 rs
  | .daemonsets, rs => IsStocked namespacePool 0 1 rs

def Cluster.IsCoherent (c : Cluster) : Prop := ∀ k, AreCoherent (c.records k)

section Shares

variable {k : Kind} {least most : Nat} {home : String} {rs : List k.Record}

theorem IsShare.population_self (share : IsShare least most home rs) :
    population rs home = rs.length :=
  List.countP_eq_length.mpr fun r member => decide_eq_true (share.housed r member)

theorem IsShare.population_other (share : IsShare least most home rs) (other : String)
    (different : other ≠ home) : population rs other = 0 := by
  refine List.countP_eq_zero.mpr fun r member => ?_
  simp [share.housed r member, different.symm]

theorem IsShare.nodup_keys (share : IsShare least most home rs) :
    (rs.map fun r => (r.name, r.home?)).Nodup := by
  have names : (rs.map fun r => (r.name, r.home?)).map Prod.fst = rs.map (·.name) := by
    rw [List.map_map]
    rfl
  refine List.Nodup.of_map Prod.fst ?_
  rw [names]
  exact share.unique

theorem IsStocked.population_outside {homes : List String} (stocked : IsStocked homes least most rs)
    (outside : home ∉ homes) : population rs home = 0 := by
  refine List.countP_eq_zero.mpr fun r member => ?_
  obtain ⟨inside, pooled, lies⟩ := stocked.pooled r member
  have different : inside ≠ home := fun same => outside (same ▸ pooled)
  simp [lies, different]

theorem isStocked_nil : IsStocked [] least most ([] : List k.Record) :=
  ⟨nofun, nofun, .nil, nofun⟩

theorem IsStocked.cons {homes : List String} {others : List k.Record}
    (stocked : IsStocked homes least most others) (share : IsShare least most home rs)
    (new : home ∉ homes) : IsStocked (home :: homes) least most (rs ++ others) where
  pooled := by
    intro r member
    rcases List.mem_append.mp member with own | among
    · exact ⟨home, List.mem_cons_self, share.housed r own⟩
    · obtain ⟨inside, pooled, lies⟩ := stocked.pooled r among
      exact ⟨inside, List.mem_cons_of_mem _ pooled, lies⟩
  counted := by
    intro home' listed
    have sum : population (rs ++ others) home' = population rs home' + population others home' :=
      List.countP_append
    rw [sum]
    rcases List.mem_cons.mp listed with rfl | among
    · rw [share.population_self, stocked.population_outside new]
      exact share.counted
    · have different : home' ≠ home := fun same => new (same ▸ among)
      rw [share.population_other home' different, Nat.zero_add]
      exact stocked.counted home' among
  unique := by
    rw [List.map_append, List.nodup_append]
    refine ⟨share.nodup_keys, stocked.unique, ?_⟩
    rintro key own _ among rfl
    obtain ⟨r, member, rfl⟩ := List.mem_map.mp own
    obtain ⟨r', member', same⟩ := List.mem_map.mp among
    obtain ⟨inside, pooled, lies⟩ := stocked.pooled r' member'
    have sameHome : r'.home? = r.home? := congrArg Prod.snd same
    rw [lies, share.housed r member] at sameHome
    exact new (Option.some.inj sameHome ▸ pooled)
  coherent := by
    intro r member
    rcases List.mem_append.mp member with own | among
    · exact share.coherent r own
    · exact stocked.coherent r among

theorem isStocked_flatten {homes : List String} {shares : List (List k.Record)}
    (each : List.Forall₂ (IsShare least most) homes shares) (distinct : homes.Nodup) :
    IsStocked homes least most shares.flatten := by
  induction each with
  | nil => exact isStocked_nil
  | cons share _ ih =>
    obtain ⟨new, distinct⟩ := List.nodup_cons.mp distinct
    exact (ih distinct).cons share new

theorem AreCoherent.each (coherent : AreCoherent rs) : ∀ r ∈ rs, r.IsCoherent := by
  cases k with
  | namespaces => exact coherent.2
  | pods => exact coherent.coherent
  | deployments => exact coherent.coherent
  | daemonsets => exact coherent.coherent

theorem AreCoherent.pooled (coherent : AreCoherent rs) (namespaced : k ≠ .namespaces) :
    ∀ r ∈ rs, ∃ home ∈ namespacePool, r.home? = some home := by
  cases k with
  | namespaces => exact absurd rfl namespaced
  | pods => exact IsStocked.pooled coherent
  | deployments => exact IsStocked.pooled coherent
  | daemonsets => exact IsStocked.pooled coherent

end Shares

/-- In a coherent cluster every record lies in a namespace that has a record. -/
theorem Cluster.IsCoherent.isHoused {c : Cluster} (coherent : c.IsCoherent) (home : String) :
    c.IsHoused home := by
  intro k r member lies
  have namespaced : k ≠ .namespaces := by
    rintro rfl
    cases lies
  obtain ⟨home', pooled, lies'⟩ := (coherent k).pooled namespaced r member
  rw [lies] at lies'
  have names : c.namespaceNames = namespacePool := (coherent .namespaces).1
  rw [names, Option.some.inj lies']
  exact pooled

namespace Generator

open Chance (Source)

variable {σ : Type} [Source σ] {dry : σ → Prop}

theorem yields_stocked {k : Kind} (least most : Nat) (draw : String → Draw σ (List k.Record))
    (each : ∀ home, Yields dry (draw home) (IsShare least most home)) :
    Yields dry (do let perNamespace ← namespacePool.mapM draw; return perNamespace.flatten)
      (IsStocked namespacePool least most) := by
  refine (Yields.mapM each namespacePool).bind fun shares drawn => .pure ?_
  exact isStocked_flatten drawn (by decide)

theorem named_of_forall₂ {names : List String} {rs : List Namespace}
    (drawn : List.Forall₂ (fun name (r : Namespace) => name = r.name ∧ r.IsCoherent) names rs) :
    rs.map (·.name) = names ∧ ∀ r ∈ rs, r.IsCoherent := by
  induction drawn with
  | nil => exact ⟨rfl, nofun⟩
  | cons first _ ih =>
    obtain ⟨rfl, coherent⟩ := first
    exact ⟨congrArg _ ih.1, List.forall_mem_cons.mpr ⟨coherent, ih.2⟩⟩

theorem yields_age : Yields dry (age : Draw σ String) IsRecent := by
  unfold age
  refine (yields_between 0 maxAgeDays _).bind fun ⟨days, _, fewDays⟩ _ => ?_
  refine (yields_between 0 23 _).bind fun ⟨hours, _, fewHours⟩ _ => ?_
  refine (yields_between 0 59 _).bind fun ⟨minutes, _, fewMinutes⟩ _ => .pure ?_
  refine ⟨days, hours, minutes, fewDays, fewHours, fewMinutes, rfl, ?_⟩
  refine Age.read_write days hours minutes ?_ (by omega) (by omega)
  exact Nat.le_trans fewDays (by decide)

theorem restartsOf_le (problem : PodProblem) (least more : Nat)
    (restarts : restartsOf problem = some (least, more)) : least + more ≤ 20 := by
  cases problem <;> cases restarts <;> decide

theorem yields_condition : Yields dry (condition : Draw σ _) fun drawn => drawn.2 ≤ 20 := by
  unfold condition
  refine (yields_chance 1 2).bind fun troubled _ => ?_
  split
  · refine (yields_pick PodProblem.all _).bind fun problem _ => ?_
    split
    · rename_i least more restarts
      refine (yields_between _ _ _).bind fun ⟨count, _, most⟩ _ => .pure ?_
      exact Nat.le_trans most (restartsOf_le problem least more restarts)
    · exact .pure (Nat.zero_le 20)
  · refine (yields_chance 1 5).bind fun restarted _ => ?_
    split
    · refine (yields_between 0 2 _).bind fun ⟨count, _, most⟩ _ => .pure ?_
      exact Nat.le_trans most (by decide)
    · exact .pure (Nat.zero_le 20)

/-- The status of a pod with a problem or without. -/
def statusAfter (problem : Option PodProblem) : PodStatus := (problem.map statusOf).getD .running

@[simp] theorem statusAfter_none : statusAfter none = .running := rfl

@[simp] theorem statusAfter_some (problem : PodProblem) :
    statusAfter (some problem) = statusOf problem := rfl

theorem statusAfter_eq_running_iff (problem : Option PodProblem) :
    statusAfter problem = .running ↔ problem = none ∨ problem = some .cpuThrottled := by
  cases problem with
  | none => decide
  | some problem => cases problem <;> decide

theorem readiness_of_two (x : Nat) (few : x ≤ 2) :
    Report.readiness (toString x ++ "/2") = ((x : Int), 2) := by
  have read := Report.readiness_toString x 2 (isWritable_of_nine_digits (by omega))
    (isWritable_of_nine_digits (by decide))
  rwa [String.append_assoc] at read

theorem yields_podReady (problem : Option PodProblem) :
    Yields dry (podReady problem : Draw σ String) fun ready => ∃ x : Int,
      Report.readiness ready = (x, 2) ∧ 0 ≤ x ∧ x ≤ 2 ∧ (x = 0 ↔ statusAfter problem ≠ .running) := by
  unfold podReady
  split
  · refine (yields_between 1 2 _).bind fun ⟨x, least, most⟩ _ => .pure ?_
    refine ⟨x, readiness_of_two x most, by omega, by omega, ?_⟩
    simp only [statusAfter_none, ne_eq, not_true_eq_false, iff_false]
    omega
  · rename_i problem
    refine .pure ?_
    by_cases runs : statusOf problem = .running
    · rw [if_pos runs]
      exact ⟨2, readiness_of_two 2 (Nat.le_refl 2), by simp [runs]⟩
    · rw [if_neg runs]
      exact ⟨0, readiness_of_two 0 (Nat.zero_le 2), by simp [runs]⟩

theorem yields_podName : Yields dry (podName : Draw σ String) fun _ => True := by
  unfold podName
  refine (yields_pick podNames _).bind fun base _ => ?_
  refine (yields_between 1000 9999 _).bind fun first _ => ?_
  exact (yields_between 100 999 _).bind fun second _ => .pure trivial

theorem yields_deploymentName : Yields dry (deploymentName : Draw σ String) fun _ => True := by
  unfold deploymentName
  refine (yields_pick deploymentNames _).bind fun base _ => ?_
  exact (yields_between 1 5 _).bind fun number _ => .pure trivial

theorem node_cases (n : Nat) (least : 1 ≤ n) (most : n ≤ nodeCount) :
    some s!"node-{n}" = some "node-1" ∨ some s!"node-{n}" = some "node-2" ∨
      some s!"node-{n}" = some "node-3" := by
  obtain rfl | rfl | rfl : n = 1 ∨ n = 2 ∨ n = 3 := by
    simp only [nodeCount] at most
    omega
  · exact Or.inl rfl
  · exact Or.inr (Or.inl rfl)
  · exact Or.inr (Or.inr rfl)

theorem yields_pod (home name : String) :
    Yields dry (pod home name : Draw σ Pod) fun r => r.name = name ∧ r.home = home ∧ r.IsCoherent := by
  unfold pod
  refine yields_condition.bind fun ⟨problem, restarts⟩ few => ?_
  refine (yields_podReady problem).bind fun ready ready_spec => ?_
  refine yields_age.bind fun age recent => ?_
  refine (yields_between 1 nodeCount _).bind fun ⟨node, least, most⟩ _ => .pure ⟨rfl, rfl, ?_⟩
  exact {
    status := statusAfter_eq_running_iff problem
    message := by simp
    ready := ready_spec
    restarts := ⟨Int.natCast_nonneg restarts, Int.ofNat_le.mpr few⟩
    node := node_cases node least most
    age := recent }

theorem yields_deployment (home name : String) :
    Yields dry (deployment home name : Draw σ Deployment) fun r =>
      r.name = name ∧ r.home = home ∧ r.IsCoherent := by
  unfold deployment
  refine (yields_between 2 5 _).bind fun ⟨replicas, least, most⟩ _ => ?_
  refine (yields_between 0 replicas _).bind fun ⟨upToDate, _, updated⟩ _ => ?_
  refine (yields_between 0 upToDate _).bind fun ⟨available, _, served⟩ _ => ?_
  refine yields_age.bind fun age recent => .pure ⟨rfl, rfl, ?_⟩
  have read := Report.readiness_toString available replicas (isWritable_of_nine_digits (by omega))
    (isWritable_of_nine_digits (by omega))
  exact {
    ready := ⟨replicas, read, Int.natCast_nonneg available, Int.ofNat_le.mpr served,
      Int.ofNat_le.mpr updated, Int.ofNat_le.mpr least, Int.ofNat_le.mpr most⟩
    age := recent }

theorem yields_daemonSet (home : String) :
    Yields dry (daemonSet home : Draw σ DaemonSet) fun r => r.home = home ∧ r.IsCoherent := by
  unfold daemonSet
  refine (yields_between 2 nodeCount _).bind fun ⟨current, least, most⟩ _ => ?_
  refine (yields_between 1 current _).bind fun ⟨ready, positive, served⟩ _ => ?_
  refine (yields_pick daemonSetNames _).bind fun name _ => ?_
  refine yields_age.bind fun age recent => .pure ⟨rfl, ?_⟩
  exact {
    desired := rfl
    current := ⟨Int.ofNat_le.mpr most, Int.ofNat_le.mpr least⟩
    upToDate := rfl
    ready := ⟨Int.ofNat_le.mpr served, Int.ofNat_le.mpr positive⟩
    available := rfl
    age := recent }

theorem yields_namespaces : Yields dry (namespaces : Draw σ _) (AreCoherent (k := .namespaces)) := by
  unfold namespaces
  have each : ∀ name, Yields dry (do let age ← age; return { name, status := "Active", age } : Draw σ _)
      fun r : Namespace => name = r.name ∧ r.IsCoherent :=
    fun name => yields_age.bind fun age recent => .pure ⟨rfl, rfl, recent⟩
  exact (Yields.mapM each namespacePool).mono fun rs drawn => named_of_forall₂ drawn

/-- So many records of a namespace, as many as one choice says. -/
theorem yields_share {k : Kind} (least most : Nat) (ordered : least ≤ most) (home : String)
    (makeName : Draw σ String) (make : String → Draw σ k.Record)
    (names : Yields (fun _ => False) makeName fun _ => True)
    (stuck : ∀ taken : List String, taken.length < most →
      ∀ s, AllTaken makeName taken maxNameAttempts s → dry s)
    (each : ∀ name, Yields dry (make name) fun r =>
      r.name = name ∧ r.home? = some home ∧ r.IsCoherent) :
    Yields dry (do let count ← between least most ordered; named makeName make count.val [])
      (IsShare least most home) := by
  refine (yields_between least most ordered).bind fun ⟨count, atLeast, atMost⟩ _ => ?_
  refine (yields_named Kind.Record.name _ makeName make most names stuck each count [] (by simpa)).mono
    fun rs drawn => ?_
  exact {
    housed := fun r member => (drawn.each r member).1
    counted := by rw [drawn.counted]; exact ⟨atLeast, atMost⟩
    unique := drawn.unique
    coherent := fun r member => (drawn.each r member).2 }

/-- Where the source runs out of names: all that it makes in fifty attempts are among the few that are
taken in a namespace by then. -/
def IsDry (s : σ) : Prop :=
  (∃ taken : List String, taken.length < 8 ∧ AllTaken podName taken 50 s) ∨
    ∃ taken : List String, taken.length < 3 ∧ AllTaken deploymentName taken 50 s

theorem yields_pods : Yields IsDry (pods : Draw σ _) (AreCoherent (k := .pods)) := by
  refine yields_stocked (k := .pods) 3 8 _ fun home => ?_
  refine yields_share (k := .pods) 3 8 _ home podName (pod home) yields_podName
    (fun taken few s allTaken => Or.inl ⟨taken, few, allTaken⟩) fun name => ?_
  exact (yields_pod home name).mono fun r ⟨named, lies, coherent⟩ =>
    ⟨named, congrArg some lies, coherent⟩

theorem yields_deployments : Yields IsDry (deployments : Draw σ _) (AreCoherent (k := .deployments)) := by
  refine yields_stocked (k := .deployments) 1 3 _ fun home => ?_
  refine yields_share (k := .deployments) 1 3 _ home deploymentName (deployment home)
    yields_deploymentName (fun taken few s allTaken => Or.inr ⟨taken, few, allTaken⟩) fun name => ?_
  exact (yields_deployment home name).mono fun r ⟨named, lies, coherent⟩ =>
    ⟨named, congrArg some lies, coherent⟩

theorem isShare_singleton {k : Kind} (home : String) (r : k.Record) (lies : r.home? = some home)
    (coherent : r.IsCoherent) : IsShare 0 1 home [r] where
  housed := by simpa using lies
  counted := by simp
  unique := by simp
  coherent := by simpa using coherent

theorem yields_daemonSets : Yields dry (daemonSets : Draw σ _) (AreCoherent (k := .daemonsets)) := by
  refine yields_stocked (k := .daemonsets) 0 1 _ fun home => ?_
  refine (yields_chance 2 5).bind fun present _ => ?_
  split
  · refine (yields_daemonSet home).bind fun r ⟨lies, coherent⟩ => .pure ?_
    exact isShare_singleton (k := .daemonsets) home r (congrArg some lies) coherent
  · exact .pure ⟨nofun, ⟨Nat.le_refl 0, Nat.zero_le 1⟩, .nil, nofun⟩

theorem yields_cluster : Yields IsDry (cluster : Draw σ _) Cluster.IsCoherent := by
  unfold cluster
  refine yields_namespaces.bind fun namespaces namespacesCoherent => ?_
  refine yields_pods.bind fun pods podsCoherent => ?_
  refine yields_deployments.bind fun deployments deploymentsCoherent => ?_
  refine yields_daemonSets.bind fun daemonsets daemonsetsCoherent => .pure fun k => ?_
  cases k with
  | namespaces => exact namespacesCoherent
  | pods => exact podsCoherent
  | deployments => exact deploymentsCoherent
  | daemonsets => exact daemonsetsCoherent

/-- What a generator can be asked for. -/
inductive Request where
  | collection (k : Kind)
  | cluster
  deriving DecidableEq, Repr

def Request.Answer : Request → Type
  | .collection k => List k.Record
  | .cluster => Cluster

def Request.draw : (q : Request) → Draw σ q.Answer
  | .collection .namespaces => namespaces
  | .collection .pods => pods
  | .collection .deployments => deployments
  | .collection .daemonsets => daemonSets
  | .cluster => Generator.cluster

def Request.IsCoherent : (q : Request) → q.Answer → Prop
  | .collection _, rs => AreCoherent rs
  | .cluster, c => Cluster.IsCoherent c

/-- What a request came to. -/
abbrev Served := (q : Request) × Except Failure q.Answer

/-- Serves requests one after the other. Each takes the source as the one before left it, whether that
succeeded or not. -/
def serve (source : σ) : List Request → List Served
  | [] => []
  | q :: rest =>
    let (outcome, moved) := q.draw.run source
    ⟨q, outcome⟩ :: serve moved rest

theorem serve_nil (source : σ) : serve source [] = [] := rfl

theorem serve_cons (source : σ) (q : Request) (rest : List Request) :
    serve source (q :: rest) =
      ⟨q, (q.draw.run source).1⟩ :: serve (q.draw.run source).2 rest := rfl

theorem yields_request (q : Request) : Yields IsDry (q.draw : Draw σ _) q.IsCoherent := by
  cases q with
  | cluster => exact yields_cluster
  | collection k =>
    cases k with
    | namespaces => exact yields_namespaces
    | pods => exact yields_pods
    | deployments => exact yields_deployments
    | daemonsets => exact yields_daemonSets

/-- Every request is served, with what is coherent or with the one failure there can be: choices have
then led to where the source makes no name that is not taken, in fifty attempts. -/
theorem serve_coherent (source : σ) (requests : List Request) :
    (serve source requests).map Sigma.fst = requests ∧
    ∀ served ∈ serve source requests,
      (served.2 = .error .namesExhausted ∧ ∃ s, Leads source s ∧ IsDry s) ∨
      ∃ drawn, served.2 = .ok drawn ∧ served.1.IsCoherent drawn := by
  induction requests generalizing source with
  | nil => exact ⟨rfl, nofun⟩
  | cons q rest ih =>
    obtain ⟨leads, outcome⟩ := yields_request q source
    obtain ⟨same, others⟩ := ih (q.draw.run source).2
    refine ⟨congrArg (q :: ·) same, List.forall_mem_cons.mpr ⟨outcome, fun served member => ?_⟩⟩
    refine (others served member).imp_left ?_
    rintro ⟨exhausted, s, led, isDry⟩
    exact ⟨exhausted, s, leads.trans led, isDry⟩

/-- A source that always says the same. -/
def monotone : Chance.Script := { values := [0] }

/-- Six numbers over and over, which make a cluster. -/
def rota : Chance.Script := { values := [0, 1, 2, 3, 4, 5] }

/-- The one source runs out of names for pods, and goes on to daemon sets; from the other comes a whole
cluster. -/
theorem serve_coherent_monotone :
    (∃ rs : List DaemonSet,
      serve monotone [.collection .pods, .collection .daemonsets] =
        [⟨.collection .pods, .error .namesExhausted⟩, ⟨.collection .daemonsets, .ok rs⟩] ∧
      AreCoherent (k := .daemonsets) rs ∧ ∃ s, Leads monotone s ∧ IsDry s) ∧
    ∃ c : Cluster, serve rota [.cluster] = [⟨.cluster, .ok c⟩] ∧ c.IsCoherent := by
  constructor
  · have outcomes := (serve_coherent monotone [.collection .pods, .collection .daemonsets]).2
    have failed : ((Request.collection .pods).draw.run monotone).1.toBool = false := by
      decide +kernel
    have succeeded : ((Request.collection .daemonsets).draw.run
        ((Request.collection .pods).draw.run monotone).2).1.toBool = true := by
      decide +kernel
    simp only [serve_cons, List.forall_mem_cons] at outcomes
    rw [serve_cons, serve_cons, serve_nil]
    obtain ⟨⟨exhausted, dry⟩ | ⟨_, drawn, _⟩, ⟨exhausted', _⟩ | ⟨rs, drawn', coherent⟩, _⟩ := outcomes
    · rw [exhausted'] at succeeded
      cases succeeded
    · exact ⟨rs, by rw [exhausted, drawn'], coherent, dry⟩
    · rw [drawn] at failed
      cases failed
    · rw [drawn] at failed
      cases failed
  · have outcomes := (serve_coherent rota [.cluster]).2
    have succeeded : (Request.cluster.draw.run rota).1.toBool = true := by
      decide +kernel
    simp only [serve_cons, List.forall_mem_cons] at outcomes
    rw [serve_cons, serve_nil]
    obtain ⟨⟨exhausted, _⟩ | ⟨c, drawn, coherent⟩, _⟩ := outcomes
    · rw [exhausted] at succeeded
      cases succeeded
    · exact ⟨c, by rw [drawn], coherent⟩

end Generator

end ClusterInspector
