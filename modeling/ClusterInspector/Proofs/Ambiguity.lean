import ClusterInspector.Proofs.Forward
import ClusterInspector.Proofs.Integrity
import Mathlib.Data.List.Nodup

/-!
# Ambiguity

A report and a deletion look their record up alike: they are refused for the same reason, or the record
that the one is about and names is the one that the other takes. Where keys are unique, a lookup is
ambiguous exactly for a name without a namespace that occurs in several, and each of those that the
refusal lists settles it.
-/
namespace ClusterInspector

namespace Report

/-- How far into its lines a report sets names. -/
def margin : Kind → Nat
  | .namespaces | .pods => 14
  | .deployments => 24
  | .daemonsets => 16

/-- The report begins with the name of the record and, where it lies in a namespace, with that. -/
def IsAbout {k : Kind} (text : String) (r : k.Record) : Prop :=
  ∃ rest, text = lines ((Text.Table.pad (margin k) "Name:" ++ r.name) ::
    (r.home?.map (Text.Table.pad (margin k) "Namespace:" ++ ·)).toList ++ rest)

theorem bind_eq_ok_iff {ε α β : Type} (x : Except ε α) (next : α → Except ε β) (b : β) :
    (x >>= next) = .ok b ↔ ∃ a, x = .ok a ∧ next a = .ok b := by
  cases x with
  | error e => simp [bind, Except.bind]
  | ok a => simp [bind, Except.bind]

theorem describe_isAbout (now : Nat) {k : Kind} (r : k.Record) (text : String)
    (described : describe now r = .ok text) : IsAbout text r := by
  have labels : ∀ k, Text.Table.pad (margin k) "Name:" = match k with
      | .namespaces | .pods => "Name:         "
      | .deployments => "Name:                   "
      | .daemonsets => "Name:           " := by
    intro k
    cases k <;> decide +kernel
  have homeLabels : ∀ k, Text.Table.pad (margin k) "Namespace:" = match k with
      | .namespaces | .pods => "Namespace:    "
      | .deployments => "Namespace:              "
      | .daemonsets => "Namespace:      " := by
    intro k
    cases k <;> decide +kernel
  rw [IsAbout, labels, homeLabels]
  cases k with
  | namespaces =>
    rw [← Except.ok.inj described]
    exact ⟨_, rfl⟩
  | pods =>
    simp only [describe, ofPod, bind_eq_ok_iff] at described
    obtain ⟨start, _, restarts, _, described⟩ := described
    rw [← Except.ok.inj described]
    exact ⟨_, rfl⟩
  | deployments =>
    simp only [describe, ofDeployment, bind_eq_ok_iff] at described
    obtain ⟨start, _, updated, _, serving, _, unavailable, _, described⟩ := described
    rw [← Except.ok.inj described]
    exact ⟨_, rfl⟩
  | daemonsets =>
    simp only [describe, ofDaemonSet, bind_eq_ok_iff] at described
    obtain ⟨_, _, _, _, _, _, _, _, _, _, _, _, described⟩ := described
    rw [← Except.ok.inj described]
    exact ⟨_, rfl⟩

end Report

namespace Console

open Cluster

/-- The records of one name, wherever they lie. -/
def namesakes (c : Cluster) (k : Kind) (name : String) : List k.Record :=
  (c.records k).filter fun r => decide (r.name = name)

theorem mem_namesakes (c : Cluster) (k : Kind) (name : String) (r : k.Record) :
    r ∈ namesakes c k name ↔ r ∈ c.records k ∧ r.name = name := by
  rw [namesakes, List.mem_filter, decide_eq_true_eq]

theorem select_unscoped (c : Cluster) (k : Kind) (name : String) :
    c.select k none (some name) = namesakes c k name := by
  refine List.filter_congr fun r _ => ?_
  rw [liesIn_none, Bool.true_and]
  rfl

theorem filterMap_home? (k : Kind) (rs : List k.Record) (namespaced : k ≠ .namespaces) :
    (rs.filterMap (·.home?)).map some = rs.map (·.home?) := by
  induction rs with
  | nil => rfl
  | cons r rest ih =>
    obtain ⟨home, lies⟩ := exists_home k r namespaced
    rw [List.filterMap_cons_some lies, List.map_cons, List.map_cons, ih, lies]

/-- A lookup is ambiguous where there is no namespace to tell several records by. -/
theorem resolve_eq_ambiguous_iff (c : Cluster) (k : Kind) (name : String) (scope : Option String)
    (homes : List String) :
    resolve c k name scope = .error (.ambiguous k name homes) ↔
      k ≠ .namespaces ∧ scope = none ∧ 2 ≤ (namesakes c k name).length ∧
        homes = (namesakes c k name).filterMap (·.home?) := by
  have unscoped := select_unscoped c k name
  rcases resolve_cases c k name scope with ⟨selected, missed⟩ |
    ⟨r, other, rest, selected, rfl, namespaced, missed⟩ | ⟨r, rest, selected, alone, found⟩
  · rw [missed]
    refine iff_of_false nofun ?_
    rintro ⟨_, rfl, several, _⟩
    rw [← unscoped, selected] at several
    cases several
  · rw [missed, ← unscoped, selected]
    constructor
    · intro same
      cases same
      exact ⟨namespaced, rfl, by simp, rfl⟩
    · rintro ⟨_, _, _, rfl⟩
      rfl
  · rw [found]
    refine iff_of_false nofun ?_
    rintro ⟨namespaced, rfl, several, _⟩
    rw [← unscoped, selected, alone rfl namespaced] at several
    cases several with
    | step le => cases le

/-- With unique keys, records of one name lie in different namespaces. -/
theorem nodup_homes (c : Cluster) (k : Kind) (name : String) (unique : c.HasUniqueKeys k) :
    ((namesakes c k name).map (·.home?)).Nodup := by
  have keys : ((namesakes c k name).map fun r => (r.name, r.home?)).Nodup :=
    List.Nodup.sublist (List.filter_sublist.map _) unique
  have sameName : (namesakes c k name).map (fun r => (r.name, r.home?)) =
      ((namesakes c k name).map (·.home?)).map (Prod.mk name) := by
    rw [List.map_map]
    refine List.map_congr_left fun r member => ?_
    rw [((mem_namesakes c k name r).mp member).2]
    rfl
  rw [sameName] at keys
  exact keys.of_map

theorem several_iff (c : Cluster) (k : Kind) (name : String) (unique : c.HasUniqueKeys k) :
    2 ≤ (namesakes c k name).length ↔
      ∃ r ∈ c.records k, ∃ r' ∈ c.records k, r.name = name ∧ r'.name = name ∧ r.home? ≠ r'.home? := by
  have apart := nodup_homes c k name unique
  constructor
  · intro several
    match names : namesakes c k name with
    | [] | [_] =>
      rw [names] at several
      simp at several
    | r :: r' :: rest =>
      have first := (mem_namesakes c k name r).mp (names ▸ List.mem_cons_self)
      have second := (mem_namesakes c k name r').mp (names ▸ by simp)
      refine ⟨r, first.1, r', second.1, first.2, second.2, ?_⟩
      rw [names] at apart
      intro same
      simp [same] at apart
  · rintro ⟨r, held, r', held', named, named', differ⟩
    have first := (mem_namesakes c k name r).mpr ⟨held, named⟩
    have second := (mem_namesakes c k name r').mpr ⟨held', named'⟩
    match names : namesakes c k name with
    | [] => simp [names] at first
    | [only] =>
      rw [names, List.mem_singleton] at first second
      exact absurd (by rw [first, second]) differ
    | _ :: _ :: rest => simp

/-- With unique keys, a name and a namespace find the record that has both. -/
theorem resolve_at_home (c : Cluster) (k : Kind) (name home : String) (r : k.Record)
    (unique : c.HasUniqueKeys k) (namespaced : k ≠ .namespaces) (held : r ∈ c.records k)
    (named : r.name = name) (lies : r.home? = some home) :
    resolve c k name (some home) = .ok r := by
  have among : r ∈ c.select k (some home) (some name) :=
    mem_select.mpr ⟨held, (liesIn_some home k r namespaced).mpr lies, (isNamed_some name k r).mpr named⟩
  rw [resolve_eq_ok_iff]
  cases selected : c.select k (some home) (some name) with
  | nil => simp [selected] at among
  | cons first rest =>
    have picked : first ∈ c.select k (some home) (some name) := selected ▸ List.mem_cons_self
    obtain ⟨firstHeld, inScope, firstNamed⟩ := mem_select.mp picked
    have sameKey : (first.name, first.home?) = (r.name, r.home?) := by
      rw [(isNamed_some name k first).mp firstNamed, named, lies,
        (liesIn_some home k first namespaced).mp inScope]
    have same : first = r := List.inj_on_of_nodup_map unique firstHeld held sameKey
    subst same
    exact ⟨rest, rfl, nofun⟩

/-- What a report and a deletion for one address come to on the same store. Either both are refused, for
one reason, or neither is, and the deletion takes the record that the report is about, with what
goes with it. -/
inductive Alike (now : Nat) (s : Store) (k : Kind) (name : String)
    (reported deleted : Step Store Failure String) : Prop
  | refused (e : Command.Refusal) (lookup : e = .notFound k name ∨ ∃ homes, e = .ambiguous k name homes)
    (report : reported.result = .error (.refused e))
    (deletion : deleted.result = .error (.refused e))
  | found (r : k.Record) (held : r ∈ s.cluster.records k) (named : r.name = name)
    (again : s.cluster.find? k r.name r.home? = some r)
    (unrefused : ∀ e, reported.result ≠ .error (.refused e) ∧ deleted.result ≠ .error (.refused e))
    (report : reported.result = (Report.describe now r).mapError .fault)
    (about : ∀ text, reported.result = .ok text → Report.IsAbout text r)
    (taken : r ∉ deleted.state.cluster.records k)
    (fromHome : k ≠ .namespaces → ∃ home, r.home? = some home ∧
      s.cluster.LosesNamed deleted.state.cluster k name home)
    (withAll : k = .namespaces → s.cluster.LosesNamespace deleted.state.cluster name)

theorem answerCommand_refused_lookup_iff (now : Nat) (s : Store) (cmd : Command) (k : Kind)
    (name : String) (scope : Option String) (addressed : cmd.Addresses k name scope)
    (named : name ≠ "") (verb : cmd.verb = .describe ∨ cmd.verb = .delete) (e : Command.Refusal) :
    (answerCommand now s cmd).result = .error (.refused e) ↔
      resolve s.cluster k name scope = .error e := by
  rw [answerCommand_refused_iff now s cmd e verb,
    target_of_addresses s.cluster cmd k name scope addressed named]
  cases resolve s.cluster k name scope <;> simp [Except.map]

theorem alike_of_addresses (now : Nat) (s : Store) (k : Kind) (name : String) (scope : Option String)
    (named : name ≠ "") (report deletion : Command) (asks : report.Addresses k name scope)
    (takes : deletion.Addresses k name scope) (describe : report.verb = .describe)
    (delete : deletion.verb = .delete) :
    Alike now s k name (answerCommand now s report) (answerCommand now s deletion) := by
  have reportRefused := answerCommand_refused_lookup_iff now s report k name scope asks named
    (Or.inl describe)
  have deletionRefused := answerCommand_refused_lookup_iff now s deletion k name scope takes named
    (Or.inr delete)
  have refuses : ∀ e, resolve s.cluster k name scope = .error e →
      (e = .notFound k name ∨ ∃ homes, e = .ambiguous k name homes) →
      Alike now s k name (answerCommand now s report) (answerCommand now s deletion) :=
    fun e missed lookup => .refused e lookup ((reportRefused e).mpr missed) ((deletionRefused e).mpr missed)
  rcases resolve_cases s.cluster k name scope with ⟨_, missed⟩ | ⟨_, _, _, _, _, _, several⟩ |
    ⟨r, rest, _, _, found⟩
  · exact refuses _ missed (Or.inl rfl)
  · exact refuses _ several (Or.inr ⟨_, rfl⟩)
  · have first := resolve_find? s.cluster k name scope r found
    obtain ⟨held, _, rfl⟩ := resolve_mem s.cluster k name scope r found
    have targeted := target_of_addresses s.cluster deletion k r.name scope takes named
    rw [found] at targeted
    have after := (answerCommand_deletes now s deletion k r delete targeted).2
    have reported := answer_describe now s report k r.name scope r asks named describe found
    refine .found r held rfl (find?_self s.cluster k r.name scope r first) ?_ reported ?_ ?_ ?_ ?_
    · intro e
      rw [ne_eq, ne_eq, reportRefused, deletionRefused, found]
      exact ⟨nofun, nofun⟩
    · intro text written
      rw [reported] at written
      cases described : Report.describe now r with
      | error f =>
        rw [described] at written
        cases written
      | ok text' =>
        rw [described] at written
        cases written
        exact Report.describe_isAbout now r text described
    · rw [after]
      exact target_not_mem_without s.cluster k r
    · intro namespaced
      obtain ⟨home, lies⟩ := exists_home k r namespaced
      rw [after]
      exact ⟨home, lies, losesNamed_without s.cluster k r home namespaced lies⟩
    · intro isNamespace
      subst isNamespace
      rw [after]
      exact losesNamespace_without s.cluster r

/-- The refusal lists the namespaces that the name occurs in, in the order of their records, and each of
them settles the lookup. -/
structure Lists (c : Cluster) (k : Kind) (name : String) (homes : List String) : Prop where
  each_once : homes.Nodup
  in_order : homes.map some =
    ((c.records k).filter fun r => decide (r.name = name)).map (·.home?)
  message :
    let found := ", ".intercalate homes
    (Command.Refusal.ambiguous k name homes).message =
      s!"Error: {k.plural}{k.group} \"{name}\" is ambiguous: " ++
        s!"found in namespaces {found}. Use -n <namespace> to select one."
  settles : ∀ home ∈ homes, ∃ r ∈ c.records k, r.name = name ∧ r.home? = some home ∧
    ∀ cmd : Command, cmd.Addresses k name (some home) → target c cmd = .ok ⟨k, r⟩

theorem lists_of_ambiguous (c : Cluster) (k : Kind) (name : String) (homes : List String)
    (named : name ≠ "") (unique : c.HasUniqueKeys k) (namespaced : k ≠ .namespaces)
    (listed : homes = (namesakes c k name).filterMap (·.home?)) : Lists c k name homes := by
  have in_order := filterMap_home? k (namesakes c k name) namespaced
  rw [← listed] at in_order
  refine ⟨?_, in_order, rfl, ?_⟩
  · have apart := nodup_homes c k name unique
    rw [← in_order] at apart
    exact apart.of_map
  · intro home member
    rw [listed, List.mem_filterMap] at member
    obtain ⟨r, among, lies⟩ := member
    obtain ⟨held, rfl⟩ := (mem_namesakes c k name r).mp among
    refine ⟨r, held, rfl, lies, ?_⟩
    intro cmd addressed
    rw [target_of_addresses c cmd k r.name (some home) addressed named,
      resolve_at_home c k r.name home r unique namespaced held rfl lies]
    rfl

/-- A report and a deletion resolve alike. Where keys are unique, either is refused as ambiguous exactly if
the kind lies in namespaces, none is given and the name occurs in two of them, and then its refusal lists
those namespaces, each of which settles the lookup. -/
theorem lookups_alike (now : Nat) (s : Store) (k : Kind) (name : String) (scope : Option String)
    (named : name ≠ "") :
    (∀ report deletion : Command, report.Addresses k name scope → deletion.Addresses k name scope →
      report.verb = .describe → deletion.verb = .delete →
      Alike now s k name (answerCommand now s report) (answerCommand now s deletion)) ∧
    (s.cluster.HasUniqueKeys k → ∀ cmd : Command, cmd.Addresses k name scope →
      cmd.verb = .describe ∨ cmd.verb = .delete →
      ((∃ homes, (answerCommand now s cmd).result = .error (.refused (.ambiguous k name homes))) ↔
        k ≠ .namespaces ∧ scope = none ∧ ∃ r ∈ s.cluster.records k, ∃ r' ∈ s.cluster.records k,
          r.name = name ∧ r'.name = name ∧ r.home? ≠ r'.home?) ∧
      ∀ homes, (answerCommand now s cmd).result = .error (.refused (.ambiguous k name homes)) →
        Lists s.cluster k name homes) := by
  refine ⟨alike_of_addresses now s k name scope named, ?_⟩
  intro unique cmd addressed verb
  have ambiguous : ∀ homes,
      (answerCommand now s cmd).result = .error (.refused (.ambiguous k name homes)) ↔
      k ≠ .namespaces ∧ scope = none ∧ 2 ≤ (namesakes s.cluster k name).length ∧
        homes = (namesakes s.cluster k name).filterMap (·.home?) := by
    intro homes
    rw [answerCommand_refused_lookup_iff now s cmd k name scope addressed named verb,
      resolve_eq_ambiguous_iff]
  constructor
  · rw [← several_iff s.cluster k name unique]
    constructor
    · rintro ⟨homes, refused⟩
      obtain ⟨namespaced, unscoped, several, _⟩ := (ambiguous homes).mp refused
      exact ⟨namespaced, unscoped, several⟩
    · rintro ⟨namespaced, unscoped, several⟩
      exact ⟨_, (ambiguous _).mpr ⟨namespaced, unscoped, several, rfl⟩⟩
  · intro homes refused
    obtain ⟨namespaced, _, _, listed⟩ := (ambiguous homes).mp refused
    exact lists_of_ambiguous s.cluster k name homes named unique namespaced listed

/-- The deployment `api` of two namespaces is told apart by either of them. -/
theorem lookups_alike_api :
    let report : Command := { verb := .describe, kind := some .deployments, name := some "api" }
    "api" ≠ "" ∧ crowded.cluster.HasUniqueKeys .deployments ∧
    report.Addresses .deployments "api" none ∧
    (answerCommand noon crowded report).result =
      .error (.refused (.ambiguous .deployments "api" ["blue", "green"])) ∧
    Lists crowded.cluster .deployments "api" ["blue", "green"] := by
  intro report
  have unique : crowded.cluster.HasUniqueKeys .deployments := by
    rw [HasUniqueKeys]
    decide
  have addressed : report.Addresses .deployments "api" none := ⟨rfl, rfl, rfl⟩
  have refused : (answerCommand noon crowded report).result =
      .error (.refused (.ambiguous .deployments "api" ["blue", "green"])) := rfl
  obtain ⟨_, told⟩ := lookups_alike noon crowded .deployments "api" none (by decide)
  obtain ⟨_, lists⟩ := told unique report addressed (Or.inl rfl)
  exact ⟨by decide, unique, addressed, refused, lists _ refused⟩

end Console

end ClusterInspector
