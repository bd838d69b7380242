import ClusterInspector.Cluster.Basic
import Mathlib.Tactic.ByContra

/-!
# What an address selects and what a deletion takes

A kind, a name and perhaps a namespace address records. Two records of one kind with one name and
one namespace are alike to every deletion, so what a full address selects stays or leaves as a whole.
A deletion is described here by the collections before and after it, without the record that was its
target.
-/
namespace ClusterInspector.Cluster

theorem home?_namespaces (r : Kind.namespaces.Record) : r.home? = none := rfl

theorem exists_home (k : Kind) (r : k.Record) (namespaced : k ≠ .namespaces) :
    ∃ home, r.home? = some home := by
  have isSome : r.home?.isSome = true := by
    rw [Kind.Record.home?_isSome]
    exact decide_eq_true namespaced
  exact Option.isSome_iff_exists.mp isSome

theorem isNamespaced_iff (k : Kind) : k.isNamespaced = true ↔ k ≠ .namespaces := by
  simp [Kind.isNamespaced]

theorem isNamed_some (name : String) (k : Kind) (r : k.Record) :
    isNamed (some name) r = true ↔ r.name = name := by
  simp [isNamed]

theorem liesIn_none (k : Kind) (r : k.Record) : liesIn none r = true := rfl

theorem liesIn_namespaces (scope : Option String) (r : Kind.namespaces.Record) :
    liesIn scope r = true := by
  cases scope <;> rfl

theorem liesIn_some (home : String) (k : Kind) (r : k.Record) (namespaced : k ≠ .namespaces) :
    liesIn (some home) r = true ↔ r.home? = some home := by
  obtain ⟨actual, at_home⟩ := exists_home k r namespaced
  simp [liesIn, at_home]

/-- A record lies in its own namespace. -/
theorem liesIn_home (k : Kind) (r : k.Record) : liesIn r.home? r = true := by
  cases home : r.home? <;> simp [liesIn, home]

theorem find?_eq_find? (c : Cluster) (k : Kind) (name : String) (scope : Option String) :
    c.find? k name scope =
      (c.records k).find? fun r => liesIn scope r && isNamed (some name) r := by
  rw [find?, select, List.head?_filter]

theorem find?_mem (c : Cluster) (k : Kind) (name : String) (scope : Option String) (r : k.Record)
    (found : c.find? k name scope = some r) :
    r ∈ c.records k ∧ liesIn scope r = true ∧ r.name = name := by
  rw [find?_eq_find?] at found
  have matched := List.find?_some found
  simp only [Bool.and_eq_true, isNamed_some] at matched
  exact ⟨List.mem_of_find?_eq_some found, matched⟩

/-- Looking a found record up again, by its own name and namespace, finds the same record: whatever
stands before it in the collection was passed over by the wider search already. -/
theorem find?_self (c : Cluster) (k : Kind) (name : String) (scope : Option String) (r : k.Record)
    (found : c.find? k name scope = some r) : c.find? k r.name r.home? = some r := by
  obtain ⟨_, inScope, rfl⟩ := find?_mem c k name scope r found
  rw [find?_eq_find?] at found ⊢
  obtain ⟨_, before, after, split, passed⟩ := List.find?_eq_some_iff_append.mp found
  refine List.find?_eq_some_iff_append.mpr ⟨?_, before, after, split, ?_⟩
  · simp [liesIn_home, isNamed_some]
  · intro other member
    have missed := passed other member
    -- the wider search passed `other` over, so it has another name or lies outside the scope
    by_cases named : other.name = r.name
    · have outside : liesIn scope other = false := by
        simpa [isNamed, named] using missed
      have elsewhere : liesIn r.home? other = false := by
        cases scope with
        | none => simp [liesIn_none] at outside
        | some home =>
          by_cases namespaced : k = .namespaces
          · subst namespaced
            simp [liesIn_namespaces] at outside
          · rw [(liesIn_some home k r namespaced).mp inScope]
            exact outside
      simp [elsewhere]
    · simp [isNamed, named]

theorem goesWith_same_kind (k : Kind) (target r : k.Record) :
    goesWith target r = true ↔ r.name = target.name ∧ r.home? = target.home? := by
  simp [goesWith]

theorem goesWith_other_kind (k k' : Kind) (target : k.Record) (r : k'.Record) (other : k' ≠ k) :
    goesWith target r = true ↔ k = .namespaces ∧ r.home? = some target.name := by
  simp [goesWith, other]

/-- A deletion does not tell records of one kind, name and namespace apart. -/
theorem goesWith_congr (k k' : Kind) (target : k.Record) (r other : k'.Record)
    (name : r.name = other.name) (home : r.home? = other.home?) :
    goesWith target r = goesWith target other := by
  simp only [goesWith, name, home]

theorem select_without (c : Cluster) (k k' : Kind) (target : k.Record) (scope name : Option String) :
    (c.without target).select k' scope name =
      (c.select k' scope name).filter fun r => !goesWith target r := by
  simp only [select, records_without, List.filter_filter, Bool.and_comm]

/-- The records of one kind with one name in one namespace are gone, and nothing else. -/
structure LosesNamed (before after : Cluster) (k : Kind) (name home : String) : Prop where
  named : after.records k =
    (before.records k).filter fun r => !decide (r.name = name ∧ r.home? = some home)
  others : ∀ k' ≠ k, after.records k' = before.records k'

/-- The namespaces of one name are gone with everything that lies in them, and nothing else. -/
structure LosesNamespace (before after : Cluster) (name : String) : Prop where
  named : after.records .namespaces =
    (before.records .namespaces).filter fun r => !decide (r.name = name)
  housed : ∀ k ≠ Kind.namespaces,
    after.records k = (before.records k).filter fun r => !decide (r.home? = some name)

theorem losesNamed_without (c : Cluster) (k : Kind) (target : k.Record) (home : String)
    (namespaced : k ≠ .namespaces) (at_home : target.home? = some home) :
    c.LosesNamed (c.without target) k target.name home where
  named := by
    rw [records_without]
    simp [goesWith, at_home]
  others := by
    intro k' other
    rw [records_without]
    simp [goesWith, other, namespaced]

theorem losesNamespace_without (c : Cluster) (target : Kind.namespaces.Record) :
    c.LosesNamespace (c.without target) target.name where
  named := by
    rw [records_without]
    simp [goesWith, home?_namespaces]
  housed := by
    intro k namespaced
    rw [records_without]
    simp [goesWith, namespaced]

theorem mem_namespaceNames (c : Cluster) (home : String) :
    home ∈ c.namespaceNames ↔ ∃ r ∈ c.records .namespaces, r.name = home :=
  List.mem_map

/-- Whatever lies in the namespace finds a record of it. -/
def IsHoused (c : Cluster) (home : String) : Prop :=
  ∀ k, ∀ r ∈ c.records k, r.home? = some home → home ∈ c.namespaceNames

/-- The last record of a namespace leaves together with all that lies in it. -/
theorem isHoused_without (c : Cluster) (k : Kind) (target : k.Record) (home : String)
    (housed : c.IsHoused home) : (c.without target).IsHoused home := by
  intro k' r member lies
  rw [records_without, List.mem_filter, Bool.not_eq_true'] at member
  obtain ⟨held, stays⟩ := member
  obtain ⟨owner, owned, named⟩ := (mem_namespaceNames c home).mp (housed k' r held lies)
  refine (mem_namespaceNames _ home).mpr ⟨owner, ?_, named⟩
  rw [records_without, List.mem_filter, Bool.not_eq_true']
  refine ⟨owned, ?_⟩
  by_contra goes
  rw [Bool.not_eq_false] at goes
  have namespaced : k' ≠ .namespaces := by
    intro isNamespace
    subst isNamespace
    cases lies
  by_cases kind : k = .namespaces
  · subst kind
    have sameName := ((goesWith_same_kind .namespaces target owner).mp goes).1
    have taken := (goesWith_other_kind .namespaces k' target r namespaced).mpr
      ⟨rfl, by rw [lies, ← named, sameName]⟩
    rw [taken] at stays
    cases stays
  · exact kind ((goesWith_other_kind k .namespaces target owner (Ne.symm kind)).mp goes).1

theorem target_not_mem_without (c : Cluster) (k : Kind) (target : k.Record) :
    target ∉ (c.without target).records k := by
  rw [records_without]
  simp [goesWith_self]

theorem without_ne (c : Cluster) (k : Kind) (target : k.Record) (held : target ∈ c.records k) :
    c.without target ≠ c := by
  intro same
  have gone := target_not_mem_without c k target
  rw [same] at gone
  exact gone held

end ClusterInspector.Cluster
