import ClusterInspector.Cluster.Kind
import Mathlib.Tactic.ByContra

/-!
# Words that name kinds

A word names a kind in letters of any case, and case is a matter of ASCII here: of the letters outside
ASCII only the dotted `İ` and the Kelvin sign have ASCII letters for their small ones, and these are
in no alias.
-/
namespace ClusterInspector

namespace Text

namespace CaseRun

/-- The counterparts of the run are characters outside ASCII. -/
def StaysForeign (r : CaseRun) : Prop :=
  0x80 ≤ r.first + r.distance ∧
    (r.first + r.step * r.count + r.distance ≤ 0xD800 ∨
      0xE000 ≤ r.first + r.distance ∧ r.first + r.step * r.count + r.distance ≤ 0x110000)

instance (r : CaseRun) : Decidable r.StaysForeign := inferInstanceAs (Decidable (_ ∧ _))

theorem image?_eq_some_iff (r : CaseRun) (n m : Nat) :
    r.image? n = some m ↔
      (r.first ≤ n ∧ n < r.first + r.step * r.count ∧ (n - r.first) % r.step = 0) ∧
        (n + r.distance).toNat = m := by
  simp [image?]

theorem StaysForeign.le_image {r : CaseRun} (stays : r.StaysForeign) {n m : Nat}
    (image : r.image? n = some m) : 0x80 ≤ (Char.ofNat m).toNat := by
  obtain ⟨⟨lower, upper, _⟩, at_distance⟩ := (r.image?_eq_some_iff n m).mp image
  obtain ⟨outside, scalar⟩ := stays
  have valid : m.isValidChar := by
    unfold Nat.isValidChar
    omega
  have same : (Char.ofNat m).toNat = m := by
    rw [Char.ofNat, dif_pos valid]
    rfl
  omega

end CaseRun

/-- The Kelvin sign. -/
def kelvin : CaseRun := ⟨0x212A, 1, 1, -8383⟩

theorem capitalRuns_stayForeign : ∀ r ∈ capitalRuns, r = kelvin ∨ r.StaysForeign := by
  decide +kernel

theorem image?_kelvin {n m : Nat} (image : kelvin.image? n = some m) : m = 0x6B := by
  obtain ⟨⟨lower, upper, _⟩, at_distance⟩ := (kelvin.image?_eq_some_iff n m).mp image
  simp only [kelvin] at lower upper at_distance
  omega

theorem lowerChar_of_ascii {c : Char} (ascii : c.toNat < 0x80) : lowerChar c = [c.toLower] :=
  if_pos ascii

/-- The small letter of a letter outside ASCII is outside ASCII, or one of two. -/
theorem mem_lowerChar_of_foreign {c x : Char} (foreign : 0x80 ≤ c.toNat) (small : x ∈ lowerChar c) :
    0x80 ≤ x.toNat ∨ x = 'i' ∨ x = 'k' := by
  rw [lowerChar, if_neg (Nat.not_lt.mpr foreign)] at small
  split at small
  · rcases List.mem_cons.mp small with letter | dot
    · exact Or.inr (Or.inl letter)
    · rw [List.mem_singleton.mp dot]
      exact Or.inl (by decide)
  · rw [List.mem_singleton.mp small]
    cases found : capitalRuns.findSome? (·.image? c.toNat) with
    | none => exact Or.inl foreign
    | some m =>
      obtain ⟨r, capital, image⟩ := List.exists_of_findSome?_eq_some found
      rcases capitalRuns_stayForeign r capital with rfl | stays
      · rw [image?_kelvin image]
        exact Or.inr (Or.inr rfl)
      · exact Or.inl (stays.le_image image)

theorem exists_mem_lowerChar (c : Char) : ∃ x, x ∈ lowerChar c := by
  unfold lowerChar
  split
  · exact ⟨_, List.mem_singleton_self _⟩
  · split
    · exact ⟨_, List.mem_cons_self⟩
    · exact ⟨_, List.mem_singleton_self _⟩

theorem flatMap_lowerChar_of_ascii (cs : List Char) (ascii : ∀ c ∈ cs, c.toNat < 0x80) :
    cs.flatMap lowerChar = cs.map Char.toLower := by
  induction cs with
  | nil => rfl
  | cons c rest ih =>
    rw [List.flatMap_cons, List.map_cons, lowerChar_of_ascii (ascii c List.mem_cons_self),
      ih fun c member => ascii c (List.mem_cons_of_mem _ member), List.singleton_append]

theorem toLower_of_foreign {c : Char} (foreign : 0x80 ≤ c.toNat) : c.toLower = c := by
  unfold Char.toLower
  refine dif_neg ?_
  rintro ⟨_, capital⟩
  have small : c.toNat ≤ 'Z'.toNat := UInt32.le_iff_toNat_le.mp capital
  have bound : 'Z'.toNat < 0x80 := by decide
  omega

end Text

namespace Kind

/-- The word is an alias of the kind, up to the case of ASCII letters. -/
def IsNamedBy (k : Kind) (word : String) : Prop :=
  ∃ a ∈ k.aliases, word.toList.map Char.toLower = a.toList

theorem alias_letters (k : Kind) :
    ∀ a ∈ k.aliases, ∀ x ∈ a.toList, x.toNat < 0x80 ∧ x ≠ 'i' ∧ x ≠ 'k' := by
  have letters : k.aliases.all (fun a => a.toList.all fun x =>
      decide (x.toNat < 0x80 ∧ x ≠ 'i' ∧ x ≠ 'k')) = true := by
    cases k <;> decide
  intro a isAlias x member
  exact of_decide_eq_true (List.all_eq_true.mp (List.all_eq_true.mp letters a isAlias) x member)

theorem eq_of_alias (k k' : Kind) : ∀ a ∈ k.aliases, a ∈ k'.aliases → k = k' := by
  cases k <;> cases k' <;> decide

theorem ofWord?_eq_some_iff_lower (word : String) (k : Kind) :
    ofWord? word = some k ↔ Text.lower word ∈ k.aliases := by
  constructor
  · intro named
    simpa using List.find?_some named
  · intro isAlias
    cases found : ofWord? word with
    | none =>
      have missed := List.find?_eq_none.mp found k k.mem_all
      simp only [List.contains_iff_mem] at missed
      exact absurd isAlias missed
    | some k' =>
      have isAlias' : Text.lower word ∈ k'.aliases := by simpa using List.find?_some found
      rw [eq_of_alias k' k _ isAlias' isAlias]

/-- No alias is the lower case of a word with a letter outside ASCII. -/
theorem ascii_of_lower_alias (word : String) (k : Kind) (isAlias : Text.lower word ∈ k.aliases) :
    ∀ c ∈ word.toList, c.toNat < 0x80 := by
  intro c member
  by_contra foreign
  obtain ⟨x, small⟩ := Text.exists_mem_lowerChar c
  have within : x ∈ (Text.lower word).toList := by
    rw [Text.lower, String.toList_ofList]
    exact List.mem_flatMap.mpr ⟨c, member, small⟩
  obtain ⟨ascii, notI, notK⟩ := alias_letters k _ isAlias x within
  rcases Text.mem_lowerChar_of_foreign (Nat.not_lt.mp foreign) small with outside | rfl | rfl
  · exact absurd ascii (Nat.not_lt.mpr outside)
  · exact notI rfl
  · exact notK rfl

theorem ascii_of_isNamedBy (word : String) (k : Kind) (named : k.IsNamedBy word) :
    ∀ c ∈ word.toList, c.toNat < 0x80 := by
  obtain ⟨a, isAlias, same⟩ := named
  intro c member
  by_contra foreign
  have kept := Text.toLower_of_foreign (Nat.not_lt.mp foreign)
  have within : c ∈ a.toList := by
    rw [← same, ← kept]
    exact List.mem_map_of_mem member
  exact foreign (alias_letters k a isAlias c within).1

theorem ofWord?_eq_some_iff (word : String) (k : Kind) :
    ofWord? word = some k ↔ k.IsNamedBy word := by
  rw [ofWord?_eq_some_iff_lower]
  constructor
  · intro isAlias
    have ascii := ascii_of_lower_alias word k isAlias
    refine ⟨_, isAlias, ?_⟩
    rw [Text.lower, String.toList_ofList, Text.flatMap_lowerChar_of_ascii _ ascii]
  · intro named
    have ascii := ascii_of_isNamedBy word k named
    obtain ⟨a, isAlias, same⟩ := named
    rw [Text.lower, Text.flatMap_lowerChar_of_ascii _ ascii, same, String.ofList_toList]
    exact isAlias

/-- The long `s` is a small letter already. -/
example : ofWord? "PODS" = some .pods ∧ ofWord? "pod\u017F" = none := by decide

theorem ofWord?_eq_none_iff (word : String) :
    ofWord? word = none ↔ ∀ k : Kind, ¬ k.IsNamedBy word := by
  simp only [Option.eq_none_iff_forall_ne_some, ne_eq, ofWord?_eq_some_iff]

theorem ofWord?_of_foreign (word : String) (foreign : ∃ c ∈ word.toList, 0x80 ≤ c.toNat) :
    ofWord? word = none := by
  obtain ⟨c, member, outside⟩ := foreign
  refine (ofWord?_eq_none_iff word).mpr fun k named => ?_
  exact Nat.not_lt.mpr outside (ascii_of_isNamedBy word k named c member)

end Kind

end ClusterInspector
