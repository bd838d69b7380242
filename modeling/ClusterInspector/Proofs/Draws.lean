import ClusterInspector.Generator
import Mathlib.Data.List.Forall2
import Mathlib.Logic.Relation

/-!
# Draws

What can be said of a draw without knowing its source: which condition its value satisfies whenever
there is one, and that the one way in which it can fail is that it runs out of names, where all the
names that are made in so many attempts are taken. A draw is followed step by step.
-/
namespace ClusterInspector.Generator

open Chance (Source)

variable {σ α β : Type} [Source σ]

/-- One choice takes the source from one state to the next. -/
inductive Chooses : σ → σ → Prop
  | between (lo hi : Nat) (h : lo ≤ hi) (s : σ) : Chooses s (Source.between lo hi h s).2
  | index (count : Nat) (h : 0 < count) (s : σ) : Chooses s (Source.index count h s).2
  | fraction (s : σ) : Chooses s (Source.fraction s).2

/-- Choices take the source from the one state to the other. -/
abbrev Leads : σ → σ → Prop := Relation.ReflTransGen Chooses

/-- From any source the draw comes to a value that satisfies the condition, or else it runs out of
names; its choices have then led to where the source is dry. -/
def Yields (dry : σ → Prop) (x : Draw σ α) (P : α → Prop) : Prop :=
  ∀ source, Leads source (x.run source).2 ∧
    (((x.run source).1 = .error .namesExhausted ∧ ∃ s, Leads source s ∧ dry s) ∨
      ∃ a, (x.run source).1 = .ok a ∧ P a)

variable {dry : σ → Prop}

namespace Yields

theorem of_ok {x : Draw σ α} {P : α → Prop} (yields : Yields dry x P) (source : σ) (a : α)
    (drawn : (x.run source).1 = .ok a) : P a := by
  rcases (yields source).2 with ⟨exhausted, _⟩ | ⟨a', drawn', holds⟩
  · rw [drawn] at exhausted
    cases exhausted
  · rw [drawn] at drawn'
    cases drawn'
    exact holds

theorem pure {P : α → Prop} {a : α} (holds : P a) : Yields dry (Pure.pure a : Draw σ α) P :=
  fun _ => ⟨.refl, Or.inr ⟨a, rfl, holds⟩⟩

theorem bind {x : Draw σ α} {next : α → Draw σ β} {P : α → Prop} {Q : β → Prop}
    (first : Yields dry x P) (rest : ∀ a, P a → Yields dry (next a) Q) :
    Yields dry (x >>= next) Q := by
  intro source
  obtain ⟨leads, outcome⟩ := first source
  rw [ExceptT.run_bind]
  simp only [Bind.bind, StateT.bind]
  generalize x.run source = drawn at leads outcome ⊢
  obtain ⟨_ | a, moved⟩ := drawn
  · rcases outcome with ⟨exhausted, ranDry⟩ | ⟨_, impossible, _⟩
    · cases exhausted
      exact ⟨leads, Or.inl ⟨rfl, ranDry⟩⟩
    · cases impossible
  · rcases outcome with ⟨impossible, _⟩ | ⟨_, same, holds⟩
    · cases impossible
    · cases same
      obtain ⟨onwards, outcome⟩ := rest a holds moved
      refine ⟨leads.trans onwards, outcome.imp_left ?_⟩
      rintro ⟨exhausted, s, led, isDry⟩
      exact ⟨exhausted, s, leads.trans led, isDry⟩

theorem mono {x : Draw σ α} {P Q : α → Prop} (yields : Yields dry x P) (weaker : ∀ a, P a → Q a) :
    Yields dry x Q := by
  intro source
  obtain ⟨leads, outcome⟩ := yields source
  refine ⟨leads, outcome.imp_right ?_⟩
  rintro ⟨a, drawn, holds⟩
  exact ⟨a, drawn, weaker a holds⟩

/-- A draw for each of some values comes to as many, each with what holds of its own draw. -/
theorem mapM {R : α → β → Prop} {draw : α → Draw σ β} (each : ∀ a, Yields dry (draw a) (R a))
    (as : List α) : Yields dry (as.mapM draw) (List.Forall₂ R as) := by
  induction as with
  | nil => exact pure .nil
  | cons a as ih =>
    rw [List.mapM_cons]
    refine (each a).bind fun b holds => ih.bind fun bs others => ?_
    exact pure (.cons holds others)

end Yields

theorem yields_between (lo hi : Nat) (h : lo ≤ hi) :
    Yields dry (between lo hi h : Draw σ _) fun _ => True :=
  fun source => ⟨.single (.between lo hi h source), Or.inr ⟨_, rfl, trivial⟩⟩

theorem yields_pick (xs : List α) (h : 0 < xs.length) :
    Yields dry (pick xs h : Draw σ α) fun _ => True :=
  fun source => ⟨.single (.index xs.length h source), Or.inr ⟨_, rfl, trivial⟩⟩

theorem yields_chance (p q : Nat) : Yields dry (chance p q : Draw σ Bool) fun _ => True :=
  fun source => ⟨.single (.fraction source), Or.inr ⟨_, rfl, trivial⟩⟩

/-- The names that are made one after the other, so many of them, are all taken. -/
def AllTaken (make : Draw σ String) (taken : List String) : (attempts : Nat) → σ → Prop
  | 0, _ => True
  | attempts + 1, s =>
    ∃ name ∈ taken, (make.run s).1 = .ok name ∧ AllTaken make taken attempts (make.run s).2

/-- A name that is not taken turns up, unless all that are made are taken. Making one never fails. -/
theorem freshName_spec (make : Draw σ String) (taken : List String)
    (names : Yields (fun _ => False) make fun _ => True) (attempts : Nat) (source : σ) :
    let drawn := (freshName make taken attempts).run source
    Leads source drawn.2 ∧
      (drawn.1 = .error .namesExhausted ∧ AllTaken make taken attempts source ∨
        ∃ name, drawn.1 = .ok name ∧ name ∉ taken) := by
  induction attempts generalizing source with
  | zero => exact ⟨.refl, Or.inl ⟨rfl, trivial⟩⟩
  | succ attempts ih =>
    obtain ⟨leads, ⟨_, _, _, impossible⟩ | ⟨name, made, _⟩⟩ := names source
    · cases impossible
    · have run : (freshName make taken (attempts + 1)).run source =
          (if taken.contains name then freshName make taken attempts else Pure.pure name).run
            (make.run source).2 := by
        rw [freshName, ExceptT.run_bind]
        simp only [Bind.bind, StateT.bind]
        generalize make.run source = drawn at made ⊢
        obtain ⟨_, moved⟩ := drawn
        cases made
        rfl
      rw [run]
      split
      · rename_i held
        obtain ⟨onwards, outcome⟩ := ih (make.run source).2
        refine ⟨leads.trans onwards, outcome.imp_left ?_⟩
        rintro ⟨exhausted, allTaken⟩
        exact ⟨exhausted, name, by simpa using held, made, allTaken⟩
      · rename_i free
        exact ⟨leads, Or.inr ⟨name, rfl, by simpa using free⟩⟩

theorem yields_freshName (make : Draw σ String) (taken : List String)
    (names : Yields (fun _ => False) make fun _ => True)
    (stuck : ∀ s, AllTaken make taken maxNameAttempts s → dry s) :
    Yields dry (freshName make taken maxNameAttempts) fun name => name ∉ taken := by
  intro source
  obtain ⟨leads, outcome⟩ := freshName_spec make taken names maxNameAttempts source
  refine ⟨leads, outcome.imp_left ?_⟩
  rintro ⟨exhausted, allTaken⟩
  exact ⟨exhausted, source, .refl, stuck source allTaken⟩

/-- So many records, of which the condition holds, with names that differ from each other and from
those taken before. -/
structure AreNamed (nameOf : α → String) (P : α → Prop) (count : Nat) (taken : List String)
    (rs : List α) : Prop where
  counted : rs.length = count
  unique : (rs.map nameOf).Nodup
  fresh : ∀ r ∈ rs, nameOf r ∉ taken
  each : ∀ r ∈ rs, P r

theorem AreNamed.nil (nameOf : α → String) (P : α → Prop) (taken : List String) :
    AreNamed nameOf P 0 taken [] :=
  ⟨rfl, .nil, nofun, nofun⟩

/-- The records made after one know its name as taken. -/
theorem AreNamed.cons {nameOf : α → String} {P : α → Prop} {count : Nat} {taken : List String}
    {rs : List α} {r : α} (free : nameOf r ∉ taken) (holds : P r)
    (rest : AreNamed nameOf P count (nameOf r :: taken) rs) :
    AreNamed nameOf P (count + 1) taken (r :: rs) where
  counted := congrArg (· + 1) rest.counted
  unique := by
    refine List.nodup_cons.mpr ⟨?_, rest.unique⟩
    intro again
    obtain ⟨other, member, same⟩ := List.mem_map.mp again
    refine rest.fresh other member ?_
    rw [same]
    exact List.mem_cons_self
  fresh := by
    refine List.forall_mem_cons.mpr ⟨free, fun other member held => ?_⟩
    exact rest.fresh other member (List.mem_cons_of_mem _ held)
  each := List.forall_mem_cons.mpr ⟨holds, rest.each⟩

theorem yields_named (nameOf : α → String) (P : α → Prop) (makeName : Draw σ String)
    (make : String → Draw σ α) (most : Nat) (names : Yields (fun _ => False) makeName fun _ => True)
    (stuck : ∀ taken : List String, taken.length < most →
      ∀ s, AllTaken makeName taken maxNameAttempts s → dry s)
    (each : ∀ name, Yields dry (make name) fun r => nameOf r = name ∧ P r) (count : Nat)
    (taken : List String) (few : taken.length + count ≤ most) :
    Yields dry (named makeName make count taken) (AreNamed nameOf P count taken) := by
  induction count generalizing taken with
  | zero => exact .pure (.nil nameOf P taken)
  | succ count ih =>
    unfold named
    refine (yields_freshName makeName taken names (stuck taken (by omega))).bind fun name free => ?_
    refine (each name).bind fun r ⟨isNamed, holds⟩ => ?_
    subst isNamed
    have few' : (nameOf r :: taken).length + count ≤ most := by
      rw [List.length_cons]
      omega
    exact (ih (nameOf r :: taken) few').bind fun rest others => .pure (.cons free holds others)

end ClusterInspector.Generator
