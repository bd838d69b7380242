import ClusterInspector.Proofs.ReadBack
import Mathlib.Data.Nat.Digits.Defs

/-!
# Amounts in a text

What an age text says, without reading it from left to right: the amounts that stand in it, and of each unit
the one that stands last. Main statements: the parts that reading collects are the amounts that stand in the
text, in order; and when reading succeeds, with what, and which of the two limits it meets otherwise.
-/
namespace ClusterInspector.Age

namespace TimeUnit

def letter : TimeUnit → Char
  | day => 'd'
  | hour => 'h'
  | minute => 'm'
  | second => 's'

theorem ofLetter?_letter (u : TimeUnit) : ofLetter? u.letter = some u := by
  cases u <;> rfl

theorem eq_letter_of_ofLetter? {c : Char} {u : TimeUnit} (isUnit : ofLetter? c = some u) :
    c = u.letter := by
  unfold ofLetter? at isUnit
  split at isUnit <;> cases isUnit <;> rfl

theorem digitValue?_letter (u : TimeUnit) : Text.digitValue? u.letter = none := by
  cases u <;> rfl

end TimeUnit

/-- An amount that stands in a text: a run of digits that no digit precedes, and right after it the letter
of a unit. -/
structure Occurrence (text : List Char) where
  before : List Char
  digits : List Char
  unit : TimeUnit
  after : List Char
  split : text = before ++ (digits ++ unit.letter :: after)
  nonempty : digits ≠ []
  areDigits : ∀ c ∈ digits, Text.isDigit c = true
  begins : ∀ c ∈ before.getLast?, Text.isDigit c = false

namespace Occurrence

variable {text : List Char}

/-- The number that the digits write. -/
def value (o : Occurrence text) : Nat :=
  Nat.ofDigits 10 (o.digits.filterMap Text.digitValue?).reverse

/-- The part that reading makes of it. -/
def part (o : Occurrence text) : Part := ⟨o.digits.filterMap Text.digitValue?, o.unit⟩

/-- The amount in a longer text, where no digit stands before what follows. -/
def extend (o : Occurrence text) (front : List Char)
    (settled : ∀ c ∈ front.getLast?, Text.isDigit c = false) : Occurrence (front ++ text) where
  before := front ++ o.before
  digits := o.digits
  unit := o.unit
  after := o.after
  split := by rw [List.append_assoc, ← o.split]
  nonempty := o.nonempty
  areDigits := o.areDigits
  begins := by
    intro c last
    rw [List.getLast?_append] at last
    cases ending : o.before.getLast? with
    | none =>
      rw [ending, Option.none_or] at last
      exact settled c last
    | some d =>
      rw [ending, Option.some_or] at last
      exact o.begins c (ending ▸ last)

theorem ofDigits_part (o : Occurrence text) : Text.ofDigits o.part.digits = o.value := by
  rw [value, part, Nat.ofDigits_eq_foldr, List.foldr_reverse, Text.ofDigits]
  congr 1
  funext n d
  exact Nat.add_comm _ _

theorem length_part (o : Occurrence text) : o.part.digits.length = o.digits.length :=
  List.filterMap_length_eq_length.mpr o.areDigits

end Occurrence

/-- What stands before a text is read on its own, unless its last digits run on. -/
theorem partsAfter_append (run : List Nat) (front text : List Char)
    (settled : ∀ c ∈ front.getLast?, Text.isDigit c = false) (held : front = [] → run = []) :
    partsAfter run (front ++ text) = partsAfter run front ++ partsAfter [] text := by
  induction front generalizing run with
  | nil =>
    rw [held rfl]
    rfl
  | cons c rest ih =>
    have later : ∀ d ∈ rest.getLast?, Text.isDigit d = false := by
      intro d last
      refine settled d ?_
      rw [List.getLast?_cons, Option.mem_def.mp last]
      rfl
    cases value : Text.digitValue? c with
    | some d =>
      have more : rest ≠ [] := by
        rintro rfl
        have none := settled c rfl
        simp [Text.isDigit, value] at none
      simp only [List.cons_append, partsAfter, value]
      exact ih (d :: run) later (fun empty => absurd empty more)
    | none =>
      simp only [List.cons_append, partsAfter, value, ih [] later (fun _ => rfl)]
      split <;> rfl

/-- An amount that stands in a text is one of its parts, among those before it and those after it. -/
theorem Occurrence.parts_eq {text : List Char} (o : Occurrence text) :
    partsAfter [] text = partsAfter [] o.before ++ o.part :: partsAfter [] o.after := by
  conv_lhs => rw [o.split]
  rw [partsAfter_append [] o.before _ o.begins (fun _ => rfl),
    partsAfter_amount o.digits o.unit.letter o.unit o.after o.nonempty o.areDigits
      o.unit.ofLetter?_letter o.unit.digitValue?_letter]
  rfl

/-- Each part stands in the text, the parts after it behind it. The digits that the reading holds are those
right before the text that is left. -/
theorem exists_occurrence_after (held text : List Char) (areDigits : ∀ c ∈ held, Text.isDigit c = true)
    (p : Part) (ps ps' : List Part)
    (read : partsAfter (held.filterMap Text.digitValue?).reverse text = ps ++ p :: ps') :
    ∃ o : Occurrence (held ++ text), o.part = p ∧ partsAfter [] o.after = ps' := by
  induction text generalizing held ps with
  | nil => simp [partsAfter] at read
  | cons c rest ih =>
    have fresh (ps : List Part) (read : partsAfter [] rest = ps ++ p :: ps')
        (other : Text.digitValue? c = none) :
        ∃ o : Occurrence (held ++ c :: rest), o.part = p ∧ partsAfter [] o.after = ps' := by
      obtain ⟨o, isPart, after⟩ := ih [] (List.forall_mem_nil _) ps read
      rw [List.append_cons]
      refine ⟨o.extend (held ++ [c]) ?_, isPart, after⟩
      simp [Text.isDigit, other]
    -- a digit is held too, a unit right after digits ends an amount, all else begins afresh
    cases value : Text.digitValue? c with
    | some d =>
      rw [List.append_cons]
      refine ih (held ++ [c]) ?_ ps ?_
      · intro e member
        rcases List.mem_append.mp member with old | new
        · exact areDigits e old
        · rw [List.mem_singleton.mp new, Text.isDigit, value]
          rfl
      · simpa [partsAfter, value] using read
    | none =>
      cases unit : TimeUnit.ofLetter? c with
      | none =>
        simp only [partsAfter, value, unit] at read
        exact fresh ps read value
      | some u =>
        by_cases nonempty : held = []
        · subst nonempty
          exact fresh ps (by simpa [partsAfter, value, unit] using read) value
        · obtain rfl := TimeUnit.eq_letter_of_ofLetter? unit
          have first := partsAfter_amount held u.letter u rest nonempty areDigits unit value
          rw [partsAfter_digits [] held _ areDigits, List.append_nil, read] at first
          cases ps with
          | nil =>
            obtain ⟨own, others⟩ := List.cons.inj first
            exact ⟨⟨[], held, u, rest, rfl, nonempty, areDigits, by simp⟩, own.symm, others.symm⟩
          | cons q ps =>
            exact fresh ps (List.cons.inj first).2.symm value

theorem exists_occurrence {text : List Char} {p : Part} {ps ps' : List Part}
    (read : partsAfter [] text = ps ++ p :: ps') :
    ∃ o : Occurrence text, o.part = p ∧ partsAfter [] o.after = ps' :=
  exists_occurrence_after [] text (List.forall_mem_nil _) p ps ps' read

theorem exists_occurrence_of_mem {text : List Char} {p : Part} (member : p ∈ partsAfter [] text) :
    ∃ o : Occurrence text, o.part = p := by
  obtain ⟨ps, ps', read⟩ := List.append_of_mem member
  obtain ⟨o, isPart, _⟩ := exists_occurrence read
  exact ⟨o, isPart⟩

theorem Occurrence.part_mem {text : List Char} (o : Occurrence text) :
    o.part ∈ partsAfter [] text := by
  rw [o.parts_eq]
  exact List.mem_append_right _ List.mem_cons_self

namespace Occurrence

variable {text : List Char}

/-- What stands behind an amount stands in the text, further on. -/
theorem exists_beyond (o : Occurrence text) (l : Occurrence o.after) :
    ∃ o' : Occurrence text, o'.part = l.part ∧ o.before.length < o'.before.length := by
  have settled : ∀ c ∈ (o.before ++ (o.digits ++ [o.unit.letter])).getLast?,
      Text.isDigit c = false := by
    intro c last
    have letter : c = o.unit.letter := by simpa using last.symm
    rw [letter, Text.isDigit, o.unit.digitValue?_letter]
    rfl
  have split : text = (o.before ++ (o.digits ++ [o.unit.letter])) ++ o.after := by
    rw [List.append_assoc, List.append_assoc]
    exact o.split
  have longer : o.before.length <
      ((o.before ++ (o.digits ++ [o.unit.letter])) ++ l.before).length := by
    simp only [List.length_append, List.length_singleton]
    omega
  let far := l.extend _ settled
  exact ⟨⟨far.before, far.digits, far.unit, far.after, split.trans far.split, far.nonempty,
    far.areDigits, far.begins⟩, rfl, longer⟩

/-- An amount that stands further on stands behind: runs of digits do not overlap. -/
theorem exists_behind (o o' : Occurrence text) (further : o.before.length < o'.before.length) :
    ∃ l : Occurrence o.after, l.part = o'.part := by
  have same : o.before ++ (o.digits ++ o.unit.letter :: o.after) =
      o'.before ++ (o'.digits ++ o'.unit.letter :: o'.after) := by
    rw [← o.split]
    exact o'.split
  have notWithin (between : List Char) (some : between ≠ []) (within : o'.before = o.before ++ between)
      (areDigits : ∀ c ∈ between, Text.isDigit c = true) : False := by
    have last := List.getLast?_eq_some_getLast some
    have digit := areDigits (between.getLast some) (List.getLast_mem some)
    have other := o'.begins (between.getLast some) (by
      rw [within, List.getLast?_append, last]
      rfl)
    rw [digit] at other
    cases other
  rcases List.append_eq_append_iff.mp same with ⟨between, within, rest⟩ | ⟨between, within, rest⟩
  · have some : between ≠ [] := by
      rintro rfl
      simp [within] at further
    rcases List.append_eq_append_iff.mp rest with ⟨beyond, all, tail⟩ | ⟨left, all, tail⟩
    · cases beyond with
      | nil =>
        rw [List.append_nil] at all
        exact (notWithin between some within (all ▸ o.areDigits)).elim
      | cons c beyond =>
        obtain ⟨rfl, split⟩ := List.cons.inj tail
        refine ⟨⟨beyond, o'.digits, o'.unit, o'.after, split, o'.nonempty, o'.areDigits, ?_⟩, rfl⟩
        intro c last
        refine o'.begins c ?_
        rw [within, all, List.getLast?_append, List.getLast?_append, List.getLast?_cons,
          Option.mem_def.mp last]
        rfl
    · refine (notWithin between some within fun c member => ?_).elim
      exact o.areDigits c (all ▸ List.mem_append_left _ member)
  · have shorter : o'.before.length ≤ o.before.length := by
      rw [within, List.length_append]
      omega
    omega

end Occurrence

/-- The number of a unit that a text gives: that of the last amount of the unit, none counting as 0. -/
inductive IsAmount (text : List Char) (u : TimeUnit) : Nat → Prop
  | last (o : Occurrence text) (own : o.unit = u)
      (isLast : ∀ o' : Occurrence text, o'.unit = u → o'.before.length ≤ o.before.length) :
      IsAmount text u o.value
  | absent (none : ∀ o : Occurrence text, o.unit ≠ u) : IsAmount text u 0

/-- The last part of a unit is the last amount of the unit that stands in the text. -/
theorem isAmount_iff (text : List Char) (u : TimeUnit) (n : Nat) :
    IsAmount text u n ↔ n = amount (partsAfter [] text) u := by
  constructor
  · intro given
    cases given with
    | last o own isLast =>
      have others : (partsAfter [] o.after).filter (·.unit = u) = [] := by
        rw [List.filter_eq_nil_iff]
        intro p member isUnit
        obtain ⟨l, rfl⟩ := exists_occurrence_of_mem member
        obtain ⟨o', same, further⟩ := o.exists_beyond l
        have unit : o'.unit = l.unit := congrArg Part.unit same
        have bound := isLast o' (unit.trans (of_decide_eq_true isUnit))
        omega
      have kept : (o.part :: partsAfter [] o.after).filter (·.unit = u) = [o.part] := by
        have counts : decide (o.part.unit = u) = true := decide_eq_true own
        rw [List.filter_cons, if_pos counts, others]
      rw [amount, o.parts_eq, List.filter_append, kept, List.getLast?_concat]
      exact o.ofDigits_part.symm
    | absent none =>
      have nothing : (partsAfter [] text).filter (·.unit = u) = [] := by
        rw [List.filter_eq_nil_iff]
        intro p member isUnit
        obtain ⟨o, rfl⟩ := exists_occurrence_of_mem member
        exact none o (of_decide_eq_true isUnit)
      rw [amount, nothing]
      rfl
  · rintro rfl
    unfold amount
    split
    · rename_i p last
      obtain ⟨earlier, filtered⟩ := List.getLast?_eq_some_iff.mp last
      obtain ⟨ps, rest, whole, _, filtered⟩ := List.filter_eq_append_iff.mp filtered
      obtain ⟨ps', ps'', rfl, _, isUnit, later⟩ := List.filter_eq_cons_iff.mp filtered
      rw [← List.append_assoc] at whole
      obtain ⟨o, rfl, after⟩ := exists_occurrence whole
      rw [o.ofDigits_part]
      refine .last o (of_decide_eq_true isUnit) ?_
      intro o' own
      by_contra further
      obtain ⟨l, same⟩ := o.exists_behind o' (by omega)
      rw [List.filter_eq_nil_iff] at later
      refine later o'.part ?_ (decide_eq_true own)
      rw [← after, ← same]
      exact l.part_mem
    · rename_i nothing
      rw [List.getLast?_eq_none_iff, List.filter_eq_nil_iff] at nothing
      exact .absent fun o own => nothing o.part o.part_mem (decide_eq_true own)

/-- A run of more than 4300 digits has the letter of a unit right after it. -/
def IsOverlong (text : List Char) : Prop := ∃ o : Occurrence text, 4300 < o.digits.length

theorem isOverlong_iff (s : String) :
    IsOverlong s.toList ↔ ∃ p ∈ parts s, p.isReadable = false := by
  have unreadable (o : Occurrence s.toList) :
      4300 < o.digits.length ↔ o.part.isReadable = false := by
    rw [Part.isReadable, o.length_part, decide_eq_false_iff_not, Nat.not_le]
    rfl
  constructor
  · rintro ⟨o, long⟩
    exact ⟨o.part, o.part_mem, (unreadable o).mp long⟩
  · rintro ⟨p, member, long⟩
    obtain ⟨o, rfl⟩ := exists_occurrence_of_mem member
    exact ⟨o, (unreadable o).mpr long⟩

theorem read_of_isOverlong (s : String) (overlong : IsOverlong s.toList) :
    ∃ digits, read s = .error (.numeralTooLong digits) := by
  obtain ⟨p, member, long⟩ := (isOverlong_iff s).mp overlong
  cases found : (parts s).find? (!·.isReadable) with
  | none =>
    rw [List.find?_eq_none] at found
    exact absurd (by simpa using long) (found p member)
  | some q =>
    refine ⟨q.digits.length, ?_⟩
    simp only [read, found]

theorem read_of_not_isOverlong (s : String) (readable : ¬ IsOverlong s.toList) :
    read s =
      if total (parts s) / 86400 ≤ 999999999 then .ok (total (parts s))
      else .error (.ageTooLong (total (parts s) / 86400)) := by
  have found : (parts s).find? (!·.isReadable) = none := by
    rw [List.find?_eq_none]
    intro p member long
    exact readable ((isOverlong_iff s).mpr ⟨p, member, by simpa using long⟩)
  simp only [read, found]
  rfl

/-- Of each unit the last amount counts and nothing else in the text does. Reading fails where a run of
digits before a unit is too long, whether it counts or not, otherwise where the sum exceeds so many days, and
nowhere else. -/
theorem read_is_declared (s : String) :
    ∃ amounts : TimeUnit → Nat, (∀ u n, IsAmount s.toList u n ↔ n = amounts u) ∧
      let seconds := amounts .day * 86400 + amounts .hour * 3600 + amounts .minute * 60 +
        amounts .second
      ((∃ f, read s = .error f ∧ f.title = "ValueError") ↔ IsOverlong s.toList) ∧
      ((∃ f, read s = .error f ∧ f.title = "OverflowError") ↔
        ¬ IsOverlong s.toList ∧ 999999999 < seconds / 86400) ∧
      (∀ n, read s = .ok n ↔
        ¬ IsOverlong s.toList ∧ seconds / 86400 ≤ 999999999 ∧ n = seconds) ∧
      ∀ f, read s = .error f → f.title = "ValueError" ∨ f.title = "OverflowError" := by
  refine ⟨amount (parts s), isAmount_iff s.toList, ?_⟩
  intro seconds
  have sum : total (parts s) = seconds := by
    simp only [total, TimeUnit.seconds, Nat.mul_one]
    rfl
  by_cases overlong : IsOverlong s.toList
  · obtain ⟨digits, long⟩ := read_of_isOverlong s overlong
    simp [long, overlong, Fault.title]
  · rw [read_of_not_isOverlong s overlong, sum]
    by_cases short : seconds / 86400 ≤ 999999999
    · simp [overlong, short, eq_comm]
    · have long : 999999999 < seconds / 86400 := by omega
      simp [overlong, short, long, Fault.title]

/-- The hours given last count; the digits before the `x` and at the end belong to no unit. -/
example : read "5h7x1d 3h2" = .ok 97200 := by decide +kernel

end ClusterInspector.Age
