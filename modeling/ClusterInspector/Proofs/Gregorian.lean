import ClusterInspector.Calendar
import Mathlib.Algebra.Order.BigOperators.Group.List
import Mathlib.Data.List.GetD
import Mathlib.Data.List.Lex
import Mathlib.Order.Defs.LinearOrder
import Mathlib.Tactic.IntervalCases
import Mathlib.Tactic.SplitIfs

/-!
# The Gregorian calendar

The calendar as one counts it: which dates and times of day there are, and which instant is a second after
another. Main statements: a second later is a second more, so that instants are the seconds from the
beginning of year 1 and each number of seconds has its instant; the order of instants is that of their
year, month, day, hour, minute and second.
-/
namespace ClusterInspector.Calendar

/-- April, June, September and November have 30 days, February 28 and in a leap year 29, the others 31. -/
def monthLength (year month : Nat) : Nat :=
  if month = 2 then if year % 4 = 0 ∧ (year % 100 ≠ 0 ∨ year % 400 = 0) then 29 else 28
  else if month ∈ [4, 6, 9, 11] then 30
  else 31

structure Date.IsValid (d : Date) : Prop where
  year : 1 ≤ d.year
  month : 1 ≤ d.month ∧ d.month ≤ 12
  day : 1 ≤ d.day ∧ d.day ≤ monthLength d.year d.month

structure DateTime.IsValid (t : DateTime) : Prop where
  date : t.toDate.IsValid
  hour : t.hour < 24
  minute : t.minute < 60
  second : t.second < 60

instance (d : Date) : Decidable d.IsValid :=
  decidable_of_iff (1 ≤ d.year ∧ (1 ≤ d.month ∧ d.month ≤ 12) ∧
      1 ≤ d.day ∧ d.day ≤ monthLength d.year d.month)
    ⟨fun ⟨year, month, day⟩ => ⟨year, month, day⟩, fun ⟨year, month, day⟩ => ⟨year, month, day⟩⟩

instance (t : DateTime) : Decidable t.IsValid :=
  decidable_of_iff (t.toDate.IsValid ∧ t.hour < 24 ∧ t.minute < 60 ∧ t.second < 60)
    ⟨fun ⟨date, hour, minute, second⟩ => ⟨date, hour, minute, second⟩,
      fun ⟨date, hour, minute, second⟩ => ⟨date, hour, minute, second⟩⟩

/-- The date after a date. -/
def Date.next (d : Date) : Date :=
  if d.day < monthLength d.year d.month then { d with day := d.day + 1 }
  else if d.month < 12 then ⟨d.year, d.month + 1, 1⟩
  else ⟨d.year + 1, 1, 1⟩

/-- The instant a second after an instant. -/
def DateTime.next (t : DateTime) : DateTime :=
  if t.second < 59 then { t with second := t.second + 1 }
  else if t.minute < 59 then { t with minute := t.minute + 1, second := 0 }
  else if t.hour < 23 then { t with hour := t.hour + 1, minute := 0, second := 0 }
  else ⟨t.toDate.next, 0, 0, 0⟩

/-- Where the calendar begins. -/
def DateTime.first : DateTime := ⟨⟨1, 1, 1⟩, 0, 0, 0⟩

/-- What an instant is compared by. -/
def DateTime.fields (t : DateTime) : List Nat :=
  [t.year, t.month, t.day, t.hour, t.minute, t.second]

def yearLength (year : Nat) : Nat := if isLeap year then 366 else 365

theorem isLeap_iff (year : Nat) :
    isLeap year = true ↔ year % 4 = 0 ∧ (year % 100 ≠ 0 ∨ year % 400 = 0) := by
  simp [isLeap]

/-- The count of days before a year grows by the length of each year. -/
theorem daysBefore_succ (year : Nat) (first : 1 ≤ year) :
    daysBefore (year + 1) = daysBefore year + yearLength year := by
  obtain ⟨past, rfl⟩ := Nat.exists_eq_add_of_le' first
  have fours : (past + 1) / 4 = past / 4 + if (past + 1) % 4 = 0 then 1 else 0 := by
    split <;> omega
  have centuries : (past + 1) / 100 = past / 100 + if (past + 1) % 100 = 0 then 1 else 0 := by
    split <;> omega
  have cycles : (past + 1) / 400 = past / 400 + if (past + 1) % 400 = 0 then 1 else 0 := by
    split <;> omega
  have fewer : past / 100 ≤ past := Nat.div_le_self past 100
  simp only [daysBefore, yearLength, isLeap_iff, Nat.add_sub_cancel, fours, centuries, cycles]
  clear fours centuries cycles
  generalize past / 4 = a, past / 100 = b, past / 400 = c at *
  split_ifs <;> omega

theorem daysBefore_le {year later : Nat} (first : 1 ≤ year) (order : year ≤ later) :
    daysBefore year ≤ daysBefore later := by
  induction later, order using Nat.le_induction with
  | base => exact Nat.le_refl _
  | succ later order ih =>
    rw [daysBefore_succ later (Nat.le_trans first order)]
    omega

/-- A year by its place in the cycle of 400 years, in its century and in its group of four. -/
theorem daysBefore_place (cycle century four one : Nat) (inCycle : century ≤ 3) (inCentury : four ≤ 24)
    (inFour : one ≤ 3) :
    daysBefore (400 * cycle + 100 * century + 4 * four + one + 1) =
      146097 * cycle + 36524 * century + 1461 * four + 365 * one := by
  have fours : (400 * cycle + 100 * century + 4 * four + one) / 4 =
      100 * cycle + 25 * century + four := by omega
  have centuries : (400 * cycle + 100 * century + 4 * four + one) / 100 = 4 * cycle + century := by
    omega
  have cycles : (400 * cycle + 100 * century + 4 * four + one) / 400 = cycle := by omega
  simp only [daysBefore, Nat.add_sub_cancel, fours, centuries, cycles]
  omega

theorem isLeap_place (cycle century four one : Nat) (inCycle : century ≤ 3) (inCentury : four ≤ 24)
    (inFour : one ≤ 3) :
    isLeap (400 * cycle + 100 * century + 4 * four + one + 1) = true ↔
      one = 3 ∧ (four ≠ 24 ∨ century = 3) := by
  rw [isLeap_iff]
  omega

theorem yearOf_spec (n : Nat) :
    1 ≤ (yearOf n).1 ∧ daysBefore (yearOf n).1 + (yearOf n).2 = n ∧
      (yearOf n).2 < yearLength (yearOf n).1 := by
  obtain ⟨century, isCentury⟩ : ∃ c, c = min (n % 146097 / 36524) 3 := ⟨_, rfl⟩
  obtain ⟨days, inCentury⟩ : ∃ d, d = n % 146097 - 36524 * century := ⟨_, rfl⟩
  obtain ⟨one, isOne⟩ : ∃ y, y = min (days % 1461 / 365) 3 := ⟨_, rfl⟩
  have place : yearOf n =
      (400 * (n / 146097) + 100 * century + 4 * (days / 1461) + one + 1, days % 1461 - 365 * one) := by
    rw [isOne, inCentury, isCentury]
    rfl
  have centuryBound : century ≤ 3 := by omega
  have oneBound : one ≤ 3 := by omega
  -- only the last century of a cycle has a day more
  have daysBound : days ≤ 36524 ∧ (century < 3 → days < 36524) := by omega
  have fourBound : days / 1461 ≤ 24 := by omega
  have leap := isLeap_place (n / 146097) century (days / 1461) one centuryBound fourBound oneBound
  rw [place]
  refine ⟨by omega, ?_, ?_⟩
  · rw [daysBefore_place _ _ _ _ centuryBound fourBound oneBound]
    omega
  · unfold yearLength
    by_cases long : one = 3 ∧ (days / 1461 ≠ 24 ∨ century = 3)
    · rw [if_pos (leap.mpr long)]
      omega
    · rw [if_neg (mt leap.mp long)]
      omega

theorem length_monthLengths (year : Nat) : (monthLengths year).length = 12 := rfl

theorem getD_monthLengths (year month : Nat) (inYear : 1 ≤ month ∧ month ≤ 12) :
    (monthLengths year).getD (month - 1) 0 = monthLength year month := by
  obtain ⟨least, most⟩ := inYear
  interval_cases month <;> simp [monthLengths, monthLength, isLeap_iff]

theorem monthLength_pos (year month : Nat) : 0 < monthLength year month := by
  unfold monthLength
  split_ifs <;> decide

theorem sum_monthLengths (year : Nat) : (monthLengths year).sum = yearLength year := by
  unfold monthLengths yearLength
  split <;> rfl

/-- The days of a year before a month. -/
def daysBeforeMonth (year month : Nat) : Nat := ((monthLengths year).take (month - 1)).sum

theorem ordinal_eq (d : Date) :
    d.ordinal = daysBefore d.year + daysBeforeMonth d.year d.month + (d.day - 1) := rfl

theorem daysBeforeMonth_succ (year month : Nat) (inYear : 1 ≤ month ∧ month ≤ 12) :
    daysBeforeMonth year (month + 1) = daysBeforeMonth year month + monthLength year month := by
  have inside : month - 1 < (monthLengths year).length := by
    rw [length_monthLengths]
    omega
  have last : month + 1 - 1 = month - 1 + 1 := by omega
  rw [daysBeforeMonth, last, List.sum_take_succ _ _ inside, daysBeforeMonth,
    ← getD_monthLengths year month inYear, List.getD_eq_getElem _ _ inside]

theorem daysBeforeMonth_le {year month later : Nat} (order : month ≤ later) :
    daysBeforeMonth year month ≤ daysBeforeMonth year later := by
  have shorter : month - 1 ≤ later - 1 := by omega
  exact (List.take_prefix_take_left shorter).sublist.sum_le_sum fun _ _ => Nat.zero_le _

theorem daysBeforeMonth_thirteen (year : Nat) : daysBeforeMonth year 13 = yearLength year := by
  rw [← sum_monthLengths, daysBeforeMonth, List.take_of_length_le]
  rfl

theorem Date.IsValid.ordinal_lt_month {d : Date} (valid : d.IsValid) :
    d.ordinal < daysBefore d.year + daysBeforeMonth d.year (d.month + 1) := by
  have day := valid.day
  rw [ordinal_eq, daysBeforeMonth_succ d.year d.month valid.month]
  omega

theorem Date.IsValid.ordinal_lt_year {d : Date} (valid : d.IsValid) :
    d.ordinal < daysBefore (d.year + 1) := by
  have month := valid.month
  have below := valid.ordinal_lt_month
  have within : daysBeforeMonth d.year (d.month + 1) ≤ daysBeforeMonth d.year 13 :=
    daysBeforeMonth_le (by omega)
  rw [daysBeforeMonth_thirteen] at within
  rw [daysBefore_succ d.year valid.year]
  omega

theorem Date.IsValid.ordinal_next {d : Date} (valid : d.IsValid) :
    d.next.IsValid ∧ d.next.ordinal = d.ordinal + 1 := by
  obtain ⟨year, month, day⟩ := valid
  have full := daysBeforeMonth_succ d.year d.month month
  unfold Date.next
  split
  · refine ⟨⟨year, month, by dsimp only; omega⟩, ?_⟩
    simp only [ordinal_eq]
    omega
  · split
    · refine ⟨⟨year, by dsimp only; omega, Nat.le_refl 1, monthLength_pos _ _⟩, ?_⟩
      simp only [ordinal_eq]
      omega
    · -- the last day of a year: all its months are before it ends
      have december : d.month = 12 := by omega
      rw [december, daysBeforeMonth_thirteen, ← december] at full
      have january : daysBeforeMonth (d.year + 1) 1 = 0 := rfl
      refine ⟨⟨by dsimp only; omega, by dsimp only; omega, Nat.le_refl 1, monthLength_pos _ _⟩, ?_⟩
      simp only [ordinal_eq, daysBefore_succ d.year year, january]
      omega

theorem monthDay_spec (lengths : List Nat) (month days : Nat) (inside : days < lengths.sum) :
    ∃ place day, monthDay lengths month days = (month + place, day) ∧ place < lengths.length ∧
      1 ≤ day ∧ day ≤ lengths.getD place 0 ∧ (lengths.take place).sum + (day - 1) = days := by
  induction lengths generalizing month days with
  | nil => simp at inside
  | cons n rest ih =>
    unfold monthDay
    split
    · rename_i within
      exact ⟨0, days + 1, rfl, Nat.zero_lt_succ _, Nat.le_add_left 1 days, within, Nat.zero_add days⟩
    · have later : days - n < rest.sum := by
        rw [List.sum_cons] at inside
        omega
      obtain ⟨place, day, found, within, first, last, sum⟩ := ih (month + 1) (days - n) later
      refine ⟨place + 1, day, ?_, Nat.succ_lt_succ within, first, last, ?_⟩
      · rw [found, Nat.add_assoc, Nat.add_comm 1]
      · rw [List.take_succ_cons, List.sum_cons]
        omega

theorem ofOrdinal_spec (n : Nat) : (Date.ofOrdinal n).IsValid ∧ (Date.ofOrdinal n).ordinal = n := by
  obtain ⟨year, before, within⟩ := yearOf_spec n
  rw [← sum_monthLengths] at within
  obtain ⟨place, day, found, inYear, first, last, sum⟩ := monthDay_spec _ 1 _ within
  rw [length_monthLengths] at inYear
  have date : Date.ofOrdinal n = ⟨(yearOf n).1, 1 + place, day⟩ := by
    simp only [Date.ofOrdinal, found]
  have back : 1 + place - 1 = place := Nat.add_sub_cancel_left 1 place
  have month : 1 ≤ 1 + place ∧ 1 + place ≤ 12 := by omega
  have length := getD_monthLengths (yearOf n).1 (1 + place) month
  rw [back] at length
  rw [date]
  refine ⟨⟨year, month, first, last.trans_eq length⟩, ?_⟩
  simp only [ordinal_eq, daysBeforeMonth, back]
  omega

theorem DateTime.IsValid.toSeconds_next {t : DateTime} (valid : t.IsValid) :
    t.next.IsValid ∧ t.next.toSeconds = t.toSeconds + 1 := by
  obtain ⟨date, hour, minute, second⟩ := valid
  obtain ⟨dateNext, ordinalNext⟩ := date.ordinal_next
  unfold DateTime.next
  split
  · refine ⟨⟨date, hour, minute, by dsimp only; omega⟩, ?_⟩
    simp only [toSeconds]
    omega
  · split
    · refine ⟨⟨date, hour, by dsimp only; omega, Nat.zero_lt_succ _⟩, ?_⟩
      simp only [toSeconds]
      omega
    · split
      · refine ⟨⟨date, by dsimp only; omega, Nat.zero_lt_succ _, Nat.zero_lt_succ _⟩, ?_⟩
        simp only [toSeconds]
        omega
      · refine ⟨⟨dateNext, Nat.zero_lt_succ _, Nat.zero_lt_succ _, Nat.zero_lt_succ _⟩, ?_⟩
        simp only [toSeconds, ordinalNext, secondsPerDay]
        omega

theorem DateTime.IsValid.iterate_next {t : DateTime} (valid : t.IsValid) (n : Nat) :
    (DateTime.next^[n] t).IsValid ∧ (DateTime.next^[n] t).toSeconds = t.toSeconds + n := by
  induction n with
  | zero => exact ⟨valid, (Nat.add_zero _).symm⟩
  | succ n ih =>
    obtain ⟨validNext, secondsNext⟩ := ih.1.toSeconds_next
    rw [Function.iterate_succ_apply']
    exact ⟨validNext, by omega⟩

theorem DateTime.ofSeconds_spec (n : Nat) :
    (DateTime.ofSeconds n).IsValid ∧ (DateTime.ofSeconds n).toSeconds = n := by
  obtain ⟨date, ordinal⟩ := ofOrdinal_spec (n / secondsPerDay)
  refine ⟨⟨date, ?_, ?_, ?_⟩, ?_⟩
  · simp only [ofSeconds, secondsPerDay]
    omega
  · simp only [ofSeconds]
    omega
  · simp only [ofSeconds]
    omega
  · simp only [toSeconds, ofSeconds, ordinal]
    simp only [secondsPerDay]
    omega

theorem Date.IsValid.ordinal_lt {d d' : Date} (valid : d.IsValid)
    (earlier : d.year < d'.year ∨ d.year = d'.year ∧
      (d.month < d'.month ∨ d.month = d'.month ∧ d.day < d'.day)) :
    d.ordinal < d'.ordinal := by
  rcases earlier with year | ⟨year, month | ⟨month, day⟩⟩
  · have below := valid.ordinal_lt_year
    have above := daysBefore_le (Nat.le_add_left 1 d.year) year
    rw [ordinal_eq d']
    omega
  · have below := valid.ordinal_lt_month
    have above : daysBeforeMonth d.year (d.month + 1) ≤ daysBeforeMonth d.year d'.month :=
      daysBeforeMonth_le month
    rw [ordinal_eq d', ← year]
    omega
  · have first := valid.day.1
    rw [ordinal_eq d', ordinal_eq d, year, month]
    omega

theorem DateTime.IsValid.toSeconds_lt {t t' : DateTime} (valid : t.IsValid)
    (earlier : t.fields < t'.fields) : t.toSeconds < t'.toSeconds := by
  obtain ⟨date, hour, minute, second⟩ := valid
  simp only [fields, List.cons_lt_cons_iff, List.lt_irrefl, and_false, or_false] at earlier
  simp only [toSeconds, secondsPerDay]
  -- the dates decide unless they are the same
  by_cases same : t.toDate = t'.toDate
  · rw [same] at earlier ⊢
    omega
  · have dates : t.toDate.ordinal < t'.toDate.ordinal := by
      refine date.ordinal_lt ?_
      rcases earlier with year | ⟨year, month | ⟨month, day | ⟨day, _⟩⟩⟩
      · exact .inl year
      · exact .inr ⟨year, .inl month⟩
      · exact .inr ⟨year, .inr ⟨month, day⟩⟩
      · refine absurd ?_ same
        change Date.mk t.year t.month t.day = ⟨t'.year, t'.month, t'.day⟩
        rw [year, month, day]
    omega

theorem DateTime.ext_fields {t t' : DateTime} (same : t.fields = t'.fields) : t = t' := by
  obtain ⟨⟨year, month, day⟩, hour, minute, second⟩ := t
  obtain ⟨⟨year', month', day'⟩, hour', minute', second'⟩ := t'
  simp only [fields, List.cons.injEq] at same
  obtain ⟨rfl, rfl, rfl, rfl, rfl, rfl, _⟩ := same
  rfl

theorem DateTime.IsValid.fields_lt_iff {t t' : DateTime} (valid : t.IsValid) (valid' : t'.IsValid) :
    t.fields < t'.fields ↔ t.toSeconds < t'.toSeconds := by
  constructor
  · exact valid.toSeconds_lt
  · intro less
    rcases lt_trichotomy t.fields t'.fields with earlier | same | later
    · exact earlier
    · rw [ext_fields same] at less
      exact absurd less (Nat.lt_irrefl _)
    · exact absurd less (Nat.lt_asymm (valid'.toSeconds_lt later))

theorem DateTime.IsValid.eq_of_toSeconds_eq {t t' : DateTime} (valid : t.IsValid) (valid' : t'.IsValid)
    (same : t.toSeconds = t'.toSeconds) : t = t' := by
  rcases lt_trichotomy t.fields t'.fields with earlier | alike | later
  · rw [valid.fields_lt_iff valid', same] at earlier
    exact absurd earlier (Nat.lt_irrefl _)
  · exact ext_fields alike
  · rw [valid'.fields_lt_iff valid, same] at later
    exact absurd later (Nat.lt_irrefl _)

theorem DateTime.IsValid.year_le {t t' : DateTime} (valid : t.IsValid) (valid' : t'.IsValid)
    (order : t.toSeconds ≤ t'.toSeconds) : t.year ≤ t'.year := by
  by_contra later
  have less : t'.fields < t.fields := List.cons_lt_cons_iff.mpr (.inl (Nat.lt_of_not_le later))
  rw [valid'.fields_lt_iff valid] at less
  omega

/-- So many seconds later is so many seconds more. -/
theorem DateTime.IsValid.iterate_next_eq_iff {t t' : DateTime} (valid : t.IsValid) (valid' : t'.IsValid)
    (n : Nat) : DateTime.next^[n] t = t' ↔ t.toSeconds + n = t'.toSeconds := by
  obtain ⟨validNext, secondsNext⟩ := valid.iterate_next n
  constructor
  · rintro rfl
    exact secondsNext.symm
  · intro sum
    exact validNext.eq_of_toSeconds_eq valid' (secondsNext.trans sum)

theorem DateTime.isValid_first : DateTime.first.IsValid := by decide

/-- The seconds of an instant are those that have passed from the beginning of the calendar. -/
theorem DateTime.IsValid.iterate_next_first {t : DateTime} (valid : t.IsValid) (n : Nat) :
    DateTime.next^[n] DateTime.first = t ↔ n = t.toSeconds := by
  rw [DateTime.isValid_first.iterate_next_eq_iff valid]
  have zero : DateTime.first.toSeconds = 0 := rfl
  rw [zero, Nat.zero_add]

end ClusterInspector.Calendar
