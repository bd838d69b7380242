import ClusterInspector.Report
import Mathlib.Data.List.Basic

/-!
# Numbers and ages read back

What is written can be read: a number within the digit limit, a readiness of two numbers, and an age,
which loses what the two units that are written do not hold.
-/
namespace ClusterInspector

namespace Text

theorem digitValue?_of_isDigit {c : Char} (digit : c.isDigit = true) :
    digitValue? c = some (c.toNat - '0'.toNat) := by
  obtain ⟨least, most⟩ := Char.isDigit_iff_toNat.mp digit
  have ends : '0'.toNat = 0x30 ∧ '9'.toNat = 0x39 := by decide
  have first : (decide (0x30 ≤ c.toNat) && decide (c.toNat < 0x30 + 10)) = true := by
    simp only [Bool.and_eq_true, decide_eq_true_eq]
    omega
  have found : digitZeros.find? (fun z => z ≤ c.toNat && c.toNat < z + 10) = some 0x30 :=
    List.find?_cons_of_pos first
  rw [digitValue?, found]
  rfl

/-- The decimal digits of a number, most significant first. -/
def decimals (n : Nat) : List Nat := (Nat.toDigits 10 n).map fun c => c.toNat - '0'.toNat

theorem length_decimals_le_digitLimit_iff (n : Nat) :
    (decimals n).length ≤ Numeral.digitLimit ↔ Numeral.isWritable n = true := by
  have positive : 0 < Numeral.digitLimit := by decide
  rw [Numeral.isWritable, decide_eq_true_eq, decimals, List.length_map, Int.natAbs_natCast]
  -- a variable in place of the limit, so that the power is not computed
  generalize Numeral.digitLimit = limit at positive ⊢
  exact Nat.length_toDigits_le_iff (by decide) positive

theorem ofDigits_decimals (n : Nat) : ofDigits (decimals n) = n := by
  rw [ofDigits, decimals, List.foldl_map, ← Nat.ofDigitChars_eq_foldl, Nat.ofDigitChars_ten_toDigits]

theorem toList_toString (n : Nat) : (toString n).toList = Nat.toDigits 10 n := by
  rw [Nat.toString_eq_ofList_toDigits, String.toList_ofList]

theorem isDigit_of_mem_toDigits {n : Nat} {c : Char} (member : c ∈ Nat.toDigits 10 n) :
    c.isDigit = true :=
  Nat.isDigit_of_mem_toDigits (by decide) (by decide) member

theorem filterMap_digitValue?_toDigits (n : Nat) :
    (Nat.toDigits 10 n).filterMap digitValue? = decimals n := by
  rw [decimals, ← List.filterMap_eq_map]
  refine List.filterMap_congr fun c member => ?_
  exact digitValue?_of_isDigit (isDigit_of_mem_toDigits member)

namespace Numeral

theorem wellFormed_of_digits (cs : List Char) (nonempty : cs ≠ [])
    (digits : ∀ c ∈ cs, isDigit c = true) : wellFormed cs = true := by
  obtain ⟨c, rest, rfl⟩ := List.exists_cons_of_ne_nil nonempty
  have all : (c :: rest).all (fun c => isDigit c || c == '_') = true := by
    rw [List.all_eq_true]
    intro d member
    rw [digits d member, Bool.true_or]
  have last : (c :: rest).getLast?.any isDigit = true := by
    rw [List.getLast?_eq_some_getLast nonempty]
    exact digits _ (List.getLast_mem nonempty)
  have pairs : ((c :: rest).zip (c :: rest).tail).all (fun p => isDigit p.1 || isDigit p.2) = true := by
    rw [List.all_eq_true]
    rintro ⟨d, e⟩ member
    simp [digits d (List.of_mem_zip member).1]
  have first : (c :: rest).head?.any isDigit = true := digits c List.mem_cons_self
  simp only [wellFormed, all, first, last, pairs, Bool.and_self]

theorem isDigit_of_isDigit {c : Char} (digit : c.isDigit = true) : isDigit c = true := by
  rw [isDigit, digitValue?_of_isDigit digit, Option.isSome_some]

theorem isWritable_of_nine_digits {n : Int} (small : n.natAbs ≤ 999999999) :
    isWritable n = true := by
  have nine : 9 ≤ digitLimit := by decide
  unfold isWritable
  generalize digitLimit = limit at nine ⊢
  have most : Nat.pow 10 9 ≤ Nat.pow 10 limit := Nat.pow_le_pow_right (by decide) nine
  exact decide_eq_true (Nat.lt_of_lt_of_le (Nat.lt_succ_of_le small) most)

theorem magnitude?_toDigits (n : Nat) (writable : isWritable n = true) :
    magnitude? (Nat.toDigits 10 n) = some n := by
  have formed := wellFormed_of_digits (Nat.toDigits 10 n) Nat.toDigits_ne_nil
    fun c member => isDigit_of_isDigit (isDigit_of_mem_toDigits member)
  have fits := (length_decimals_le_digitLimit_iff n).mpr writable
  simp only [magnitude?, formed, filterMap_digitValue?_toDigits, fits, ofDigits_decimals,
    decide_true, Bool.and_self, if_true]

theorem isMargin_of_isDigit {c : Char} (digit : c.isDigit = true) : isMargin c = false := by
  obtain ⟨least, most⟩ := Char.isDigit_iff_toNat.mp digit
  have ends : '0'.toNat = 0x30 ∧ '9'.toNat = 0x39 := by decide
  simp [isMargin, isBlank]
  omega

theorem read?_toString (n : Nat) (writable : isWritable n = true) :
    read? (toString n) = some (n : Int) := by
  have digits : ∀ c ∈ Nat.toDigits 10 n, c.isDigit = true := fun c => isDigit_of_mem_toDigits
  have unmargined : ∀ c ∈ Nat.toDigits 10 n, isMargin c = false :=
    fun c member => isMargin_of_isDigit (digits c member)
  have trimmed : trim isMargin (Nat.toDigits 10 n) = Nat.toDigits 10 n := by
    have whole := trim_append isMargin [] (Nat.toDigits 10 n) [] nofun nofun Nat.toDigits_ne_nil
      (fun c first => unmargined c (List.mem_of_head? first))
      (fun c last => unmargined c (List.mem_of_getLast? last))
    rwa [List.nil_append, List.append_nil] at whole
  rw [read?, toList_toString, trimmed]
  split
  · rename_i rest plus
    have digit := digits '+' (by rw [plus]; exact List.mem_cons_self)
    cases digit
  · rename_i rest minus
    have digit := digits '-' (by rw [minus]; exact List.mem_cons_self)
    cases digit
  · rw [magnitude?_toDigits n writable]
    rfl

end Numeral

end Text

theorem Report.readiness_toString (x y : Nat) (writableX : Text.Numeral.isWritable x = true)
    (writableY : Text.Numeral.isWritable y = true) :
    readiness (toString x ++ "/" ++ toString y) = ((x : Int), (y : Int)) := by
  have before : ∀ c ∈ Nat.toDigits 10 x, decide (c ≠ '/') = true := by
    intro c member
    refine decide_eq_true ?_
    rintro rfl
    cases Text.isDigit_of_mem_toDigits member
  have split : (toString x ++ "/" ++ toString y).toList =
      Nat.toDigits 10 x ++ '/' :: Nat.toDigits 10 y := by
    simp only [String.toList_append, Text.toList_toString, List.append_assoc]
    rfl
  have numerator : ((toString x ++ "/" ++ toString y).toList.takeWhile (· ≠ '/')) =
      Nat.toDigits 10 x := by
    rw [split, List.takeWhile_append_of_pos before, List.takeWhile_cons_of_neg (by simp),
      List.append_nil]
  have denominator : ((toString x ++ "/" ++ toString y).toList.dropWhile (· ≠ '/')).drop 1 =
      Nat.toDigits 10 y := by
    rw [split, List.dropWhile_append_of_pos before, List.dropWhile_cons_of_neg (by simp)]
    rfl
  simp only [readiness, numerator, denominator, ← Nat.toString_eq_ofList_toDigits,
    Text.Numeral.read?_toString _ writableX, Text.Numeral.read?_toString _ writableY]

namespace Age

/-- What an age amounts to once it is written: from one day on the minutes are cut off. -/
def kept (days hours minutes : Nat) : Nat :=
  if 0 < days then days * 86400 + hours * 3600 else hours * 3600 + minutes * 60

theorem partsAfter_digits (run : List Nat) (digits rest : List Char)
    (areDigits : ∀ c ∈ digits, Text.isDigit c = true) :
    partsAfter run (digits ++ rest) =
      partsAfter ((digits.filterMap Text.digitValue?).reverse ++ run) rest := by
  induction digits generalizing run with
  | nil => rfl
  | cons c digits ih =>
    obtain ⟨digit, areDigits⟩ := List.forall_mem_cons.mp areDigits
    obtain ⟨d, value⟩ := Option.isSome_iff_exists.mp digit
    simp only [List.cons_append, partsAfter, value, ih _ areDigits, List.filterMap_cons,
      List.reverse_cons, List.append_assoc, List.nil_append]

/-- An amount is read off its digits and the letter after them. -/
theorem partsAfter_amount (digits : List Char) (letter : Char) (unit : TimeUnit) (rest : List Char)
    (nonempty : digits ≠ []) (areDigits : ∀ c ∈ digits, Text.isDigit c = true)
    (isUnit : TimeUnit.ofLetter? letter = some unit) (noDigit : Text.digitValue? letter = none) :
    partsAfter [] (digits ++ letter :: rest) =
      ⟨digits.filterMap Text.digitValue?, unit⟩ :: partsAfter [] rest := by
  rw [partsAfter_digits [] digits _ areDigits, List.append_nil]
  have someDigit : (digits.filterMap Text.digitValue?).reverse ≠ [] := by
    obtain ⟨c, others, rfl⟩ := List.exists_cons_of_ne_nil nonempty
    obtain ⟨d, value⟩ := Option.isSome_iff_exists.mp (areDigits c List.mem_cons_self)
    simp [value]
  obtain ⟨d, run, reversed⟩ := List.exists_cons_of_ne_nil someDigit
  have values : (d :: run).reverse = digits.filterMap Text.digitValue? := by
    rw [← reversed, List.reverse_reverse]
  rw [reversed]
  conv_lhs => unfold partsAfter
  simp only [noDigit, isUnit, values]

theorem partsAfter_toString (n : Nat) (letter : Char) (unit : TimeUnit) (rest : List Char)
    (isUnit : TimeUnit.ofLetter? letter = some unit) (noDigit : Text.digitValue? letter = none) :
    partsAfter [] ((toString n).toList ++ letter :: rest) =
      ⟨Text.decimals n, unit⟩ :: partsAfter [] rest := by
  have areDigits : ∀ c ∈ Nat.toDigits 10 n, Text.isDigit c = true := fun c member =>
    Text.Numeral.isDigit_of_isDigit (Text.isDigit_of_mem_toDigits member)
  rw [Text.toList_toString, partsAfter_amount _ letter unit rest Nat.toDigits_ne_nil areDigits isUnit
    noDigit, Text.filterMap_digitValue?_toDigits]

theorem read_eq_ok_iff (age : String) (seconds : Nat) :
    read age = .ok seconds ↔
      (∀ p ∈ parts age, p.digits.length ≤ Text.Numeral.digitLimit) ∧
      total (parts age) / TimeUnit.day.seconds ≤ maxDays ∧ total (parts age) = seconds := by
  unfold read
  dsimp only
  split
  · rename_i p unreadable
    have long := List.find?_some unreadable
    have member := List.mem_of_find?_eq_some unreadable
    simp only [Part.isReadable, Bool.not_eq_true', decide_eq_false_iff_not] at long
    constructor
    · intro refused
      cases refused
    · rintro ⟨readable, _⟩
      exact absurd (readable p member) long
  · rename_i readable
    rw [List.find?_eq_none] at readable
    simp only [Part.isReadable, Bool.not_eq_true', decide_eq_false_iff_not, not_not] at readable
    by_cases short : total (parts age) / TimeUnit.day.seconds ≤ maxDays
    · simpa [short] using fun _ => readable
    · simp [short]

theorem parts_write (days hours minutes : Nat) :
    parts (write days hours minutes) =
      if 0 < days then [⟨Text.decimals days, .day⟩, ⟨Text.decimals hours, .hour⟩]
      else if 0 < hours then [⟨Text.decimals hours, .hour⟩, ⟨Text.decimals minutes, .minute⟩]
      else [⟨Text.decimals minutes, .minute⟩] := by
  have unpositive (n : Nat) (zero : ¬ 0 < n) : ¬ (n : Int) > 0 := by omega
  by_cases someDays : 0 < days
  · have written : (write days hours minutes).toList =
        (toString days).toList ++ 'd' :: ((toString hours).toList ++ ['h']) := by
      rw [write, if_pos (Int.natCast_pos.mpr someDays)]
      change (toString days ++ "d" ++ toString hours ++ "h").toList = _
      simp only [String.toList_append, List.append_assoc]
      rfl
    rw [parts, written, partsAfter_toString days 'd' .day _ rfl rfl,
      partsAfter_toString hours 'h' .hour _ rfl rfl, if_pos someDays, partsAfter]
  · rw [if_neg someDays, parts, write, if_neg (unpositive days someDays)]
    by_cases someHours : 0 < hours
    · have written : (toString hours ++ "h" ++ toString minutes ++ "m").toList =
          (toString hours).toList ++ 'h' :: ((toString minutes).toList ++ ['m']) := by
        simp only [String.toList_append, List.append_assoc]
        rfl
      rw [if_pos (Int.natCast_pos.mpr someHours), if_pos someHours]
      change partsAfter [] (toString hours ++ "h" ++ toString minutes ++ "m").toList = _
      rw [written, partsAfter_toString hours 'h' .hour _ rfl rfl,
        partsAfter_toString minutes 'm' .minute _ rfl rfl, partsAfter]
    · rw [if_neg (unpositive hours someHours), if_neg someHours]
      change partsAfter [] (toString minutes ++ "m").toList = _
      rw [String.toList_append]
      exact partsAfter_toString minutes 'm' .minute [] rfl rfl

theorem total_parts_write (days hours minutes : Nat) :
    total (parts (write days hours minutes)) = kept days hours minutes := by
  rw [parts_write, kept]
  by_cases someDays : 0 < days
  · simp [someDays, total, amount, Text.ofDigits_decimals, TimeUnit.seconds]
  · by_cases someHours : 0 < hours
    · simp [someDays, someHours, total, amount, Text.ofDigits_decimals, TimeUnit.seconds]
    · have none : hours = 0 := Nat.eq_zero_of_not_pos someHours
      simp [someDays, none, total, amount, Text.ofDigits_decimals, TimeUnit.seconds]

/-- An age whose days are within the limit reads back. -/
theorem read_write (days hours minutes : Nat) (shortDays : days ≤ maxDays) (shortHours : hours < 24)
    (shortMinutes : minutes < 60) :
    read (write days hours minutes) = .ok (kept days hours minutes) := by
  have readable (n : Nat) (small : n ≤ maxDays) :
      (Text.decimals n).length ≤ Text.Numeral.digitLimit :=
    (Text.length_decimals_le_digitLimit_iff n).mpr (Text.Numeral.isWritable_of_nine_digits small)
  have within : kept days hours minutes / TimeUnit.day.seconds ≤ maxDays := by
    simp only [kept, TimeUnit.seconds, maxDays] at shortDays ⊢
    split <;> omega
  refine (read_eq_ok_iff _ _).mpr ⟨?_, ?_, total_parts_write days hours minutes⟩
  · rw [parts_write]
    have hoursReadable := readable hours (by simp only [maxDays]; omega)
    have minutesReadable := readable minutes (by simp only [maxDays]; omega)
    split_ifs <;> simp [readable days shortDays, hoursReadable, minutesReadable]
  · rw [total_parts_write]
    exact within

/-- Days within the limit, hours of a day and minutes of an hour. -/
structure IsSpan (days hours minutes : Int) : Prop where
  days : 0 ≤ days ∧ days ≤ 999999999
  hours : 0 ≤ hours ∧ hours ≤ 23
  minutes : 0 ≤ minutes ∧ minutes ≤ 59

/-- The seconds that a span lasts. -/
def lasting (days hours minutes : Int) : Int := days * 86400 + hours * 3600 + minutes * 60

theorem IsSpan.read_write {days hours minutes : Int} (span : IsSpan days hours minutes) :
    ∃ n : Nat, read (write days hours minutes) = .ok n ∧
      (n : Int) = if 0 < days then days * 86400 + hours * 3600 else hours * 3600 + minutes * 60 := by
  obtain ⟨⟨someDays, shortDays⟩, ⟨someHours, shortHours⟩, ⟨someMinutes, shortMinutes⟩⟩ := span
  lift days to Nat using someDays
  lift hours to Nat using someHours
  lift minutes to Nat using someMinutes
  have shortDays : days ≤ maxDays := by simp only [maxDays]; omega
  refine ⟨kept days hours minutes,
    Age.read_write days hours minutes shortDays (by omega) (by omega), ?_⟩
  simp only [kept, Int.natCast_pos]
  split <;> omega

/-- A span that is written and read loses less than an hour, nothing below one day, and is never read as
more than a longer one. -/
theorem written_span_reads_back (days hours minutes : Int) (span : IsSpan days hours minutes) :
    ∃ n : Nat, read (write days hours minutes) = .ok n ∧
      (0 < days → (n : Int) = days * 86400 + hours * 3600) ∧
      (days = 0 → (n : Int) = hours * 3600 + minutes * 60 ∧ n = lasting days hours minutes) ∧
      (n : Int) ≤ lasting days hours minutes ∧ lasting days hours minutes < n + 3600 ∧
      ∀ days' hours' minutes', IsSpan days' hours' minutes' →
        lasting days hours minutes ≤ lasting days' hours' minutes' →
        ∃ n', read (write days' hours' minutes') = .ok n' ∧ n ≤ n' := by
  obtain ⟨n, ok, value⟩ := span.read_write
  obtain ⟨⟨someDays, _⟩, ⟨someHours, shortHours⟩, ⟨someMinutes, shortMinutes⟩⟩ := span
  refine ⟨n, ok, ?_, ?_, ?_, ?_, ?_⟩
  · intro positive
    rw [value, if_pos positive]
  · rintro rfl
    simp only [Int.lt_irrefl, if_false] at value
    exact ⟨value, by simp only [lasting]; omega⟩
  · simp only [lasting]
    split at value <;> omega
  · simp only [lasting]
    split at value <;> omega
  · intro days' hours' minutes' span' longer
    obtain ⟨n', ok', value'⟩ := span'.read_write
    obtain ⟨⟨someDays', _⟩, ⟨someHours', shortHours'⟩, ⟨someMinutes', shortMinutes'⟩⟩ := span'
    refine ⟨n', ok', ?_⟩
    -- the only change of shape that matters is the one at the first day, where the minutes are lost
    simp only [lasting] at longer
    split at value <;> split at value' <;> omega

/-- The last minute of a day keeps its minutes, and a whole day is read as more. -/
theorem written_span_reads_back_last_minute :
    IsSpan 0 23 59 ∧ write 0 23 59 = "23h59m" ∧ read (write 0 23 59) = .ok 86340 ∧
    IsSpan 1 0 59 ∧ write 1 0 59 = "1d0h" ∧ ∃ n, read (write 1 0 59) = .ok n ∧ 86340 ≤ n := by
  have span : IsSpan 0 23 59 := ⟨by decide, by decide, by decide⟩
  have span' : IsSpan 1 0 59 := ⟨by decide, by decide, by decide⟩
  obtain ⟨n, ok, _, below, _, _, order⟩ := written_span_reads_back 0 23 59 span
  obtain rfl : n = 86340 := by
    have value := (below rfl).1
    omega
  obtain ⟨n', ok', longer⟩ := order 1 0 59 span' (by decide)
  exact ⟨span, rfl, ok, span', rfl, n', ok', longer⟩

end Age

end ClusterInspector
