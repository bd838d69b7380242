import ClusterInspector.Proofs.Gregorian
import ClusterInspector.Proofs.ReadBack

/-!
# Stamps

The stamp in a report, read back number by number. Main statements: a stamp tells its instant; and what is
stamped with an age is the instant that so many seconds of the calendar lead from to the time of the report,
unless that instant lies before the calendar begins.
-/
namespace ClusterInspector

namespace Calendar

/-- The number that the digits among characters write. -/
def number (cs : List Char) : Nat := Text.ofDigits (cs.filterMap Text.digitValue?)

/-- What a text says as a stamp: six numbers with the marks of a date and a time of day between them. -/
def DateTime.ofStamp? (s : String) : Option DateTime :=
  if s.toList.filter (fun c => !c.isDigit) = ['-', '-', 'T', ':', ':', 'Z'] then
    match (s.toList.splitOnP fun c => !c.isDigit).map number with
    | [year, month, day, hour, minute, second, _] => some ⟨⟨year, month, day⟩, hour, minute, second⟩
    | _ => none
  else none

/-- Digits that write a number. -/
structure Writes (cs : List Char) (n : Nat) : Prop where
  areDigits : ∀ c ∈ cs, c.isDigit = true
  number : number cs = n

theorem writes_toDigits (n : Nat) : Writes (Nat.toDigits 10 n) n where
  areDigits _ := Text.isDigit_of_mem_toDigits
  number := by rw [Calendar.number, Text.filterMap_digitValue?_toDigits, Text.ofDigits_decimals]

theorem writes_twoDigits (n : Nat) : Writes (twoDigits n).toList n := by
  by_cases small : n < 10
  · have padded : (twoDigits n).toList = '0' :: Nat.toDigits 10 n := by
      rw [twoDigits, if_pos small, ← Text.toList_toString]
      exact String.toList_append
    rw [padded]
    refine ⟨List.forall_mem_cons.mpr ⟨rfl, (writes_toDigits n).areDigits⟩, ?_⟩
    exact (writes_toDigits n).number
  · rw [twoDigits, if_neg small, Text.toList_toString]
    exact writes_toDigits n

theorem Writes.splitOnP {cs : List Char} {n : Nat} (writes : Writes cs n) (mark : Char)
    (rest : List Char) (isMark : mark.isDigit = false) :
    ((cs ++ mark :: rest).splitOnP fun c => !c.isDigit).map Calendar.number =
      n :: (rest.splitOnP fun c => !c.isDigit).map Calendar.number := by
  have inside : ∀ c ∈ cs, (!c.isDigit) = false := by
    intro c member
    rw [writes.areDigits c member]
    rfl
  rw [List.splitOnP_append_cons_of_forall_mem inside mark (by rw [isMark]; rfl), List.map_cons,
    writes.number]

theorem Writes.filter {cs : List Char} {n : Nat} (writes : Writes cs n) (mark : Char)
    (rest : List Char) (isMark : mark.isDigit = false) :
    (cs ++ mark :: rest).filter (fun c => !c.isDigit) = mark :: rest.filter fun c => !c.isDigit := by
  have inside : cs.filter (fun c => !c.isDigit) = [] := by
    rw [List.filter_eq_nil_iff]
    intro c member
    rw [writes.areDigits c member]
    exact Bool.false_ne_true
  rw [List.filter_append, inside, List.nil_append, List.filter_cons_of_pos (by rw [isMark]; rfl)]

theorem DateTime.toList_stamp (t : DateTime) :
    t.stamp.toList =
      Nat.toDigits 10 t.year ++ '-' :: ((twoDigits t.month).toList ++ '-' ::
        ((twoDigits t.day).toList ++ 'T' :: ((twoDigits t.hour).toList ++ ':' ::
          ((twoDigits t.minute).toList ++ ':' :: ((twoDigits t.second).toList ++ ['Z']))))) := by
  have written : t.stamp =
      toString t.year ++ "-" ++ twoDigits t.month ++ "-" ++ twoDigits t.day ++ "T" ++
        (twoDigits t.hour ++ ":" ++ twoDigits t.minute ++ ":" ++ twoDigits t.second) ++ "Z" := rfl
  simp only [written, String.toList_append, Text.toList_toString, List.append_assoc]
  rfl

/-- A stamp tells its instant. -/
theorem DateTime.ofStamp?_stamp (t : DateTime) : DateTime.ofStamp? t.stamp = some t := by
  have month := writes_twoDigits t.month
  have day := writes_twoDigits t.day
  have hour := writes_twoDigits t.hour
  have minute := writes_twoDigits t.minute
  have second := writes_twoDigits t.second
  have marks : t.stamp.toList.filter (fun c => !c.isDigit) = ['-', '-', 'T', ':', ':', 'Z'] := by
    rw [t.toList_stamp, (writes_toDigits t.year).filter '-' _ rfl, month.filter '-' _ rfl,
      day.filter 'T' _ rfl, hour.filter ':' _ rfl, minute.filter ':' _ rfl, second.filter 'Z' _ rfl]
    rfl
  have numbers : (t.stamp.toList.splitOnP fun c => !c.isDigit).map number =
      [t.year, t.month, t.day, t.hour, t.minute, t.second, 0] := by
    rw [t.toList_stamp, (writes_toDigits t.year).splitOnP '-' _ rfl, month.splitOnP '-' _ rfl,
      day.splitOnP 'T' _ rfl, hour.splitOnP ':' _ rfl, minute.splitOnP ':' _ rfl,
      second.splitOnP 'Z' _ rfl]
    rfl
  simp only [ofStamp?, marks, numbers, if_true]

end Calendar

namespace Report

open Calendar (DateTime)

theorem began_of_read {age : String} {seconds : Nat} (now : Nat) (read : Age.read age = .ok seconds) :
    began now age =
      if seconds ≤ now then .ok (DateTime.ofSeconds (now - seconds)).stamp
      else .error .dateOutOfRange := by
  rw [began, read]
  rfl

/-- What a stamp tells of an age that was read. -/
theorem ofStamp?_of_began {now : Nat} {age text : String} {seconds : Nat}
    (read : Age.read age = .ok seconds) (ok : began now age = .ok text) :
    ∃ u, DateTime.ofStamp? text = some u ∧ u.IsValid ∧ u.toSeconds + seconds = now := by
  rw [began_of_read now read] at ok
  split at ok
  · rename_i within
    obtain ⟨valid, start⟩ := DateTime.ofSeconds_spec (now - seconds)
    cases ok
    exact ⟨_, DateTime.ofStamp?_stamp _, valid, by omega⟩
  · cases ok

/-- With an age that can be read, a stamp fails exactly where the age is longer than the calendar up to the
time of the report. Otherwise it tells the instant from which the seconds of the age lead to that time, and
one of a longer age tells an earlier instant. -/
theorem began_counts_back (t : DateTime) (valid : t.IsValid) (age : String) (seconds : Nat)
    (read : Age.read age = .ok seconds) :
    ((∃ f, began t.toSeconds age = .error f ∧ f.title = "OverflowError") ↔
      ∃ k < seconds, DateTime.next^[k] DateTime.first = t) ∧
    ((∃ text, began t.toSeconds age = .ok text) ↔
      ¬ ∃ k < seconds, DateTime.next^[k] DateTime.first = t) ∧
    ∀ text, began t.toSeconds age = .ok text →
      ∃ u, DateTime.ofStamp? text = some u ∧ u.IsValid ∧ u.year ≤ t.year ∧
        DateTime.next^[seconds] u = t ∧
        ∀ age' seconds' text', Age.read age' = .ok seconds' → seconds < seconds' →
          began t.toSeconds age' = .ok text' →
          ∃ u', DateTime.ofStamp? text' = some u' ∧ u'.fields < u.fields := by
  have early : (∃ k < seconds, DateTime.next^[k] DateTime.first = t) ↔ ¬ seconds ≤ t.toSeconds := by
    simp only [valid.iterate_next_first, exists_eq_right, Nat.not_le]
  rw [early, began_of_read _ read]
  refine ⟨?_, ?_, ?_⟩
  · by_cases within : seconds ≤ t.toSeconds <;> simp [within, Fault.title]
  · by_cases within : seconds ≤ t.toSeconds <;> simp [within]
  · intro text ok
    rw [← began_of_read _ read] at ok
    obtain ⟨u, told, validStart, sum⟩ := ofStamp?_of_began read ok
    have led := (validStart.iterate_next_eq_iff valid seconds).mpr sum
    refine ⟨u, told, validStart, validStart.year_le valid (by omega), led, ?_⟩
    intro age' seconds' text' read' longer ok'
    obtain ⟨u', told', validStart', sum'⟩ := ofStamp?_of_began read' ok'
    refine ⟨u', told', (validStart'.fields_lt_iff validStart).mpr ?_⟩
    omega

/-- A minute before the first of March a leap day is told; 366 days more lead to a February without one. -/
theorem began_counts_back_leap_day :
    let t : DateTime := ⟨⟨2024, 3, 1⟩, 0, 0, 30⟩
    t.IsValid ∧ Age.read "1m" = .ok 60 ∧
    began t.toSeconds "1m" = .ok "2024-02-29T23:59:30Z" ∧
    DateTime.next^[60] ⟨⟨2024, 2, 29⟩, 23, 59, 30⟩ = t ∧
    ∃ u : DateTime, began t.toSeconds "366d1m" = .ok u.stamp ∧ u.fields < [2024, 2, 29, 23, 59, 30] := by
  intro t
  have valid : t.IsValid := by decide +kernel
  have read : Age.read "1m" = .ok 60 := by decide +kernel
  have read' : Age.read "366d1m" = .ok 31622460 := by decide +kernel
  have written : began t.toSeconds "1m" = .ok "2024-02-29T23:59:30Z" := by decide +kernel
  have longer : began t.toSeconds "366d1m" =
      .ok (DateTime.stamp ⟨⟨2023, 2, 28⟩, 23, 59, 30⟩) := by decide +kernel
  obtain ⟨u, told, _, _, led, order⟩ := (began_counts_back t valid "1m" 60 read).2.2 _ written
  have leapDay : DateTime.ofStamp? "2024-02-29T23:59:30Z" = some ⟨⟨2024, 2, 29⟩, 23, 59, 30⟩ := by
    decide +kernel
  obtain rfl := Option.some.inj (leapDay.symm.trans told)
  obtain ⟨u', told', earlier⟩ := order "366d1m" 31622460 _ read' (by decide) longer
  rw [DateTime.ofStamp?_stamp] at told'
  cases told'
  exact ⟨valid, read, written, led, _, longer, earlier⟩

end Report

end ClusterInspector
