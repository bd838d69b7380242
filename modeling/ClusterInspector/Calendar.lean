/-!
# Calendar

Instants in whole seconds from the beginning of year 1 of the proleptic Gregorian calendar, and
their dates and times of day. A 400-year cycle has 146097 days, a century 36524 and a last day where
its first year is a leap year, a four-year cycle 1461.
-/
namespace ClusterInspector.Calendar

structure Date where
  year : Nat
  month : Nat
  day : Nat
  deriving DecidableEq, Repr

structure DateTime extends Date where
  hour : Nat
  minute : Nat
  second : Nat
  deriving DecidableEq, Repr

def isLeap (year : Nat) : Bool := year % 4 == 0 && (year % 100 != 0 || year % 400 == 0)

def monthLengths (year : Nat) : List Nat :=
  [31, if isLeap year then 29 else 28, 31, 30, 31, 30, 31, 31, 30, 31, 30, 31]

/-- Days from the beginning of year 1 to that of a year. -/
def daysBefore (year : Nat) : Nat :=
  365 * (year - 1) + (year - 1) / 4 - (year - 1) / 100 + (year - 1) / 400

/-- Days from the beginning of year 1 to a date. -/
def Date.ordinal (d : Date) : Nat :=
  let months := (monthLengths d.year).take (d.month - 1)
  daysBefore d.year + months.foldr (· + ·) 0 + (d.day - 1)

/-- The year that holds a day, and the days of it that have passed. -/
def yearOf (ordinal : Nat) : Nat × Nat :=
  let inCycle := ordinal % 146097
  let century := min (inCycle / 36524) 3
  let inCentury := inCycle - 36524 * century
  let inFour := inCentury % 1461
  let year := min (inFour / 365) 3
  (400 * (ordinal / 146097) + 100 * century + 4 * (inCentury / 1461) + year + 1,
    inFour - 365 * year)

/-- The month and day after so many days of months of the given lengths, the first one numbered. -/
def monthDay : (lengths : List Nat) → (month days : Nat) → Nat × Nat
  | [], month, days => (month, days + 1)
  | n :: rest, month, days =>
    if days < n then (month, days + 1) else monthDay rest (month + 1) (days - n)

def Date.ofOrdinal (n : Nat) : Date :=
  let (year, days) := yearOf n
  let (month, day) := monthDay (monthLengths year) 1 days
  ⟨year, month, day⟩

def secondsPerDay : Nat := 86400

def DateTime.toSeconds (t : DateTime) : Nat :=
  t.toDate.ordinal * secondsPerDay + t.hour * 3600 + t.minute * 60 + t.second

def DateTime.ofSeconds (n : Nat) : DateTime :=
  let inDay := n % secondsPerDay
  ⟨.ofOrdinal (n / secondsPerDay), inDay / 3600, inDay / 60 % 60, inDay % 60⟩

/-- A number in two digits. -/
def twoDigits (n : Nat) : String := if n < 10 then s!"0{n}" else toString n

/-- Hour, minute and second. -/
def DateTime.clockText (t : DateTime) : String :=
  s!"{twoDigits t.hour}:{twoDigits t.minute}:{twoDigits t.second}"

/-- Date and time of day in one word; a year below 1000 has no zeros before it. -/
def DateTime.stamp (t : DateTime) : String :=
  s!"{t.year}-{twoDigits t.month}-{twoDigits t.day}T{t.clockText}Z"

end ClusterInspector.Calendar
