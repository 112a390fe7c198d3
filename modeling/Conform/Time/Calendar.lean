/-!
The proleptic Gregorian calendar, moments with or without an offset from universal time, and
when two moments are the same.
-/

namespace Conform

structure Date where
  year : Nat
  month : Nat
  day : Nat
deriving DecidableEq, Repr

def isLeap (year : Nat) : Bool := year % 4 = 0 && (year % 100 ≠ 0 || year % 400 = 0)

def daysInMonth (year month : Nat) : Nat :=
  match month with
  | 2 => if isLeap year then 29 else 28
  | 4 | 6 | 9 | 11 => 30
  | _ => 31

/-- A day that exists, in the years 1 to 9999. -/
def Date.isValid (d : Date) : Bool :=
  1 ≤ d.year && d.year ≤ 9999 && 1 ≤ d.month && d.month ≤ 12 && 1 ≤ d.day &&
    d.day ≤ daysInMonth d.year d.month

/-- Days before the first of January of a year, counted from the first of January of year 1. -/
def daysBeforeYear (year : Nat) : Nat :=
  let y := year - 1
  365 * y + y / 4 - y / 100 + y / 400

/-- Days from the first of January of year 1 to a day. -/
def Date.ordinal (d : Date) : Nat :=
  let before := (List.range (d.month - 1)).foldl (fun n m => n + daysInMonth d.year (m + 1)) 0
  daysBeforeYear d.year + before + (d.day - 1)

/-- The months of a year with their lengths gone through from `month` on, until a number of days is
used up. -/
def monthAndDay (year : Nat) : Nat → Nat → Nat → Nat × Nat
  | 0, month, days => (month, days + 1)
  | fuel + 1, month, days =>
    let length := daysInMonth year month
    if days < length then (month, days + 1) else monthAndDay year fuel (month + 1) (days - length)

/-- The day at a distance from the first of January of year 1. -/
def Date.ofOrdinal (n : Nat) : Date :=
  let centuries := min 3 (n % 146097 / 36524)
  let r := n % 146097 - 36524 * centuries
  let years := min 3 (r % 1461 / 365)
  let year := 400 * (n / 146097) + 100 * centuries + 4 * (r / 1461) + years + 1
  let (month, day) := monthAndDay year 12 1 (r % 1461 - 365 * years)
  ⟨year, month, day⟩

/-- Days from the first of January of year 1 to the Monday of the first week of a year, the one
that has its first Thursday. -/
def firstMonday (year : Nat) : Nat :=
  let first := daysBeforeYear year
  first - first % 7 + (if 3 < first % 7 then 7 else 0)

/-- A day of a week, if the year has that week. -/
def Date.ofWeek? (year week day : Nat) : Option Date :=
  let start := daysBeforeYear year % 7
  let long := start = 3 || (start = 2 && isLeap year)
  if 1 ≤ year && 1 ≤ week && week ≤ (if long then 53 else 52) && 1 ≤ day && day ≤ 7 then
    some (Date.ofOrdinal (firstMonday year + 7 * (week - 1) + (day - 1)))
  else none

structure Clock where
  hour : Nat
  minute : Nat
  second : Nat
  micro : Nat
deriving DecidableEq, Repr

def Clock.isValid (c : Clock) : Bool := c.hour < 24 && c.minute < 60 && c.second < 60

/-- Microseconds since midnight. -/
def Clock.micros (c : Clock) : Nat :=
  ((c.hour * 60 + c.minute) * 60 + c.second) * 1000000 + c.micro

/-- Microseconds of a day. -/
def dayMicros : Nat := 86400000000

/-- A date and a time of day, with the offset from universal time in microseconds if it is known. -/
structure Moment where
  date : Date
  clock : Clock
  offset : Option Int
deriving DecidableEq, Repr

/-- Microseconds of universal time since the first of January of year 1. -/
def Moment.instant (m : Moment) (offset : Int) : Int :=
  (m.date.ordinal * dayMicros + m.clock.micros : Nat) - offset

/-- Moments with an offset are the same if they are the same instant, those without if they read
the same; one of each kind never are. -/
def Moment.same (a b : Moment) : Bool :=
  match a.offset, b.offset with
  | some p, some q => a.instant p == b.instant q
  | none, none => a.date == b.date && a.clock == b.clock
  | _, _ => false

end Conform
