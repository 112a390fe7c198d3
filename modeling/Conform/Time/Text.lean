import Conform.Text.Layout
import Conform.Time.Calendar

/-!
How dates and moments are written: in ISO form, and as constructor calls.
-/

namespace Conform

def Date.iso (d : Date) : String :=
  padZeros 4 d.year.repr ++ "-" ++ padZeros 2 d.month.repr ++ "-" ++ padZeros 2 d.day.repr

/-- `HH:MM:SS`, with six digits of a second if they are not all zero. -/
def Clock.iso (c : Clock) : String :=
  padZeros 2 c.hour.repr ++ ":" ++ padZeros 2 c.minute.repr ++ ":" ++ padZeros 2 c.second.repr ++
    (if c.micro = 0 then "" else "." ++ padZeros 6 c.micro.repr)

/-- The clock that shows a number of microseconds after midnight. -/
def Clock.ofMicros (n : Nat) : Clock :=
  let s := n / 1000000
  ⟨s / 3600, s / 60 % 60, s % 60, n % 1000000⟩

/-- An offset: `+HH:MM`, with seconds and their fraction only where they are not zero. -/
def offsetIso (offset : Int) : String :=
  let c := Clock.ofMicros offset.natAbs
  (if offset < 0 then "-" else "+") ++ padZeros 2 c.hour.repr ++ ":" ++ padZeros 2 c.minute.repr ++
    (if c.second = 0 && c.micro = 0 then ""
     else ":" ++ padZeros 2 c.second.repr ++
      (if c.micro = 0 then "" else "." ++ padZeros 6 c.micro.repr))

def Moment.iso (m : Moment) : String :=
  m.date.iso ++ "T" ++ m.clock.iso ++ (m.offset.elim "" offsetIso)

def Date.display (d : Date) : String :=
  "datetime.date(" ++ commaSeparated [d.year.repr, d.month.repr, d.day.repr] ++ ")"

/-- A length of time in whole days, seconds below a day and microseconds; zero parts are left
out. -/
def durationDisplay (micros : Int) : String :=
  let days := Int.fdiv micros dayMicros
  let rest := (Int.fmod micros dayMicros).toNat
  let part := fun (name : String) (n : Int) =>
    if n = 0 then [] else [name ++ "=" ++ toString n]
  let parts := part "days" days ++ part "seconds" (rest / 1000000 : Nat) ++
    part "microseconds" (rest % 1000000 : Nat)
  "datetime.timedelta(" ++ (if parts.isEmpty then "0" else commaSeparated parts) ++ ")"

def offsetDisplay (offset : Int) : String :=
  if offset = 0 then "datetime.timezone.utc"
  else "datetime.timezone(" ++ durationDisplay offset ++ ")"

/-- Seconds are left out if they and the microseconds are zero, microseconds if they are. -/
def Moment.display (m : Moment) : String :=
  let c := m.clock
  let small :=
    if c.micro ≠ 0 then [c.second.repr, c.micro.repr]
    else if c.second ≠ 0 then [c.second.repr] else []
  let zone := m.offset.elim [] fun o => ["tzinfo=" ++ offsetDisplay o]
  "datetime.datetime(" ++ commaSeparated ([m.date.year.repr, m.date.month.repr, m.date.day.repr,
    c.hour.repr, c.minute.repr] ++ small ++ zone) ++ ")"

end Conform
