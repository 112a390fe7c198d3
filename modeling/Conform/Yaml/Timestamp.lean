import Conform.Number.Reading
import Conform.Value
import Conform.Yaml.Failure

/-!
Timestamps: a date, or a date and a time of day with a fraction and an offset.
-/

namespace Conform.Yaml

/-- A time of day as it is written; an offset is in minutes, with its sign. -/
structure StampTime where
  clock : Clock
  fraction : List Char
  offset : Int

/-- A timestamp as it is written. -/
structure Stamp where
  date : Date
  /-- Month and day have two digits each. -/
  isFull : Bool
  time : Option StampTime

namespace Stamp

/-- One or two digits. -/
def short? (cs : List Char) : Option (List Char × List Char) :=
  match (cs.take 2).takeWhile fun c => (digit? c).isSome with
  | [] => none
  | ds => some (ds, cs.drop ds.length)

def two? (cs : List Char) : Option (Nat × List Char) :=
  (short? cs).bind fun (ds, rest) => if ds.length = 2 then some (digitsValue ds, rest) else none

def after? (mark : Char) : List Char → Option (List Char)
  | c :: cs => if c = mark then some cs else none
  | [] => none

def isBlank (c : Char) : Bool := c = ' ' || c = '\t'

/-- The offset at the end of a time, none of which is left. -/
def offset? (cs : List Char) : Option Int :=
  match cs.dropWhile isBlank with
  | [] => if cs.isEmpty then some 0 else none
  | ['Z'] => some 0
  | c :: rest => do
    let sign : Int ← if c = '+' then some 1 else if c = '-' then some (-1) else none
    let (hour, rest) ← short? rest
    match rest with
    | [] => pure (sign * (60 * digitsValue hour : Nat))
    | rest =>
      let (minute, rest) ← two? (← after? ':' rest)
      if rest.isEmpty then pure (sign * (60 * digitsValue hour + minute : Nat)) else none

def time? (cs : List Char) : Option StampTime := do
  let cs ← match cs with
    | c :: rest =>
      if c = 'T' || c = 't' then some rest
      else if isBlank c then some (cs.dropWhile isBlank)
      else none
    | [] => none
  let (hour, cs) ← short? cs
  let (minute, cs) ← two? (← after? ':' cs)
  let (second, cs) ← two? (← after? ':' cs)
  let (fraction, cs) := match cs with
    | '.' :: rest => spanDigits rest
    | _ => ([], cs)
  pure ⟨⟨digitsValue hour, minute, second, 0⟩, fraction, ← offset? cs⟩

def ofText? (cs : List Char) : Option Stamp := do
  let year := cs.take 4
  if year.length = 4 && year.all fun c => (digit? c).isSome then
    let (month, cs) ← short? (← after? '-' (cs.drop 4))
    let (day, cs) ← short? (← after? '-' cs)
    let date : Date := ⟨digitsValue year, digitsValue month, digitsValue day⟩
    let isFull := month.length = 2 && day.length = 2
    match cs with
    | [] => pure ⟨date, isFull, none⟩
    | cs => pure ⟨date, isFull, some (← time? cs)⟩
  else none

/-- Microseconds of a fraction: six digits count, and the seventh rounds them. -/
def micros (fraction : List Char) : Nat :=
  let ds := fraction.take 6
  let up := (fraction[6]?.bind digit?).any (4 < ·)
  digitsValue ds * 10 ^ (6 - ds.length) + (if up then 1 else 0)

/-- What keeps a date or a time from being one. -/
def fault? (d : Date) (c : Clock) : Option String :=
  if d.year = 0 then some "year 0 is out of range"
  else if d.month = 0 || 12 < d.month then some "month must be in 1..12"
  else if !d.isValid then some "day is out of range for month"
  else if 24 ≤ c.hour then some "hour must be in 0..23"
  else if 60 ≤ c.minute then some "minute must be in 0..59"
  else if 60 ≤ c.second then some "second must be in 0..59"
  else if 1000000 ≤ c.micro then some "microsecond must be in 0..999999"
  else none

/-- The moment in universal time, or the date. -/
def value (s : Stamp) : Except Failure Value :=
  match s.time with
  | none =>
    match fault? s.date ⟨0, 0, 0, 0⟩ with
    | some reason => .error (.badDate reason)
    | none => .ok (.date s.date)
  | some t =>
    let clock := { t.clock with micro := micros t.fraction }
    match fault? s.date clock with
    | some reason => .error (.badDate reason)
    | none =>
      let instant := (Moment.mk s.date clock none).instant (t.offset * 60000000)
      if instant < 0 || (3652059 * dayMicros : Nat) ≤ instant then .error .dateOutOfRange
      else
        let n := instant.toNat
        let rest := n % dayMicros
        let clock : Clock :=
          ⟨rest / 3600000000, rest / 60000000 % 60, rest / 1000000 % 60, rest % 1000000⟩
        .ok (.moment ⟨Date.ofOrdinal (n / dayMicros), clock, none⟩)

end Stamp

end Conform.Yaml
