import Conform.Time.Calendar

/-!
Reading timestamps such as `2024-02-29T23:59:59.5+02:00`. A timestamp has a time of day with
seconds; a date alone is none.
-/

namespace Conform

/-- The bytes of a text; a byte of zero stands for its end wherever it is looked at. -/
abbrev Bytes := List UInt8

def isDigitByte (b : UInt8) : Bool := 48 ≤ b && b ≤ 57

/-- The number that `count` digits at the start spell, and what follows them. -/
def readDigits (count : Nat) (bs : Bytes) : Option (Nat × Bytes) :=
  let ds := bs.take count
  if ds.length = count && ds.all isDigitByte then
    some (ds.foldl (fun n b => 10 * n + (b.toNat - 48)) 0, bs.drop count)
  else none

/-- What two-digit fields and a fraction spell, and whether something is left over. -/
structure ClockReading where
  clock : Clock
  leftover : Bool
deriving DecidableEq, Repr

/-- Reads a fraction of a second that fills the bytes: six digits count and more are skipped; what
follows the sixth is left over. -/
def readFraction (bs : Bytes) (next : UInt8) : Option (Nat × Bool) :=
  let count := min 6 bs.length
  match readDigits count bs with
  | none => none
  | some (n, rest) =>
    let after := (rest.dropWhile isDigitByte).headD next
    some (n * Nat.pow 10 (6 - count), after ≠ 0)

/-- The separator between the fields of a time is a colon everywhere or nowhere. -/
inductive FieldStyle where
  | undecided
  | colons
  | compact
deriving DecidableEq, Repr

/-- Reads up to `fields` two-digit fields into the numbers so far, most significant last. A full
stop, a comma, or a third separator opens the fraction. `next` is the byte after the given ones. -/
def readFields (style : FieldStyle) (sofar : List Nat) (next : UInt8) :
    Nat → Bytes → Option (List Nat × Nat × Bool)
  | 0, bs => (readFraction bs next).map fun (f, left) => (sofar, f, left)
  | fields + 1, bs =>
    match readDigits 2 bs with
    | none => none
    | some (n, rest) =>
      let sofar := n :: sofar
      match rest with
      | [] => some (sofar, 0, next ≠ 0)
      | [c] => some (sofar, 0, c ≠ 0)
      | c :: after =>
        let style := match style with
          | .undecided => if c = 58 then .colons else .compact
          | s => s
        if style = .colons && c = 58 then readFields style sofar next fields after
        else if c = 46 || c = 44 then
          (readFraction after next).map fun (f, left) => (sofar, f, left)
        else if style = .compact then readFields style sofar next fields (c :: after)
        else none

/-- Reads a time of day or an offset: `HH`, `HH:MM`, `HHMM`, … with a fraction of the last field
given as microseconds. -/
def readClock (bs : Bytes) (next : UInt8) : Option ClockReading :=
  match readFields .undecided [] next 3 bs with
  | none => none
  | some (fields, micro, leftover) =>
    let fields := fields.reverse
    some ⟨⟨fields.getD 0 0, fields.getD 1 0, fields.getD 2 0, micro⟩, leftover⟩

/-- Reads what follows the time: nothing, `Z`, or a signed offset of less than a day. An offset
below one second counts as none from universal time. -/
def readZone : Bytes → Option (Option Int)
  | [] => some none
  | b :: rest =>
    if b = 90 then if rest.headD 0 = 0 then some (some 0) else none
    else
      match readClock rest 0 with
      | none => none
      | some r =>
        if r.leftover || dayMicros ≤ r.clock.micros then none
        else if r.clock.micros < 1000000 then some (some 0)
        else some (some (if b = 45 then -(r.clock.micros : Int) else r.clock.micros))

/-- A plus sign, a minus sign or a `Z` begins the zone. -/
def startsZone (b : UInt8) : Bool := b = 43 || b = 45 || b = 90

/-- Reads `YYYY-MM-DD`. -/
def readDate (bs : Bytes) : Option (Date × Bytes) := do
  let (y, bs) ← readDigits 4 bs
  let (m, bs) ← match bs with | 45 :: r => readDigits 2 r | _ => none
  let (d, bs) ← match bs with | 45 :: r => readDigits 2 r | _ => none
  pure (⟨y, m, d⟩, bs)

/-- Reads a time with an optional zone; it and the date must be in range. -/
def Moment.readTime (date : Date) (bs : Bytes) : Option Moment := do
  let time := bs.takeWhile (fun b => !startsZone b)
  let zone := bs.dropWhile (fun b => !startsZone b)
  let r ← readClock time (zone.headD 0)
  let offset ← readZone zone
  if (zone.isEmpty && r.leftover) || !date.isValid || !r.clock.isValid then none
  else some ⟨date, r.clock, offset⟩

/-- Reads a date, any one byte, and a time with an optional zone. -/
def Moment.read (bs : Bytes) : Option Moment := do
  let (date, bs) ← readDate bs
  Moment.readTime date (bs.drop 1)

/-- Whether the bytes begin as `dddd-dd-ddTdd:dd:dd` does. -/
def hasTimestampShape (bs : Bytes) : Bool :=
  let shape := "dddd-dd-ddTdd:dd:dd".toUTF8.toList
  shape.length ≤ bs.length &&
    (shape.zip bs).all fun (s, b) => if s = 100 then isDigitByte b else s == b

/-- The moment that a timestamp stands for. -/
def Moment.ofTimestamp? (s : String) : Option Moment :=
  let bs := s.toUTF8.toList
  if hasTimestampShape bs then Moment.read bs else none

/-- Reads `YYYYMMDD`, `YYYYWww` or `YYYYWwwd`, with a hyphen between all parts or none; a week
stands for its Monday. -/
def readAnyDate (bs : Bytes) : Option Date := do
  let (year, rest) ← readDigits 4 bs
  let hyphens := rest.head? = some 45
  let separated := fun (r : Bytes) => if hyphens then
    match r with
    | 45 :: r => some r
    | _ => none
  else some r
  match ← separated rest with
  | 87 :: r =>
    let (week, r) ← readDigits 2 r
    if r.isEmpty then Date.ofWeek? year week 1
    else
      let (day, r) ← readDigits 1 (← separated r)
      if r.isEmpty then Date.ofWeek? year week day else none
  | r =>
    let (month, r) ← readDigits 2 r
    let (day, r) ← readDigits 2 (← separated r)
    if r.isEmpty && Date.isValid ⟨year, month, day⟩ then some ⟨year, month, day⟩ else none

/-- How many bytes the date takes at the start of a moment. A hyphen after a week separates it from
the time if two digits follow. -/
def dateWidth (bs : Bytes) : Nat :=
  let digitAt := fun i => bs[i]?.any isDigitByte
  if bs.length = 7 then 7
  else if bs[4]? = some 45 then
    if bs[5]? = some 87 && (bs[8]? ≠ some 45 || digitAt 10) then 8 else 10
  else if bs[4]? = some 87 then
    let digits := 7 + ((bs.drop 7).takeWhile isDigitByte).length
    if digits < 9 then digits else if digits % 2 = 0 then 7 else 8
  else 8

/-- How many bytes the character takes that a byte begins. -/
def characterWidth (b : UInt8) : Nat :=
  if b < 0x80 then 1 else if b &&& 0xF0 = 0xE0 then 3 else if b &&& 0xF0 = 0xF0 then 4 else 2

/-- The moment that a date, any one character and a time stand for, or a date alone (its
midnight). -/
def Moment.ofText? (s : String) : Option Moment := do
  let bs := s.toUTF8.toList
  let date ← readAnyDate (bs.take (dateWidth bs))
  match bs.drop (dateWidth bs) with
  | [] => if date.isValid then some ⟨date, ⟨0, 0, 0, 0⟩, none⟩ else none
  | b :: rest => Moment.readTime date ((b :: rest).drop (characterWidth b))

def Date.ofText? (s : String) : Option Date := (readAnyDate s.toUTF8.toList).filter (·.isValid)

end Conform
