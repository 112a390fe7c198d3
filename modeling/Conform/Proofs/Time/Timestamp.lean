import Conform.Guard.Primitive
import Conform.Match
import Conform.Proofs.Time.Fields

/-! A text of the shape of a date is a timestamp if it has a time, and the numbers written make up
a day of the calendar and a time of that day. -/

namespace Conform

/-! ### The calendar -/

def LeapYear (year : Nat) : Prop := 4 ∣ year ∧ (100 ∣ year → 400 ∣ year)

/-- The date is one of the proleptic Gregorian calendar. -/
structure WrittenDate.Exists (d : WrittenDate) : Prop where
  year : 1 ≤ d.year.value
  month : 1 ≤ d.month.value ∧ d.month.value ≤ 12
  day : 1 ≤ d.day.value ∧ d.day.value ≤ 31
  short : d.month.value ∈ [4, 6, 9, 11] → d.day.value ≤ 30
  february : d.month.value = 2 → d.day.value ≤ 29 ∧ (d.day.value = 29 → LeapYear d.year.value)

/-- An offset is less than a day in all; its minutes alone may be sixty and more. -/
def WrittenZone.InRange : WrittenZone → Prop
  | universal => True
  | offset _ hour minute => 60 * hour.value + minute.value < 1440

structure WrittenTime.InRange (t : WrittenTime) : Prop where
  hour : t.hour.value < 24
  minute : t.minute.value < 60
  second : t.second.value < 60
  zone : ∀ zone ∈ t.zone, zone.InRange

theorem isLeap_iff {year : Nat} : isLeap year = true ↔ LeapYear year := by
  simp only [isLeap, LeapYear, Bool.and_eq_true, Bool.or_eq_true, decide_eq_true_eq]
  omega

theorem le_daysInMonth_iff {year month day : Nat} : day ≤ daysInMonth year month ↔
    day ≤ 31 ∧ (month ∈ [4, 6, 9, 11] → day ≤ 30) ∧
      (month = 2 → day ≤ 29 ∧ (day = 29 → LeapYear year)) := by
  rw [← isLeap_iff]
  unfold daysInMonth
  split
  case h_1 => cases isLeap year <;> simp <;> omega
  case h_6 => grind
  all_goals simp; omega

def WrittenDate.reading (d : WrittenDate) : Date := ⟨d.year.value, d.month.value, d.day.value⟩

theorem isValid_reading_iff {d : WrittenDate} : d.reading.isValid = true ↔ d.Exists := by
  have hyear : d.year.value < 10000 := d.year.value_lt
  simp only [Date.isValid, Bool.and_eq_true, decide_eq_true_eq, le_daysInMonth_iff]
  simp only [WrittenDate.reading]
  constructor
  · rintro ⟨⟨⟨⟨⟨hyear, -⟩, hmonth⟩, hmonth'⟩, hday⟩, hday', hshort, hfebruary⟩
    exact ⟨hyear, ⟨hmonth, hmonth'⟩, ⟨hday, hday'⟩, hshort, hfebruary⟩
  · rintro ⟨hyear, ⟨hmonth, hmonth'⟩, ⟨hday, hday'⟩, hshort, hfebruary⟩
    exact ⟨⟨⟨⟨⟨hyear, by omega⟩, hmonth⟩, hmonth'⟩, hday⟩, hday', hshort, hfebruary⟩

/-! ### Bytes -/

def WrittenDate.bytes (d : WrittenDate) : Bytes :=
  d.year.bytes ++ 45 :: (d.month.bytes ++ 45 :: d.day.bytes)

def zoneBytes : Option WrittenZone → Bytes
  | none => []
  | some .universal => [90]
  | some (.offset negative hour minute) =>
    (if negative then 45 else 43) :: (hour.bytes ++ 58 :: minute.bytes)

def WrittenTime.bytes (t : WrittenTime) : Bytes := t.clockBytes ++ zoneBytes t.zone

def timeBytes : Option WrittenTime → Bytes
  | none => []
  | some t => 84 :: t.bytes

theorem zoneBytes_eq (zone : Option WrittenZone) :
    (zoneChars zone).map Char.toUInt8 = zoneBytes zone := by
  rcases zone with _ | _ | ⟨negative, hour, minute⟩
  · rfl
  · rfl
  · cases negative <;>
      simp only [zoneChars, WrittenZone.chars, signChar, List.map_cons, List.map_append] <;> rfl

theorem bytes_eq (w : Written) :
    w.chars.map Char.toUInt8 = w.date.bytes ++ timeBytes w.time := by
  obtain ⟨date, _ | time⟩ := w
  · simp only [Written.chars, timeChars, WrittenDate.chars, List.map_append, List.map_cons]
    rfl
  · simp only [Written.chars, timeChars, WrittenDate.chars, List.map_append, List.map_cons,
      zoneBytes_eq]
    rfl

theorem mem_clockChars {t : WrittenTime} {c : Char} (h : c ∈ t.clockChars) :
    isAsciiDigit c = true ∨ c ∈ [':', '.'] := by
  have hdigits : ∀ ds : Digits 2, c ∈ ds.chars → isAsciiDigit c = true := fun ds => ds.isDigit c
  have hfraction : c ∈ fractionChars t.fraction → isAsciiDigit c = true ∨ c = '.' := by
    rcases t.fraction with _ | ⟨n, ds⟩
    · exact fun h => absurd h List.not_mem_nil
    · exact fun h => (List.mem_cons.1 h).symm.imp_left (ds.isDigit c)
  simp only [WrittenTime.clockChars, List.mem_append, List.mem_cons] at h
  grind

theorem mem_zoneChars {zone : Option WrittenZone} {c : Char} (h : c ∈ zoneChars zone) :
    isAsciiDigit c = true ∨ c ∈ [':', 'Z', '+', '-'] := by
  have hdigits : ∀ ds : Digits 2, c ∈ ds.chars → isAsciiDigit c = true := fun ds => ds.isDigit c
  rcases zone with _ | _ | ⟨negative, hour, minute⟩
  · exact absurd h List.not_mem_nil
  · grind [zoneChars, WrittenZone.chars]
  · grind [zoneChars, WrittenZone.chars, signChar]

theorem mem_chars {w : Written} {c : Char} (h : c ∈ w.chars) :
    isAsciiDigit c = true ∨ c ∈ ['-', 'T', ':', '.', 'Z', '+'] := by
  have hdate : c ∈ w.date.chars → isAsciiDigit c = true ∨ c = '-' := by
    have hyear := w.date.year.isDigit c
    have hmonth := w.date.month.isDigit c
    have hday := w.date.day.isDigit c
    simp only [WrittenDate.chars, List.mem_append, List.mem_cons]
    grind
  have htime : c ∈ timeChars w.time → isAsciiDigit c = true ∨ c ∈ ['T', ':', '.', 'Z', '+', '-'] := by
    rcases w.time with _ | t
    · exact fun h => absurd h List.not_mem_nil
    · have hclock := @mem_clockChars t c
      have hzone := @mem_zoneChars t.zone c
      simp only [timeChars, List.mem_cons, List.mem_append]
      grind
  rw [Written.chars, List.mem_append] at h
  grind

theorem isAscii_chars {w : Written} : ∀ c ∈ w.chars, c.toNat < 128 := by
  intro c hc
  rcases mem_chars hc with hdigit | hmark
  · exact Nat.lt_of_le_of_lt (toNat_of_isAsciiDigit hdigit).2 (by decide)
  · have hmarks : ∀ d ∈ ['-', 'T', ':', '.', 'Z', '+'], d.toNat < 128 := by simp
    exact hmarks c hmark

theorem utf8_text (w : Written) : w.text.toUTF8.toList = w.date.bytes ++ timeBytes w.time := by
  rw [Written.text, toUTF8_ofList isAscii_chars, bytes_eq]

/-! ### Reading -/

theorem readDate_bytes (d : WrittenDate) (rest : Bytes) :
    readDate (d.bytes ++ rest) = some (d.reading, rest) := by
  simp [readDate, WrittenDate.bytes, Digits.readDigits_append, WrittenDate.reading]

theorem isSome_readZone_iff {zone : Option WrittenZone} :
    (readZone (zoneBytes zone)).isSome = true ↔ ∀ z ∈ zone, z.InRange := by
  rcases zone with _ | _ | ⟨negative, hour, minute⟩
  · simp [zoneBytes, readZone]
  · simp [zoneBytes, readZone, WrittenZone.InRange]
  · have hsign : ¬ (if negative then (45 : UInt8) else 43) = 90 := by cases negative <;> decide
    have hmicros : dayMicros ≤ Clock.micros ⟨hour.value, minute.value, 0, 0⟩ ↔
        ¬ 60 * hour.value + minute.value < 1440 := by
      simp only [dayMicros, Clock.micros]
      omega
    simp only [zoneBytes, readZone, if_neg hsign, readClock_offset, Bool.false_or,
      decide_eq_true_eq, hmicros, Option.mem_some_iff, WrittenZone.InRange]
    split_ifs <;> simp [*]

theorem startsZone_of_digit {b : UInt8} (h : isDigitByte b = true) : startsZone b = false := by
  simp only [startsZone, Bool.or_eq_false_iff, decide_eq_false_iff_not]
  refine ⟨⟨?_, ?_⟩, ?_⟩ <;> rintro rfl <;> exact absurd h (by decide)

theorem startsZone_clockBytes {t : WrittenTime} {b : UInt8} (h : b ∈ t.clockBytes) :
    startsZone b = false := by
  obtain ⟨c, hc, rfl⟩ := List.mem_map.1 h
  rcases mem_clockChars hc with hdigit | hmark
  · exact startsZone_of_digit (isDigitByte_toUInt8 hdigit)
  · have hc : c = ':' ∨ c = '.' := by simpa using hmark
    rcases hc with rfl | rfl <;> rfl

theorem split_time (t : WrittenTime) :
    t.bytes.takeWhile (fun b => !startsZone b) = t.clockBytes ∧
      t.bytes.dropWhile (fun b => !startsZone b) = zoneBytes t.zone := by
  have hclock : ∀ b ∈ t.clockBytes, (!startsZone b) = true := by
    intro b hb
    rw [startsZone_clockBytes hb, Bool.not_false]
  have hzone : (zoneBytes t.zone).takeWhile (fun b => !startsZone b) = [] ∧
      (zoneBytes t.zone).dropWhile (fun b => !startsZone b) = zoneBytes t.zone := by
    rcases t.zone with _ | _ | ⟨negative, hour, minute⟩
    · exact ⟨rfl, rfl⟩
    · exact ⟨rfl, rfl⟩
    · cases negative <;> exact ⟨rfl, rfl⟩
  rw [WrittenTime.bytes, List.takeWhile_append_of_pos hclock, List.dropWhile_append_of_pos hclock,
    hzone.1, hzone.2, List.append_nil]
  exact ⟨rfl, rfl⟩

theorem isSome_readTime_iff {date : Date} {t : WrittenTime} :
    (Moment.readTime date t.bytes).isSome = true ↔ date.isValid = true ∧ t.InRange := by
  obtain ⟨hsplit, hsplit'⟩ := split_time t
  obtain ⟨micro, hclock⟩ := readClock_time t ((zoneBytes t.zone).headD 0)
  -- what the fields leave over is the zone
  have hleft : (List.isEmpty (zoneBytes t.zone) &&
      decide ((zoneBytes t.zone).headD 0 ≠ 0)) = false := by
    cases zoneBytes t.zone <;> rfl
  have hvalid : Clock.isValid ⟨t.hour.value, t.minute.value, t.second.value, micro⟩ = true ↔
      t.hour.value < 24 ∧ t.minute.value < 60 ∧ t.second.value < 60 := by
    simp [Clock.isValid, and_assoc]
  have hread : (Moment.readTime date t.bytes).isSome = true ↔
      date.isValid = true ∧
        Clock.isValid ⟨t.hour.value, t.minute.value, t.second.value, micro⟩ = true ∧
          (readZone (zoneBytes t.zone)).isSome = true := by
    simp only [Moment.readTime, hsplit, hsplit', hclock, Option.bind_eq_bind, Option.bind_some,
      hleft]
    cases readZone (zoneBytes t.zone) <;> simp
  rw [hread, hvalid, isSome_readZone_iff]
  constructor
  · rintro ⟨hdate, ⟨hhour, hminute, hsecond⟩, hzone⟩
    exact ⟨hdate, hhour, hminute, hsecond, hzone⟩
  · rintro ⟨hdate, hhour, hminute, hsecond, hzone⟩
    exact ⟨hdate, ⟨hhour, hminute, hsecond⟩, hzone⟩

/-! ### The start of a timestamp -/

/-- Bytes start as a shape does, in which the letter `d` holds the place of a digit. -/
def startsAs (shape bs : Bytes) : Bool :=
  shape.length ≤ bs.length &&
    (shape.zip bs).all fun (s, b) => if s = 100 then isDigitByte b else s == b

section Start

variable {shape rest : Bytes}

theorem startsAs_nil : startsAs [] rest = true := by simp [startsAs]

theorem startsAs_cons {s b : UInt8} : startsAs (s :: shape) (b :: rest) =
    ((if s = 100 then isDigitByte b else s == b) && startsAs shape rest) := by
  simp [startsAs, Bool.and_left_comm]

theorem startsAs_digits {n : Nat} (ds : Digits n) :
    startsAs (List.replicate n 100 ++ shape) (ds.bytes ++ rest) = startsAs shape rest := by
  have hdigits : ∀ bs : Bytes, (∀ b ∈ bs, isDigitByte b = true) →
      startsAs (List.replicate bs.length 100 ++ shape) (bs ++ rest) = startsAs shape rest := by
    intro bs hbs
    induction bs with
    | nil => rfl
    | cons b bs ih =>
      rw [List.length_cons, List.replicate_succ, List.cons_append, List.cons_append, startsAs_cons,
        if_pos rfl, hbs b List.mem_cons_self, Bool.true_and]
      exact ih fun d hd => hbs d (List.mem_cons_of_mem b hd)
  simpa only [ds.length_bytes] using hdigits ds.bytes fun b hb => ds.isDigitByte_of_mem hb

theorem hasTimestampShape_eq (bs : Bytes) : hasTimestampShape bs =
    startsAs (List.replicate 4 100 ++ 45 :: (List.replicate 2 100 ++ 45 ::
      (List.replicate 2 100 ++ 84 :: (List.replicate 2 100 ++ 58 ::
        (List.replicate 2 100 ++ 58 :: (List.replicate 2 100 ++ [])))))) bs := by
  have hshape := @toUTF8_ofList "dddd-dd-ddTdd:dd:dd".toList (by simp)
  rw [String.ofList_toList] at hshape
  rw [hasTimestampShape, hshape]
  rfl

theorem hasTimestampShape_date (d : WrittenDate) : hasTimestampShape d.bytes = false := by
  rw [← List.append_nil d.bytes, hasTimestampShape_eq]
  simp only [WrittenDate.bytes, List.append_assoc, List.cons_append, startsAs_digits, startsAs_cons]
  rfl

theorem hasTimestampShape_time (d : WrittenDate) (t : WrittenTime) :
    hasTimestampShape (d.bytes ++ 84 :: t.bytes) = true := by
  rw [hasTimestampShape_eq, WrittenTime.bytes, t.clockBytes_eq]
  simp only [WrittenDate.bytes, List.append_assoc, List.cons_append, startsAs_digits, startsAs_cons,
    startsAs_nil]
  rfl

end Start

/-- The shape of a date is a matter of the characters alone: the texts that have it are those that
can be written. A timestamp asks for a time, for a day of the calendar and for a time of the day,
and for nothing else. -/
theorem isTimestamp_iff_of_isoDate :
    (∀ v : Value, Guard.Primitive.iso8601Date.accepts v = true ↔ ∃ w : Written, v = .text w.text) ∧
    ∀ w : Written, (Value.text w.text).isTimestamp = true ↔
      ∃ t, w.time = some t ∧ w.date.Exists ∧ t.InRange := by
  constructor
  · intro v
    cases v with
    | text s => simp [Guard.Primitive.accepts, Guard.Primitive.isText, isIsoDate_iff]
    | _ => simp [Guard.Primitive.accepts, Guard.Primitive.isText]
  · rintro ⟨date, _ | t⟩
    · simp only [Value.isTimestamp, Moment.ofTimestamp?, utf8_text, timeBytes, List.append_nil,
        hasTimestampShape_date]
      simp
    · have hread : Moment.read (date.bytes ++ 84 :: t.bytes) =
          Moment.readTime date.reading t.bytes := by
        simp [Moment.read, readDate_bytes]
      simp only [Value.isTimestamp, Moment.ofTimestamp?, utf8_text, timeBytes,
        hasTimestampShape_time, if_true, hread, isSome_readTime_iff, isValid_reading_iff,
        Option.some.injEq, exists_eq_left']

end Conform
