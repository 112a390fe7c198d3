import Conform.Text.Format

/-! Dates and times as they are written. The shape of a date says which characters stand where, and
nothing of what the numbers mean: it matches what is written with any digits at all. -/

namespace Conform

structure Digits (n : Nat) where
  chars : List Char
  length_eq : chars.length = n
  isDigit : ∀ c ∈ chars, isAsciiDigit c = true

def Digits.value {n : Nat} (ds : Digits n) : Nat := Nat.ofDigitChars 10 ds.chars 0

inductive WrittenZone where
  | universal
  | offset (negative : Bool) (hour minute : Digits 2)

structure WrittenDate where
  year : Digits 4
  month : Digits 2
  day : Digits 2

/-- A time of day, with a fraction of a second of one digit or more. -/
structure WrittenTime where
  hour : Digits 2
  minute : Digits 2
  second : Digits 2
  fraction : Option (Σ n : Nat, Digits (n + 1))
  zone : Option WrittenZone

structure Written where
  date : WrittenDate
  time : Option WrittenTime

def signChar (negative : Bool) : Char := if negative then '-' else '+'

def WrittenZone.chars : WrittenZone → List Char
  | universal => ['Z']
  | offset negative hour minute => signChar negative :: (hour.chars ++ ':' :: minute.chars)

def fractionChars : Option (Σ n : Nat, Digits (n + 1)) → List Char
  | none => []
  | some ⟨_, ds⟩ => '.' :: ds.chars

def zoneChars : Option WrittenZone → List Char
  | none => []
  | some zone => zone.chars

def WrittenDate.chars (d : WrittenDate) : List Char :=
  d.year.chars ++ '-' :: (d.month.chars ++ '-' :: d.day.chars)

def WrittenTime.clockChars (t : WrittenTime) : List Char :=
  t.hour.chars ++ ':' :: (t.minute.chars ++ ':' :: (t.second.chars ++ fractionChars t.fraction))

def timeChars : Option WrittenTime → List Char
  | none => []
  | some t => 'T' :: (t.clockChars ++ zoneChars t.zone)

def Written.chars (w : Written) : List Char := w.date.chars ++ timeChars w.time

def Written.text (w : Written) : String := String.ofList w.chars

/-! ### The shape of a date -/

section Shape

open Pattern hiding some

variable {cs : List Char}

theorem accepts_digits_iff {n : Nat} :
    (digits n).accepts cs = true ↔ ∃ ds : Digits n, cs = ds.chars := by
  rw [digits, accepts_times_iff]
  constructor
  · rintro ⟨hlength, hdigits⟩
    exact ⟨⟨cs, hlength, hdigits⟩, rfl⟩
  · rintro ⟨ds, rfl⟩
    exact ⟨ds.length_eq, ds.isDigit⟩

theorem accepts_sign_iff : (times 1 fun c => c = '+' || c = '-').accepts cs = true ↔
    ∃ negative, cs = [signChar negative] := by
  rw [accepts_times_iff]
  constructor
  · rintro ⟨hlength, hsign⟩
    obtain ⟨c, rfl⟩ := List.length_eq_one_iff.1 hlength
    have hc : c = '+' ∨ c = '-' := by simpa using hsign
    rcases hc with rfl | rfl
    · exact ⟨false, rfl⟩
    · exact ⟨true, rfl⟩
  · rintro ⟨negative, rfl⟩
    cases negative <;> simp [signChar]

theorem accepts_fraction_iff :
    (optional (seq (char '.') (Pattern.some isAsciiDigit))).accepts cs = true ↔
      ∃ fraction, cs = fractionChars fraction := by
  rw [accepts_optional_iff, accepts_seq_iff]
  simp only [accepts_char_iff, accepts_some_iff]
  constructor
  · rintro (rfl | ⟨_, ds, rfl, rfl, hne, hdigits⟩)
    · exact ⟨none, rfl⟩
    · obtain ⟨c, ds, rfl⟩ := List.exists_cons_of_ne_nil hne
      exact ⟨some ⟨ds.length, c :: ds, rfl, hdigits⟩, rfl⟩
  · rintro ⟨_ | ⟨n, ds⟩, rfl⟩
    · exact .inl rfl
    · refine .inr ⟨['.'], ds.chars, rfl, rfl, ?_, ds.isDigit⟩
      exact List.ne_nil_of_length_pos (by rw [ds.length_eq]; omega)

theorem accepts_zone_iff :
    (optional (either (char 'Z') (chain (times 1 fun c => c = '+' || c = '-')
      [digits 2, char ':', digits 2]))).accepts cs = true ↔ ∃ zone, cs = zoneChars zone := by
  simp only [accepts_optional_iff, accepts_either_iff, accepts_chain_cons_iff,
    accepts_chain_nil_iff, accepts_char_iff, accepts_digits_iff, accepts_sign_iff]
  constructor
  · rintro (rfl | rfl | ⟨_, _, rfl, ⟨negative, rfl⟩, _, _, rfl, ⟨hour, rfl⟩, _, _, rfl, rfl,
      minute, rfl⟩)
    · exact ⟨none, rfl⟩
    · exact ⟨some .universal, rfl⟩
    · exact ⟨some (.offset negative hour minute), rfl⟩
  · rintro ⟨_ | _ | ⟨negative, hour, minute⟩, rfl⟩
    · exact .inl rfl
    · exact .inr (.inl rfl)
    · exact .inr (.inr ⟨_, _, rfl, ⟨negative, rfl⟩, _, _, rfl, ⟨hour, rfl⟩, _, _, rfl, rfl,
        minute, rfl⟩)

theorem accepts_time_iff :
    (optional isoTimePattern).accepts cs = true ↔ ∃ time, cs = timeChars time := by
  rw [accepts_optional_iff, isoTimePattern]
  simp only [accepts_chain_cons_iff, accepts_chain_nil_iff, accepts_char_iff, accepts_digits_iff,
    accepts_fraction_iff, accepts_zone_iff]
  constructor
  · rintro (rfl | ⟨_, _, rfl, rfl, _, _, rfl, ⟨hour, rfl⟩, _, _, rfl, rfl, _, _, rfl, ⟨minute, rfl⟩,
      _, _, rfl, rfl, _, _, rfl, ⟨second, rfl⟩, _, _, rfl, ⟨fraction, rfl⟩, zone, rfl⟩)
    · exact ⟨none, rfl⟩
    · exact ⟨some ⟨hour, minute, second, fraction, zone⟩,
        by simp [timeChars, WrittenTime.clockChars]⟩
  · rintro ⟨_ | ⟨hour, minute, second, fraction, zone⟩, rfl⟩
    · exact .inl rfl
    · refine .inr ⟨_, _, ?_, rfl, _, _, rfl, ⟨hour, rfl⟩, _, _, rfl, rfl, _, _, rfl, ⟨minute, rfl⟩,
        _, _, rfl, rfl, _, _, rfl, ⟨second, rfl⟩, _, _, rfl, ⟨fraction, rfl⟩, zone, rfl⟩
      simp [timeChars, WrittenTime.clockChars]

/-- The texts of the shape are those that can be written. -/
theorem isIsoDate_iff {s : String} : isIsoDate s = true ↔ ∃ w : Written, s = w.text := by
  have hchars : isoDatePattern.accepts s.toList = true ↔ ∃ w : Written, s.toList = w.chars := by
    simp only [isoDatePattern, accepts_chain_cons_iff, accepts_chain_nil_iff, accepts_char_iff,
      accepts_digits_iff, accepts_time_iff]
    constructor
    · rintro ⟨_, _, hs, ⟨year, rfl⟩, _, _, rfl, rfl, _, _, rfl, ⟨month, rfl⟩, _, _, rfl, rfl,
        _, _, rfl, ⟨day, rfl⟩, time, rfl⟩
      exact ⟨⟨⟨year, month, day⟩, time⟩, by simp [hs, Written.chars, WrittenDate.chars]⟩
    · rintro ⟨⟨⟨year, month, day⟩, time⟩, hs⟩
      refine ⟨_, _, ?_, ⟨year, rfl⟩, _, _, rfl, rfl, _, _, rfl, ⟨month, rfl⟩, _, _, rfl, rfl,
        _, _, rfl, ⟨day, rfl⟩, time, rfl⟩
      simp [hs, Written.chars, WrittenDate.chars]
  rw [isIsoDate, hchars]
  simp only [Written.text, String.ext_iff, String.toList_ofList]

end Shape

end Conform
