import Conform.Proofs.Time.Written
import Conform.Time.Reading
import Mathlib.Data.List.Basic
import Mathlib.Data.List.TakeWhile

/-! The bytes of a time, and its fields as they are read from them. -/

namespace Conform

/-! ### Bytes -/

theorem bytes_loop_eq (bs : ByteArray) (i : Nat) (sofar : Bytes) :
    ByteArray.toList.loop bs i sofar = sofar.reverse ++ bs.data.toList.drop i := by
  fun_induction ByteArray.toList.loop bs i sofar with
  | case1 i sofar hi ih =>
    have hi : i < bs.data.toList.length := by simpa using hi
    rw [ih, List.drop_eq_getElem_cons hi]
    simp [ByteArray.get!, getElem!_pos bs.data i (by simpa using hi)]
  | case2 i sofar hi =>
    have hi : bs.data.toList.length ≤ i := by simpa using hi
    rw [List.drop_eq_nil_of_le hi, List.append_nil]

theorem toUTF8_ofList {cs : List Char} (h : ∀ c ∈ cs, c.toNat < 128) :
    (String.ofList cs).toUTF8.toList = cs.map Char.toUInt8 := by
  have hbyte : ∀ c ∈ cs, String.utf8EncodeChar c = [c.toUInt8] := by
    intro c hc
    exact if_pos (Nat.le_of_lt_succ (h c hc))
  rw [String.toUTF8, String.toByteArray_ofList, ByteArray.toList, bytes_loop_eq]
  simp [List.utf8Encode, List.flatMap_congr hbyte, List.map_eq_flatMap]

theorem toNat_of_isAsciiDigit {c : Char} (h : isAsciiDigit c = true) :
    48 ≤ c.toNat ∧ c.toNat ≤ 57 := by
  simpa [isAsciiDigit, Char.le_def, UInt32.le_iff_toNat_le] using h

theorem toNat_toUInt8_of_digit {c : Char} (h : isAsciiDigit c = true) :
    c.toUInt8.toNat = c.toNat := by
  have hc := toNat_of_isAsciiDigit h
  exact Nat.mod_eq_of_lt (Nat.lt_of_le_of_lt hc.2 (by decide))

theorem isDigitByte_toUInt8 {c : Char} (h : isAsciiDigit c = true) :
    isDigitByte c.toUInt8 = true := by
  simpa [isDigitByte, UInt8.le_iff_toNat_le, toNat_toUInt8_of_digit h] using toNat_of_isAsciiDigit h

theorem ofDigitChars_lt {cs : List Char} (h : ∀ c ∈ cs, isAsciiDigit c = true) (v : Nat) :
    Nat.ofDigitChars 10 cs v < (v + 1) * 10 ^ cs.length := by
  induction cs generalizing v with
  | nil => simp
  | cons c cs ih =>
    have hc := toNat_of_isAsciiDigit (h c List.mem_cons_self)
    have hv : 10 * v + (c.toNat - '0'.toNat) + 1 ≤ (v + 1) * 10 := by
      rw [show '0'.toNat = 48 from rfl]
      omega
    calc Nat.ofDigitChars 10 (c :: cs) v
        = Nat.ofDigitChars 10 cs (10 * v + (c.toNat - '0'.toNat)) := rfl
      _ < (10 * v + (c.toNat - '0'.toNat) + 1) * 10 ^ cs.length :=
        ih (fun d hd => h d (List.mem_cons_of_mem c hd)) _
      _ ≤ (v + 1) * 10 * 10 ^ cs.length := Nat.mul_le_mul_right _ hv
      _ = (v + 1) * 10 ^ (c :: cs).length := by rw [List.length_cons, Nat.pow_succ', Nat.mul_assoc]

namespace Digits

variable {n : Nat} (ds : Digits n)

def bytes : Bytes := ds.chars.map Char.toUInt8

theorem length_bytes : ds.bytes.length = n := by rw [bytes, List.length_map, ds.length_eq]

theorem isDigitByte_of_mem {b : UInt8} (h : b ∈ ds.bytes) : isDigitByte b = true := by
  obtain ⟨c, hc, rfl⟩ := List.mem_map.1 h
  exact isDigitByte_toUInt8 (ds.isDigit c hc)

theorem value_lt : ds.value < 10 ^ n := by
  simpa [value, ds.length_eq] using ofDigitChars_lt ds.isDigit 0

theorem foldl_bytes :
    ds.bytes.foldl (fun n b => 10 * n + (b.toNat - 48)) 0 = ds.value := by
  rw [bytes, List.foldl_map]
  refine List.foldl_ext _ _ _ fun v c hc => ?_
  rw [toNat_toUInt8_of_digit (ds.isDigit c hc)]
  rfl

theorem readDigits_append (rest : Bytes) :
    readDigits n (ds.bytes ++ rest) = some (ds.value, rest) := by
  have htake : (ds.bytes ++ rest).take n = ds.bytes := List.take_left' ds.length_bytes
  have hdrop : (ds.bytes ++ rest).drop n = rest := List.drop_left' ds.length_bytes
  have hall : ds.bytes.all isDigitByte = true :=
    List.all_eq_true.2 fun b hb => ds.isDigitByte_of_mem hb
  simp [readDigits, htake, hdrop, hall, ds.length_bytes, ds.foldl_bytes]

theorem bytes_ne_nil (ds : Digits (n + 1)) : ds.bytes ≠ [] :=
  List.ne_nil_of_length_pos (by rw [ds.length_bytes]; omega)

end Digits

/-! ### Fields -/

theorem readDigits_of_all {bs : Bytes} {count : Nat} (hbs : ∀ b ∈ bs, isDigitByte b = true)
    (hcount : count ≤ bs.length) : ∃ v, readDigits count bs = some (v, bs.drop count) := by
  have hall : (bs.take count).all isDigitByte = true :=
    List.all_eq_true.2 fun b hb => hbs b (List.mem_of_mem_take hb)
  have hlength : (bs.take count).length = count := List.length_take_of_le hcount
  exact ⟨_, by simp only [readDigits, hlength, hall, decide_true, Bool.and_self, if_true]; rfl⟩

/-- Digits of a fraction are read or skipped to the last. -/
theorem readFraction_digits {n : Nat} (ds : Digits (n + 1)) (next : UInt8) :
    ∃ micro, readFraction ds.bytes next = some (micro, decide (next ≠ 0)) := by
  obtain ⟨v, hv⟩ := readDigits_of_all (fun b hb => ds.isDigitByte_of_mem hb)
    (Nat.min_le_right 6 ds.bytes.length)
  have hrest : (ds.bytes.drop (min 6 ds.bytes.length)).dropWhile isDigitByte = [] :=
    List.dropWhile_eq_nil_iff.2 fun b hb => ds.isDigitByte_of_mem (List.mem_of_mem_drop hb)
  simp [readFraction, hv, hrest]

section Fields

variable {style : FieldStyle} {sofar : List Nat} {next : UInt8} {fields : Nat} (ds : Digits 2)
  {rest : Bytes}

theorem readFields_end :
    readFields style sofar next (fields + 1) ds.bytes = some (ds.value :: sofar, 0, decide (next ≠ 0)) := by
  have hread := ds.readDigits_append []
  rw [List.append_nil] at hread
  simp [readFields, hread]

theorem readFields_colon (hstyle : style ≠ .compact) (hrest : rest ≠ []) :
    readFields style sofar next (fields + 1) (ds.bytes ++ 58 :: rest) =
      readFields .colons (ds.value :: sofar) next fields rest := by
  obtain ⟨b, rest, rfl⟩ := List.exists_cons_of_ne_nil hrest
  cases style <;> simp [readFields, ds.readDigits_append] at hstyle ⊢

theorem readFields_point (hrest : rest ≠ []) :
    readFields style sofar next (fields + 1) (ds.bytes ++ 46 :: rest) =
      (readFraction rest next).map fun (f, left) => (ds.value :: sofar, f, left) := by
  obtain ⟨b, rest, rfl⟩ := List.exists_cons_of_ne_nil hrest
  cases style <;> simp [readFields, ds.readDigits_append]

end Fields

theorem readFields_second (ds : Digits 2) (fraction : Option (Σ n : Nat, Digits (n + 1)))
    (sofar : List Nat) (next : UInt8) :
    ∃ micro, readFields .colons sofar next 1
      (ds.bytes ++ (fractionChars fraction).map Char.toUInt8) =
        some (ds.value :: sofar, micro, decide (next ≠ 0)) := by
  rcases fraction with _ | ⟨n, fraction⟩
  · exact ⟨0, by simp [fractionChars, readFields_end]⟩
  · obtain ⟨micro, hmicro⟩ := readFraction_digits fraction next
    refine ⟨micro, ?_⟩
    show readFields _ _ _ _ (ds.bytes ++ 46 :: fraction.bytes) = _
    rw [readFields_point ds fraction.bytes_ne_nil, hmicro]
    rfl

def WrittenTime.clockBytes (t : WrittenTime) : Bytes := t.clockChars.map Char.toUInt8

theorem WrittenTime.clockBytes_eq (t : WrittenTime) :
    t.clockBytes = t.hour.bytes ++ 58 :: (t.minute.bytes ++ 58 ::
      (t.second.bytes ++ (fractionChars t.fraction).map Char.toUInt8)) := by
  simp only [clockBytes, clockChars, List.map_append, List.map_cons]
  rfl

/-- A time of day reads as its numbers, and something is left over if a byte follows. -/
theorem readClock_time (t : WrittenTime) (next : UInt8) :
    ∃ micro, readClock t.clockBytes next =
      some ⟨⟨t.hour.value, t.minute.value, t.second.value, micro⟩, decide (next ≠ 0)⟩ := by
  obtain ⟨micro, hmicro⟩ :=
    readFields_second t.second t.fraction [t.minute.value, t.hour.value] next
  refine ⟨micro, ?_⟩
  rw [readClock, t.clockBytes_eq, readFields_colon t.hour (by decide) (by simp),
    readFields_colon t.minute (by decide) (by simp [t.second.bytes_ne_nil]), hmicro]
  rfl

theorem readClock_offset (hour minute : Digits 2) :
    readClock (hour.bytes ++ 58 :: minute.bytes) 0 =
      some ⟨⟨hour.value, minute.value, 0, 0⟩, false⟩ := by
  rw [readClock, readFields_colon hour (by decide) minute.bytes_ne_nil, readFields_end]
  rfl

end Conform
