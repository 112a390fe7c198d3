import Conform.Guard.Verdict
import Conform.Number.Rounding
import Mathlib.Algebra.Order.Ring.Cast
import Mathlib.Algebra.Order.Ring.Rat
import Mathlib.Data.Rat.Lemmas

/-! Numbers. What a number is worth is a rational, and by it the guards for numbers tell one value from
another. They ask step by step, and some of the steps fail: a whole number can be too large for a float,
and only numbers can be held against zero. The order in which the guards ask keeps them from all
these. -/

namespace Conform

theorem Dyadic.isWhole_iff (q : Dyadic) : Dyadic.isWhole q = true ↔ ∃ n : Int, q.toRat = n := by
  have hden : Dyadic.isWhole q = true ↔ q.toRat.den = 1 := by
    match q with
    | .zero => exact iff_of_true rfl rfl
    | .ofOdd n (.negSucc k) _ =>
      refine iff_of_true (decide_eq_true (Int.negSucc_lt_zero k).le) ?_
      exact Rat.den_intCast (n * ((2 ^ (k + 1) : Nat) : Int))
    | .ofOdd n (.ofNat k) _ =>
      show decide ((k : Int) ≤ 0) = true ↔ 2 ^ k = 1
      rw [decide_eq_true_iff, Nat.pow_eq_one]
      omega
  rw [hden, Rat.den_eq_one_iff]
  constructor
  · exact fun h => ⟨q.toRat.num, h.symm⟩
  · rintro ⟨n, h⟩
    rw [h, Rat.num_intCast]

theorem toRat_ofInt (n : Int) : (Dyadic.ofInt n).toRat = n := Dyadic.toRat_intCast n

theorem toRat_pos_iff {q : Dyadic} : 0 < q.toRat ↔ 0 < q := by
  rw [← Dyadic.toRat_lt_toRat_iff, Dyadic.toRat_zero]

theorem toRat_neg_iff {q : Dyadic} : q.toRat < 0 ↔ q < 0 := by
  rw [← Dyadic.toRat_lt_toRat_iff, Dyadic.toRat_zero]

/-- The rational number that a value is. Neither a truth value is one nor a float that is not finite. -/
inductive Value.Amounts : Value → Rat → Prop
  | int (n : Int) : Value.Amounts (.int n) n
  | namedInt (type name : String) (n : Int) (place : Nat) (payloads : List Int) :
      Value.Amounts (.namedInt type name n place payloads) n
  | finite (q : Dyadic) : Value.Amounts (.float (.finite q)) q.toRat
  | negativeZero : Value.Amounts (.float .negativeZero) 0

namespace Guard

inductive Side where
  | above
  | below
deriving DecidableEq, Repr

def Side.has {α : Type} [OfNat α 0] [LT α] [DecidableLT α] : Side → α → Bool
  | above, x => 0 < x
  | below, x => x < 0

def Side.sign : Side → String
  | above => ">"
  | below => "<"

/-- The binary64 number nearest to a number. Nothing else has one, and neither has a whole number beyond
the range. -/
def toBinary64 : Value → Except Fault Binary64
  | .bool b => .ok (.finite (if b then 1 else 0))
  | .int n | .namedInt _ _ n .. =>
    if Binary64.exceedsRange n then
      .error (.ordinary (.other "OverflowError") "int too large to convert to float")
    else .ok (.ofRatio (n < 0) n.natAbs 1)
  | .float x => .ok x
  | v => .error (.ordinary .type ("must be real number, not " ++ v.typeName))

def compareZero (s : Side) : Value → Except Fault Bool
  | .bool b => .ok (s.has (if b then 1 else 0 : Int))
  | .int n | .namedInt _ _ n .. => .ok (s.has n)
  | .float (.infinite negative) => .ok (s.has (if negative then -1 else 1 : Int))
  | .float x => .ok (x.value?.any s.has)
  | v => .error (.ordinary .type ("'" ++ s.sign ++ "' not supported between instances of '" ++
      v.qualifiedTypeName ++ "' and 'int'"))

/-- Whole numbers count as they are, and of anything else only floats are asked whether they are
finite. -/
def askNumber (v : Value) : Except Fault Bool :=
  match v with
  | .int _ | .namedInt .. => .ok true
  | .float _ => (toBinary64 v).map Binary64.isFinite
  | _ => .ok false

def askInteger (v : Value) : Except Fault Bool := do
  if v.int?.isSome then pure true
  else if ← askNumber v then pure ((← toBinary64 v).value?.any Dyadic.isWhole)
  else pure false

def askSide (s : Side) (v : Value) : Except Fault Bool := do
  if ← askNumber v then compareZero s v else pure false

def numericGuards : List Primitive := [.bigint, .integer, .number, .positiveNumber, .negativeNumber]

def Primitive.ask : Primitive → Value → Except Fault Bool
  | bigint, v => .ok v.int?.isSome
  | integer, v => askInteger v
  | number, v => askNumber v
  | positiveNumber, v => askSide .above v
  | negativeNumber, v => askSide .below v
  | p, v => .ok (p.accepts v)

def JustOne (a b c : Prop) : Prop := a ∧ ¬ b ∧ ¬ c ∨ ¬ a ∧ b ∧ ¬ c ∨ ¬ a ∧ ¬ b ∧ c

variable {v : Value}

theorem amounts_iff {r : Rat} :
    v.Amounts r ↔ ∃ q, Primitive.realValue? v = some q ∧ q.toRat = r := by
  constructor
  · rintro (n | ⟨_, _, n, _⟩ | q | _)
    · exact ⟨_, rfl, toRat_ofInt n⟩
    · exact ⟨_, rfl, toRat_ofInt n⟩
    · exact ⟨q, rfl, rfl⟩
    · exact ⟨0, rfl, rfl⟩
  · rintro ⟨q, hq, rfl⟩
    cases v with
    | int n | namedInt _ _ n _ _ =>
      cases hq
      rw [toRat_ofInt]
      constructor
    | float x =>
      cases x <;> cases hq
      · exact .finite q
      · exact .negativeZero
    | _ => cases hq

theorem amounts_unique {p q : Rat} (hp : v.Amounts p) (hq : v.Amounts q) : p = q := by
  obtain ⟨x, hx, rfl⟩ := amounts_iff.1 hp
  obtain ⟨y, hy, rfl⟩ := amounts_iff.1 hq
  rw [Option.some.inj (hx.symm.trans hy)]

theorem any_realValue_iff {P : Dyadic → Bool} {Q : Rat → Prop} (h : ∀ q, P q = true ↔ Q q.toRat) :
    (Primitive.realValue? v).any P = true ↔ ∃ r, v.Amounts r ∧ Q r := by
  simp only [Option.any_eq_true, amounts_iff, h]
  constructor
  · rintro ⟨q, hq, hQ⟩
    exact ⟨_, ⟨q, hq, rfl⟩, hQ⟩
  · rintro ⟨_, ⟨q, hq, rfl⟩, hQ⟩
    exact ⟨q, hq, hQ⟩

theorem accepts_number_iff : Primitive.number.accepts v = true ↔ ∃ r, v.Amounts r := by
  have hvalue : Primitive.number.accepts v = (Primitive.realValue? v).any fun _ => true := by
    cases v with
    | float x => cases x <;> rfl
    | _ => rfl
  rw [hvalue, any_realValue_iff (Q := fun _ => True) (by simp)]
  simp

theorem accepts_integer_iff : Primitive.integer.accepts v = true ↔ ∃ n : Int, v.Amounts n := by
  have hvalue : Primitive.integer.accepts v = (Primitive.realValue? v).any Dyadic.isWhole := by
    have hwhole (n : Int) : Dyadic.isWhole (Dyadic.ofInt n) = true :=
      (Dyadic.isWhole_iff _).2 ⟨n, toRat_ofInt n⟩
    cases v with
    | int n | namedInt _ _ n _ _ => exact (hwhole n).symm
    | float x => cases x <;> rfl
    | _ => rfl
  rw [hvalue, any_realValue_iff (Q := fun r => ∃ n : Int, r = n) Dyadic.isWhole_iff]
  constructor
  · rintro ⟨_, hr, n, rfl⟩
    exact ⟨n, hr⟩
  · rintro ⟨n, hn⟩
    exact ⟨n, hn, n, rfl⟩

theorem accepts_positiveNumber_iff :
    Primitive.positiveNumber.accepts v = true ↔ ∃ r, v.Amounts r ∧ 0 < r :=
  any_realValue_iff fun _ => decide_eq_true_iff.trans toRat_pos_iff.symm

theorem accepts_negativeNumber_iff :
    Primitive.negativeNumber.accepts v = true ↔ ∃ r, v.Amounts r ∧ r < 0 :=
  any_realValue_iff fun _ => decide_eq_true_iff.trans toRat_neg_iff.symm

/-- A number is on one side of zero or is zero. -/
theorem accepts_number_iff_justOne : Primitive.number.accepts v = true ↔
    JustOne (Primitive.positiveNumber.accepts v = true) (Primitive.negativeNumber.accepts v = true)
      (Primitive.number.accepts v = true ∧ v.Amounts 0) := by
  rw [accepts_number_iff, accepts_positiveNumber_iff, accepts_negativeNumber_iff]
  constructor
  · rintro ⟨r, hr⟩
    -- what is said of some amount is said of this one
    have hone (Q : Rat → Prop) : (∃ x, v.Amounts x ∧ Q x) ↔ Q r :=
      ⟨fun ⟨x, hx, hQ⟩ => amounts_unique hx hr ▸ hQ, fun hQ => ⟨r, hr, hQ⟩⟩
    have hzero : (∃ x, v.Amounts x) ∧ v.Amounts 0 ↔ r = 0 := by
      constructor
      · exact fun h => amounts_unique hr h.2
      · rintro rfl
        exact ⟨⟨0, hr⟩, hr⟩
    rw [hone, hone, hzero]
    rcases lt_trichotomy r 0 with hlt | heq | hgt
    · exact .inr (.inl ⟨hlt.not_gt, hlt, hlt.ne⟩)
    · exact .inr (.inr ⟨heq.not_gt, heq.not_lt, heq⟩)
    · exact .inl ⟨hgt, hgt.not_gt, hgt.ne'⟩
  · rintro (⟨⟨r, hr, -⟩, -⟩ | ⟨-, ⟨r, hr, -⟩, -⟩ | ⟨-, -, h, -⟩)
    · exact ⟨r, hr⟩
    · exact ⟨r, hr⟩
    · exact h

section Ask

variable (v)

theorem has_ofInt (s : Side) (n : Int) : s.has (Dyadic.ofInt n) = s.has n := by
  have hpos : 0 < Dyadic.ofInt n ↔ 0 < n := by rw [← toRat_pos_iff, toRat_ofInt, Int.cast_pos]
  have hneg : Dyadic.ofInt n < 0 ↔ n < 0 := by rw [← toRat_neg_iff, toRat_ofInt, Int.cast_lt_zero]
  cases s
  · exact decide_eq_decide.2 hpos
  · exact decide_eq_decide.2 hneg

theorem askNumber_eq : askNumber v = .ok (Primitive.number.accepts v) := by
  cases v <;> rfl

theorem askInteger_eq : askInteger v = .ok (Primitive.integer.accepts v) := by
  cases v with
  | float x => cases x <;> rfl
  | _ => rfl

theorem askSide_eq (s : Side) : askSide s v = .ok ((Primitive.realValue? v).any s.has) := by
  cases v with
  | int n | namedInt _ _ n _ _ => exact congrArg Except.ok (has_ofInt s n).symm
  | float x => cases x <;> rfl
  | _ => rfl

/-- No step that a numeric guard takes fails. -/
theorem ask_eq {p : Primitive} (hp : p ∈ numericGuards) : p.ask v = .ok (p.accepts v) := by
  simp only [numericGuards, List.mem_cons, List.not_mem_nil, or_false] at hp
  rcases hp with rfl | rfl | rfl | rfl | rfl
  · rfl
  · exact askInteger_eq v
  · exact askNumber_eq v
  · exact askSide_eq v .above
  · exact askSide_eq v .below

/-- A guard that takes the faults of the steps for rejections is the guard of the table. -/
theorem failClosed_ask {p : Primitive} (hp : p ∈ numericGuards) :
    failClosed (.text p.name) (fun w => .ofExcept (p.ask w)) v = (Check.primitive p).test v := by
  unfold failClosed
  dsimp only
  rw [ask_eq v hp]
  rfl

end Ask

/-- On every value the numeric guards agree: whole numbers are integers, integers are just the numbers
that are worth a whole number, and a number is positive, negative or zero, and only one of these. None of
their steps fails, so what a guard says is never a fault that it keeps quiet. -/
theorem numeric_verdicts (v : Value) :
    (Primitive.bigint.accepts v = true → Primitive.integer.accepts v = true) ∧
    (Primitive.integer.accepts v = true → Primitive.number.accepts v = true) ∧
    (Primitive.integer.accepts v = true ↔
      Primitive.number.accepts v = true ∧ ∃ n : Int, v.Amounts n) ∧
    (Primitive.number.accepts v = true ↔
      JustOne (Primitive.positiveNumber.accepts v = true) (Primitive.negativeNumber.accepts v = true)
        (Primitive.number.accepts v = true ∧ v.Amounts 0)) ∧
    ∀ p ∈ numericGuards, p.ask v = .ok (p.accepts v) ∧
      failClosed (.text p.name) (fun w => .ofExcept (p.ask w)) v = (Check.primitive p).test v := by
  have hnumber : (∃ n : Int, v.Amounts n) → Primitive.number.accepts v = true :=
    fun ⟨n, hn⟩ => accepts_number_iff.2 ⟨n, hn⟩
  refine ⟨fun h => ?_, fun h => hnumber (accepts_integer_iff.1 h), ?_, accepts_number_iff_justOne,
    fun p hp => ⟨ask_eq v hp, failClosed_ask v hp⟩⟩
  · exact Bool.or_eq_true_iff.2 (.inl h)
  · rw [accepts_integer_iff]
    exact ⟨fun h => ⟨hnumber h, h⟩, And.right⟩

theorem toBinary64_of_exceedsRange {n : Int} (h : Binary64.exceedsRange n = true) :
    toBinary64 (.int n) =
      .error (.ordinary (.other "OverflowError") "int too large to convert to float") :=
  if_pos h

/-- A whole number that no float is near to is accepted, and not by a fault that is kept quiet. -/
theorem numeric_verdicts_beyond_range :
    toBinary64 (.int (16 ^ 256)) =
        .error (.ordinary (.other "OverflowError") "int too large to convert to float") ∧
      Primitive.bigint.accepts (.int (16 ^ 256)) = true ∧
      Primitive.number.accepts (.int (16 ^ 256)) = true ∧
      .integer ∈ numericGuards ∧ Primitive.integer.ask (.int (16 ^ 256)) = .ok true := by
  have hbeyond : Binary64.exceedsRange (16 ^ 256) = true := by decide +kernel
  have hmem : .integer ∈ numericGuards := by simp [numericGuards]
  obtain ⟨hinteger, hnumber, -, -, hask⟩ := numeric_verdicts (.int (16 ^ 256))
  have hbigint : Primitive.bigint.accepts (.int (16 ^ 256)) = true := rfl
  refine ⟨toBinary64_of_exceedsRange hbeyond, hbigint, hnumber (hinteger hbigint), hmem, ?_⟩
  rw [(hask _ hmem).1, hinteger hbigint]

end Guard

end Conform
