import Conform.Number.Binary64

/-!
The nearest binary64 number of a quotient or of a decimal; of two equally near ones the even one.
-/

namespace Conform

/-- The whole number nearest to `num / den`; a half goes to the even neighbour. -/
def roundHalfEven (num den : Nat) : Nat :=
  let q := num / den
  let twice := 2 * (num % den)
  if twice < den then q
  else if den < twice then q + 1
  else q + q % 2

/-- The exponent of the greatest power of two that is not above `num / den`. -/
def floorLog2 (num den : Nat) : Int :=
  let guess : Int := (Nat.log2 num : Int) - Nat.log2 den
  let fits := fun (e : Int) => den * 2 ^ e.toNat ≤ num * 2 ^ (-e).toNat
  if fits guess then guess else guess - 1

namespace Binary64

def zero (negative : Bool) : Binary64 := if negative then negativeZero else finite 0

/-- The binary64 number nearest to `num / den`, with a sign. -/
def ofRatio (negative : Bool) (num den : Nat) : Binary64 :=
  if num = 0 then zero negative
  else
    let unit : Int := max (floorLog2 num den - 52) (-1074)
    let m := roundHalfEven (num * 2 ^ (-unit).toNat) (den * 2 ^ unit.toNat)
    if m = 0 then zero negative
    else if 1024 ≤ (Nat.log2 m : Int) + unit then infinite negative
    else finite (Dyadic.ofIntWithPrec (if negative then -(m : Int) else m) (-unit))

/-- The number of decimal digits; zero has none. -/
def digitCount (n : Nat) : Nat := if n = 0 then 0 else n.repr.length

/-- The binary64 number nearest to `digits * 10 ^ exponent`. Magnitudes far outside the range are
decided without computing the power. -/
def ofDecimal (negative : Bool) (digits : Nat) (exponent : Int) : Binary64 :=
  let magnitude := (digitCount digits : Int) + exponent
  if digits = 0 || magnitude < -330 then zero negative
  else if 330 < magnitude then infinite negative
  else ofRatio negative (digits * 10 ^ exponent.toNat) (10 ^ (-exponent).toNat)

/-- Whether a whole number is too large for any finite binary64 number. -/
def exceedsRange (n : Int) : Bool :=
  match ofRatio (n < 0) n.natAbs 1 with
  | infinite _ => true
  | _ => false

end Binary64

end Conform
