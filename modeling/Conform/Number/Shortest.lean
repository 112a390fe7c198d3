import Conform.Number.Rounding

/-!
The shortest decimal that reads back as a given binary64 number. For one digit, two digits and so
on, the two neighbours of the value on that decimal grid are tried; the first grid with a hit wins,
and of two hits the nearer one.
-/

namespace Conform

/-- The value `digits * 10 ^ exponent`. -/
structure Decimal where
  digits : Nat
  exponent : Int
deriving DecidableEq, Repr

/-- Drops trailing zeros from the digits, at most `fuel` of them. -/
def Decimal.strip : Nat → Decimal → Decimal
  | 0, d => d
  | fuel + 1, d =>
    if d.digits ≠ 0 && d.digits % 10 = 0 then strip fuel ⟨d.digits / 10, d.exponent + 1⟩ else d

/-- The exponent of the greatest power of ten that is not above `num / den`. -/
def floorLog10 (num den : Nat) : Int :=
  if den ≤ num then (Binary64.digitCount (num / den) : Int) - 1
  else -(Binary64.digitCount ((den + num - 1) / num - 1) : Int)

namespace Binary64

/-- A positive finite number as `significand * 2 ^ unit`, on the grid of its neighbours. -/
structure Scaled where
  significand : Nat
  unit : Int

/-- The scale on which neighbouring numbers are one apart. -/
def scaled (num den : Nat) : Scaled :=
  let unit : Int := max (floorLog2 num den - 52) (-1074)
  ⟨num * 2 ^ (-unit).toNat / (den * 2 ^ unit.toNat), unit⟩

/-- The two grid neighbours of the value with `count` digits, the nearer first, as far as they lie
among the reals that round to the value. `top` is the exponent of the leading digit. -/
def candidates (s : Scaled) (top : Int) (count : Nat) : List Decimal :=
  let exponent := top - (count : Int) + 1
  -- quarters of the unit, so that both half gaps are whole
  let quarter := s.unit - 2
  let real := fun (n : Nat) => n * 2 ^ quarter.toNat * 10 ^ (-exponent).toNat
  let grid := fun (n : Nat) => n * 10 ^ exponent.toNat * 2 ^ (-quarter).toNat
  let value := real (4 * s.significand)
  let narrow := s.significand = 2 ^ (52 : Nat) && -1074 < s.unit
  let low := real (4 * s.significand - (if narrow then 1 else 2))
  let high := real (4 * s.significand + 2)
  let even := s.significand % 2 = 0
  let inside := fun (n : Nat) =>
    let g := grid n
    if even then low ≤ g && g ≤ high else low < g && g < high
  let below := value / grid 1
  let above := below + 1
  let toBelow := value - grid below
  let toAbove := grid above - value
  let order :=
    if toBelow < toAbove || (toBelow = toAbove && below % 2 = 0) then [below, above]
    else [above, below]
  (order.filter fun n => inside n && 0 < n).map fun n => ⟨n, exponent⟩

/-- Tries `count`, `count + 1`, … digits, `fuel` grids in all. -/
def firstHit (s : Scaled) (top : Int) (count : Nat) : Nat → Decimal
  | 0 => ⟨s.significand, 0⟩
  | fuel + 1 =>
    match candidates s top count with
    | d :: _ => d
    | [] => firstHit s top (count + 1) fuel

/-- The shortest decimal of `num / den`, which is a binary64 number above zero. -/
def shortest (num den : Nat) : Decimal :=
  Decimal.strip 20 (firstHit (scaled num den) (floorLog10 num den) 1 17)

end Binary64

end Conform
