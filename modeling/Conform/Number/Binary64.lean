/-!
Binary floating-point numbers of 64 bits, taken as exact values: a finite one is a dyadic rational.
Comparison is exact, also against whole numbers of any size.
-/

namespace Conform

/-! A power of a number is the one of the core library, also where the powers of a monoid are in
scope. -/

attribute [instance (2000)] instPowNat

inductive Binary64 where
  | finite (value : Dyadic)
  | negativeZero
  | infinite (negative : Bool)
  | nan
deriving DecidableEq

namespace Binary64

/-- The value of a finite number. -/
def value? : Binary64 → Option Dyadic
  | finite q => some q
  | negativeZero => some 0
  | infinite _ | nan => none

def isNan : Binary64 → Bool
  | nan => true
  | _ => false

def isFinite (x : Binary64) : Bool := x.value?.isSome

/-- Numeric equality: both zeros are equal, and nothing equals a NaN. -/
def equal : Binary64 → Binary64 → Bool
  | infinite a, infinite b => a == b
  | x, y =>
    match x.value?, y.value? with
    | some p, some q => p == q
    | _, _ => false

def negate : Binary64 → Binary64
  | finite q => if q = 0 then negativeZero else finite (-q)
  | negativeZero => finite 0
  | infinite negative => infinite !negative
  | nan => nan

/-- Everything but the zeros counts as true. -/
def truthy (x : Binary64) : Bool := x.value? ≠ some 0

end Binary64

/-- A dyadic rational that is a whole number. -/
def Dyadic.isWhole : Dyadic → Bool
  | .zero => true
  | .ofOdd _ k _ => k ≤ 0

/-- The greatest whole number that is not above the value. -/
def Dyadic.floorInt : Dyadic → Int
  | .zero => 0
  | .ofOdd n k _ => if k ≤ 0 then n * 2 ^ (-k).toNat else Int.fdiv n (2 ^ k.toNat)

end Conform
