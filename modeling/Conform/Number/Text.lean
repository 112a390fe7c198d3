import Conform.Number.Shortest
import Conform.Text.Layout

/-!
How a binary64 number is written: its shortest decimal, positionally for moderate exponents and
with an exponent otherwise.
-/

namespace Conform

/-- The decisions of a decimal format. -/
structure FloatStyle where
  /-- The least exponent of the leading digit that is written positionally. -/
  positionalFrom : Int
  /-- The least exponent above that range. -/
  positionalBelow : Int
  /-- The least number of digits of a written exponent. -/
  exponentDigits : Nat
  infinity : String
  nan : String

/-- Positional from 0.0001 up to, and not including, ten to the sixteenth. -/
def plainFloat : FloatStyle := ⟨-4, 16, 2, "inf", "nan"⟩

/-- The same, with the special values of extended JSON. -/
def jsonFloat : FloatStyle := { plainFloat with infinity := "Infinity", nan := "NaN" }

/-- Writes a positive decimal. -/
def FloatStyle.decimal (style : FloatStyle) (d : Decimal) : String :=
  let digits := d.digits.repr.toList
  let top : Int := digits.length + d.exponent - 1
  if style.positionalFrom ≤ top && top < style.positionalBelow then
    if 0 ≤ d.exponent then String.ofList (digits ++ List.replicate d.exponent.toNat '0') ++ ".0"
    else if 0 ≤ top then
      let whole := (top + 1).toNat
      String.ofList (digits.take whole ++ '.' :: digits.drop whole)
    else "0." ++ String.ofList (List.replicate (-top - 1).toNat '0' ++ digits)
  else
    let mantissa := match digits with
      | [] => ""
      | [c] => String.ofList [c]
      | c :: rest => String.ofList (c :: '.' :: rest)
    mantissa ++ (if top < 0 then "e-" else "e+") ++
      padZeros style.exponentDigits top.natAbs.repr

def FloatStyle.text (style : FloatStyle) : Binary64 → String
  | .nan => style.nan
  | .infinite negative => (if negative then "-" else "") ++ style.infinity
  | .negativeZero => "-0.0"
  | .finite .zero => "0.0"
  | .finite (.ofOdd n k _) =>
    let d := Binary64.shortest (n.natAbs * 2 ^ (-k).toNat) (2 ^ k.toNat)
    (if n < 0 then "-" else "") ++ style.decimal d

end Conform
