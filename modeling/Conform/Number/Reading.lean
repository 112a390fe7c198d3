import Conform.Number.Rounding

/-!
Reading decimal numerals.
-/

namespace Conform

def digit? (c : Char) : Option Nat :=
  if '0' ≤ c && c ≤ '9' then some (c.toNat - '0'.toNat) else none

/-- The value of a hexadecimal digit. -/
def hexValue? (c : Char) : Option Nat :=
  if '0' ≤ c && c ≤ '9' then some (c.toNat - 48)
  else if 'a' ≤ c && c ≤ 'f' then some (c.toNat - 87)
  else if 'A' ≤ c && c ≤ 'F' then some (c.toNat - 55)
  else none

/-- The value of a run of digits, most significant first. -/
def digitsValue (cs : List Char) : Nat := cs.foldl (fun n c => 10 * n + (c.toNat - '0'.toNat)) 0

/-- Splits off the longest run of digits. -/
def spanDigits (cs : List Char) : List Char × List Char :=
  cs.span fun c => (digit? c).isSome

/-- A sign, if there is one, and the rest. -/
def spanSign : List Char → Bool × List Char
  | '-' :: rest => (true, rest)
  | '+' :: rest => (false, rest)
  | cs => (false, cs)

/-- Reads `12`, `-0.5`, `1e+16`, `inf` and `nan`. -/
def Binary64.ofText? (s : String) : Option Binary64 :=
  let (negative, cs) := spanSign s.toList
  match String.ofList cs with
  | "inf" => some (.infinite negative)
  | "nan" => some .nan
  | _ =>
    let (whole, rest) := spanDigits cs
    let (fraction, rest) := match rest with
      | '.' :: r => spanDigits r
      | r => ([], r)
    let exponent? : Option Int := match rest with
      | [] => some 0
      | e :: r =>
        if e = 'e' || e = 'E' then
          let (down, r) := spanSign r
          match spanDigits r with
          | ([], _) | (_, _ :: _) => none
          | (ds, []) => some (if down then -(digitsValue ds : Int) else digitsValue ds)
        else none
    match exponent? with
    | some e =>
      if whole.isEmpty && fraction.isEmpty then none
      else some (ofDecimal negative (digitsValue (whole ++ fraction)) (e - fraction.length))
    | none => none

end Conform
