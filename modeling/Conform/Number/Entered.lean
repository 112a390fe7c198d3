import Conform.Number.Reading
import Conform.Text.Blank

/-!
Numbers as they are entered by hand: with blanks around them, and with single underscores between
digits.
-/

namespace Conform

/-- The most digits of a whole number that are read. -/
def maxDigits : Nat := 4300

/-- What is said about whole numbers that are too long. -/
def tooManyDigitsText (count : Nat) : String :=
  "Exceeds the limit (4300 digits) for integer string conversion: value has " ++ toString count ++
    " digits; use sys.set_int_max_str_digits() to increase the limit"

/-- Drops the underscores. Each stands between two digits; `after` tells whether a digit comes
before. -/
def joinDigits? (isDigit : Char → Bool) : Bool → List Char → Option (List Char)
  | _, [] => some []
  | after, '_' :: cs =>
    match after, cs with
    | true, c :: _ => if isDigit c then joinDigits? isDigit false cs else none
    | _, _ => none
  | _, c :: cs => (joinDigits? isDigit (isDigit c) cs).map (c :: ·)

inductive NumeralFault where
  | malformed
  | tooManyDigits (count : Nat)
deriving DecidableEq, Repr

/-- A whole number with the digits of a base, of which there are at most sixteen. -/
def enteredInt (base : Nat) (s : String) : Except NumeralFault Int :=
  let isDigit := fun c => (hexValue? c).any (· < base)
  let (negative, body) := spanSign (trim s.toList)
  match joinDigits? isDigit false body with
  | none => .error .malformed
  | some ds =>
    if ds.isEmpty || !ds.all isDigit then .error .malformed
    else if base = 10 && maxDigits < ds.length then .error (.tooManyDigits ds.length)
    else
      let n : Int := ds.foldl (fun n c => base * n + (hexValue? c).getD 0) 0
      .ok (if negative then -n else n)

/-- A number with or without a fraction and an exponent, or one that is not finite. -/
def enteredFloat? (s : String) : Option Binary64 :=
  let isDigit := fun c => (digit? c).isSome
  (joinDigits? isDigit false (trim s.toList)).bind fun cs =>
    let (negative, body) := spanSign cs
    match String.ofList (body.map Char.toLower) with
    | "inf" | "infinity" => some (.infinite negative)
    | "nan" => some .nan
    | _ =>
      if body.head?.any fun c => isDigit c || c = '.' then Binary64.ofText? (String.ofList cs)
      else none

end Conform
