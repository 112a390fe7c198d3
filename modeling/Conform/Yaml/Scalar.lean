import Conform.Json.Reader
import Conform.Value.Display
import Conform.Yaml.Lexeme
import Conform.Yaml.Timestamp

/-!
What scalars stand for: the tag that a plain scalar has by its form, and the value that a tag gives
to a scalar.
-/

namespace Conform.Yaml

/-- The tags of the types that every document may use. -/
def coreTag (name : String) : String := "tag:yaml.org,2002:" ++ name

namespace Scalar

def isDigit (c : Char) : Bool := (digit? c).isSome

def isNumeralChar (c : Char) : Bool := isDigit c || c = '_'

def isBase (base : Nat) (c : Char) : Bool := c = '_' || (hexValue? c).any (· < base)

/-- What follows a number that begins with a digit. -/
def afterNumeral? : List Char → Option (List Char)
  | c :: cs => if isDigit c then some (cs.dropWhile isNumeralChar) else none
  | [] => none

def isExponent (signed : Bool) : List Char → Bool
  | e :: cs =>
    let digits := match cs with
      | c :: ds => if c = '+' || c = '-' then ds else if signed then [] else cs
      | [] => []
    (e = 'e' || e = 'E') && !digits.isEmpty && digits.all isDigit
  | [] => false

/-- Groups of one or two digits below sixty, each after a colon. -/
def isSixties (cs : List Char) : Bool :=
  match cs with
  | ':' :: rest => (rest.splitOn ':').all fun g =>
      match g with
      | [a] => isDigit a
      | [a, b] => isDigit a && isDigit b && a ≤ '5'
      | _ => false
  | _ => false

def isFloat (v : Version) (cs : List Char) : Bool :=
  let (_, body) := spanSign cs
  let decimal := match afterNumeral? body with
    | some ('.' :: rest) =>
      let rest := rest.dropWhile isNumeralChar
      rest.isEmpty || isExponent false rest
    | some rest =>
      let (groups, fraction) := rest.span (· ≠ '.')
      isExponent false rest || (v.isOld && isSixties groups &&
        fraction.head? = some '.' && fraction.tail.all isNumeralChar)
    | none => false
  let fractional := match if v.isOld then cs else body with
    | '.' :: rest =>
      let after := rest.dropWhile isNumeralChar
      rest.head?.any isNumeralChar && (after.isEmpty || isExponent true after)
    | _ => false
  decimal || fractional || [".inf", ".Inf", ".INF"].contains (String.ofList body) ||
    [".nan", ".NaN", ".NAN"].contains (String.ofList cs)

def isInt (v : Version) (cs : List Char) : Bool :=
  let (_, body) := spanSign cs
  let inBase := fun (base : Nat) (ds : List Char) => !ds.isEmpty && ds.all (isBase base)
  let based := match body with
    | '0' :: 'b' :: ds => inBase 2 ds
    | '0' :: 'x' :: ds => inBase 16 ds
    | '0' :: 'o' :: ds => !v.isOld && inBase 8 ds
    | _ => false
  let decimal :=
    if v.isOld then
      inBase 8 body || match body with
        | c :: rest =>
          let after := rest.dropWhile isNumeralChar
          '1' ≤ c && c ≤ '9' && (after.isEmpty || isSixties after)
        | [] => false
    else !body.isEmpty && body.all isNumeralChar
  cs.head?.any (fun c => isDigit c || c = '+' || c = '-') && (based || decimal)

def truthWords (v : Version) : List String :=
  ["true", "True", "TRUE", "false", "False", "FALSE"] ++
    (if v.isOld then ["y", "Y", "yes", "Yes", "YES", "n", "N", "no", "No", "NO", "on", "On", "ON",
      "off", "Off", "OFF"] else [])

def isTimestamp (cs : List Char) : Bool :=
  (Stamp.ofText? cs).any fun s => s.isFull || s.time.isSome

/-- The tag of a plain scalar. -/
def plainTag (v : Version) (s : String) : Except Failure String :=
  let cs := s.toList
  if !v.isOld && v ≠ {} then .error (.unknownVersion v.major v.minor)
  else .ok <| coreTag <|
    if (truthWords v).contains s then "bool"
    else if isFloat v cs then "float"
    else if isInt v cs then "int"
    else if s = "<<" then "merge"
    else if ["", "~", "null", "Null", "NULL"].contains s then "null"
    else if isTimestamp cs then "timestamp"
    else if s = "=" then "value"
    else "str"

def readInt (base : Nat) (cs : List Char) : Except Failure Int :=
  let s := String.ofList cs
  (enteredInt base s).mapError fun
    | .malformed => .badInteger base s
    | .tooManyDigits n => .tooManyDigits n

/-- A number in sixties: the parts at colons, the last of them counted once. -/
def sixties (parts : List Int) : Int := parts.foldl (fun n part => 60 * n + part) 0

def intValue (v : Version) (cs : List Char) : Except Failure Int :=
  match cs.filter (· ≠ '_') with
  | [] => .error .emptyNumber
  | cs =>
    let (negative, body) := spanSign cs
    let size := match body with
      | '0' :: 'b' :: ds => readInt 2 ds
      | '0' :: 'x' :: ds => readInt 16 ds
      | '0' :: 'o' :: ds => readInt 8 ds
      | [] => if v.isOld then .error .emptyNumber else readInt 10 []
      | c :: _ =>
        if !v.isOld || body = ['0'] then readInt 10 body
        else if c = '0' then readInt 8 body
        else if body.contains ':' then ((body.splitOn ':').mapM (readInt 10)).map sixties
        else readInt 10 body
    size.map fun n => if negative then -n else n

def readFloat (cs : List Char) : Except Failure Binary64 :=
  let s := String.ofList cs
  match enteredFloat? s with
  | some x => .ok x
  | none => .error (.badFloat s)

/-- A number in sixties with a fraction. -/
def floatSixties (body : List Char) : Except Failure Binary64 := do
  let parts := body.splitOn ':'
  for part in parts do
    let _ ← readFloat part
  let wholes ← parts.mapM fun part => readInt 10 (part.takeWhile (· ≠ '.'))
  let places := (parts.getLastD []).dropWhile (· ≠ '.') |>.drop 1
  let n := (sixties wholes).toNat * 10 ^ places.length + digitsValue places
  pure (.ofDecimal false n (-(places.length : Int)))

def floatValue (v : Version) (cs : List Char) : Except Failure Binary64 :=
  match (cs.filter (· ≠ '_')).map Char.toLower with
  | [] => .error .emptyNumber
  | cs =>
    let (negative, body) := spanSign cs
    let size : Except Failure Binary64 := match String.ofList body with
      | ".inf" => .ok (.infinite false)
      | ".nan" => .ok .nan
      | _ => if v ≠ {} && body.contains ':' then floatSixties body else readFloat body
    size.map fun x => if negative then x.negate else x

def boolValue (s : String) : Except Failure Bool :=
  let word := String.ofList (s.toList.map Char.toLower)
  if ["yes", "y", "true", "on"].contains word then .ok true
  else if ["no", "n", "false", "off"].contains word then .ok false
  else .error (.badTruth word)

/-- The value of a character of base 64. -/
def sextet? (c : Char) : Option Nat :=
  if 'A' ≤ c && c ≤ 'Z' then some (c.toNat - 65)
  else if 'a' ≤ c && c ≤ 'z' then some (c.toNat - 71)
  else if '0' ≤ c && c ≤ '9' then some (c.toNat + 4)
  else if c = '+' then some 62
  else if c = '/' then some 63
  else none

/-- Bytes written in base 64. Padding ends them, and other characters count for nothing. `count`
sextets of the current group have been read, with the value `bits`, and `pads` equals signs in a row
after them. -/
def sextets (count bits pads : Nat) : List Char → Option (List UInt8)
  | [] => if count = 0 then some [] else none
  | '=' :: cs =>
    if 2 ≤ count && 4 ≤ count + pads + 1 then some [] else sextets count bits (pads + 1) cs
  | c :: cs =>
    match sextet? c with
    | none => sextets count bits pads cs
    | some n =>
      match count with
      | 0 => sextets 1 n 0 cs
      | 1 => (sextets 2 (n % 16) 0 cs).map (UInt8.ofNat (bits * 4 + n / 16) :: ·)
      | 2 => (sextets 3 (n % 4) 0 cs).map (UInt8.ofNat (bits * 16 + n / 4) :: ·)
      | _ => (sextets 0 0 0 cs).map (UInt8.ofNat (bits * 64 + n) :: ·)

/-- The value that a scalar has under the tag of a core type. -/
def value? (v : Version) (name : String) (text : ScalarText) : Option (Except Failure Value) :=
  let whole := Json.textOf text
  let cs := whole.plain.toList
  match name with
  | "null" => some (.ok .null)
  | "str" => some (.ok whole)
  | "bool" => some ((boolValue whole.plain).map .bool)
  | "int" => some ((intValue v cs).map .int)
  | "float" => some ((floatValue v cs).map .float)
  | "timestamp" =>
    some <| match Stamp.ofText? cs with
      | some s => s.value
      | none => .error .content
  | "binary" =>
    some <| match if cs.all (·.toNat < 128) then sextets 0 0 0 cs else none with
      | some bs => .ok (.bytes bs)
      | none => .error .content
  | _ => none

end Scalar

end Conform.Yaml
