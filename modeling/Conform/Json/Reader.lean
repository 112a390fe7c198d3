import Conform.Number.Entered
import Conform.Value.Equality

/-!
Reading JSON text, with `NaN` and the infinities as numbers. An error names its cause and the place
where reading stopped.
-/

namespace Conform.Json

inductive Cause where
  | byteOrderMark
  | expectingValue
  | expectingName
  | expectingColon
  | expectingComma
  | extraData
  | controlCharacter
  | unterminatedString
  | badEscape
  | badUnicodeEscape
  /-- A whole number of more digits than are read. -/
  | tooManyDigits (count : Nat)
  /-- An array or an object inside more others than are read. -/
  | tooDeep (kind : String)
deriving DecidableEq, Repr

def Cause.message : Cause → String
  | .byteOrderMark => "Unexpected UTF-8 BOM (decode using utf-8-sig)"
  | .expectingValue => "Expecting value"
  | .expectingName => "Expecting property name enclosed in double quotes"
  | .expectingColon => "Expecting ':' delimiter"
  | .expectingComma => "Expecting ',' delimiter"
  | .extraData => "Extra data"
  | .controlCharacter => "Invalid control character at"
  | .unterminatedString => "Unterminated string starting at"
  | .badEscape => "Invalid \\escape"
  | .badUnicodeEscape => "Invalid \\uXXXX escape"
  | .tooManyDigits count => tooManyDigitsText count
  | .tooDeep kind =>
    "maximum recursion depth exceeded while decoding a JSON " ++ kind ++ " from a unicode string"

/-- An error, with the number of characters from its place to the end. -/
structure Failure where
  cause : Cause
  remaining : Nat
deriving DecidableEq, Repr

/-- What was read, and the characters after it. -/
abbrev Step (α : Type) := Except Failure (α × List Char)

def failAt {α : Type} (cause : Cause) (cs : List Char) : Except Failure α :=
  .error ⟨cause, cs.length⟩

def isSpace (c : Char) : Bool := c = ' ' || c = '\t' || c = '\n' || c = '\r'

def skipSpace (cs : List Char) : List Char := cs.dropWhile isSpace

/-- The number that four hexadecimal digits spell. -/
def hexFour? (cs : List Char) : Option Nat :=
  match cs with
  | a :: b :: c :: d :: _ => do
    let a ← hexValue? a
    let b ← hexValue? b
    let c ← hexValue? c
    let d ← hexValue? d
    pure (((a * 16 + b) * 16 + c) * 16 + d)
  | _ => none

def isHighSurrogate (n : Nat) : Bool := 0xD800 ≤ n && n < 0xDC00

def isLowSurrogate (n : Nat) : Bool := 0xDC00 ≤ n && n < 0xE000

/-- The character of a code unit, if it is not the half of one. -/
def unitChar? (n : Nat) : Option Char :=
  if isHighSurrogate n || isLowSurrogate n then none else some (Char.ofNat n)

/-- The text that characters make, of which lone halves are none. -/
def textOf (cs : List (Option Char)) : Value :=
  let s := String.ofList (cs.map (·.getD '\uFFFD'))
  if cs.all Option.isSome then .text s else .brokenText s

/-- The low half that follows a high surrogate as an escape of its own, if it does. An escape is
only looked for if something is left after it. -/
def lowHalf (cs : List Char) : Except Failure (Option Nat) :=
  match cs with
  | '\\' :: 'u' :: rest =>
    if rest.length ≤ 4 then .ok none
    else match hexFour? rest with
      | none => failAt .badUnicodeEscape ('u' :: rest)
      | some n => .ok (if isLowSurrogate n then some n else none)
  | _ => .ok none

/-- The character of the escape after a backslash, and how many characters it takes after the
backslash. -/
def escape (cs : List Char) : Except Failure (Option Char × Nat) :=
  match cs with
  | '"' :: _ => .ok (some '"', 1)
  | '\\' :: _ => .ok (some '\\', 1)
  | '/' :: _ => .ok (some '/', 1)
  | 'b' :: _ => .ok (some (Char.ofNat 8), 1)
  | 'f' :: _ => .ok (some (Char.ofNat 12), 1)
  | 'n' :: _ => .ok (some '\n', 1)
  | 'r' :: _ => .ok (some '\r', 1)
  | 't' :: _ => .ok (some '\t', 1)
  | 'u' :: rest =>
    if rest.length ≤ 4 then failAt .badUnicodeEscape cs
    else match hexFour? rest with
      | none => failAt .badUnicodeEscape cs
      | some n =>
        if isHighSurrogate n then
          match lowHalf (rest.drop 4) with
          | .error e => .error e
          | .ok (some low) =>
            .ok (some (Char.ofNat (0x10000 + (n - 0xD800) * 1024 + (low - 0xDC00))), 11)
          | .ok none => .ok (unitChar? n, 5)
        else .ok (unitChar? n, 5)
  | _ => .error ⟨.badEscape, cs.length + 1⟩

/-- Reads the rest of a string whose opening quote stands `start` characters before the end.
`skip` characters belong to an escape that has been read. -/
def stringRest (start : Nat) : Nat → List (Option Char) → List Char → Step Value
  | _, _, [] => .error ⟨.unterminatedString, start⟩
  | skip + 1, sofar, _ :: rest => stringRest start skip sofar rest
  | 0, sofar, '"' :: rest => .ok (textOf sofar.reverse, rest)
  | 0, sofar, '\\' :: rest =>
    if rest.isEmpty then .error ⟨.unterminatedString, start⟩
    else match escape rest with
      | .error e => .error e
      | .ok (c, n) => stringRest start n (c :: sofar) rest
  | 0, sofar, c :: rest =>
    if c.toNat < 0x20 then failAt .controlCharacter (c :: rest)
    else stringRest start 0 (some c :: sofar) rest

/-- Splits off a number: its sign, its whole part, and a fraction or an exponent if one is
complete. -/
def number (cs : List Char) : Option (Value × List Char) :=
  let (negative, body) := match cs with
    | '-' :: rest => (true, rest)
    | _ => (false, cs)
  let whole? := match body with
    | '0' :: rest => some (['0'], rest)
    | _ => match spanDigits body with
      | ([], _) => none
      | (ds, rest) => some (ds, rest)
  match whole? with
  | none => none
  | some (whole, rest) =>
    let (fraction, rest) := match rest with
      | '.' :: r => match spanDigits r with
        | ([], _) => ([], rest)
        | (ds, r) => (ds, r)
      | _ => ([], rest)
    let (exponent?, rest) := match rest with
      | e :: r =>
        if e = 'e' || e = 'E' then
          let (down, r) := spanSign r
          match spanDigits r with
          | ([], _) => (none, rest)
          | (ds, r) =>
            let n : Int := digitsValue ds
            (some (if down then -n else n), r)
        else (none, rest)
      | [] => (none, rest)
    match fraction, exponent? with
    | [], none =>
      let n : Int := digitsValue whole
      some (.int (if negative then -n else n), rest)
    | _, _ =>
      some (.float (.ofDecimal negative (digitsValue (whole ++ fraction))
        (exponent?.getD 0 - fraction.length)), rest)

/-- The words that stand for values. -/
def words : List (List Char × Value) :=
  [("null".toList, .null), ("true".toList, .bool true), ("false".toList, .bool false),
   ("NaN".toList, .float .nan), ("Infinity".toList, .float (.infinite false)),
   ("-Infinity".toList, .float (.infinite true))]

def word? (cs : List Char) : Option (Value × List Char) :=
  (words.find? fun w => w.1.isPrefixOf cs).map fun w => (w.2, cs.drop w.1.length)

/-- How many arrays and objects may stand inside each other. -/
def maxDepth : Nat := 960

mutual

/-- Reads a value inside some arrays and objects. `fuel` bounds the nesting and the number of
parts. -/
def value (depth : Nat) : Nat → List Char → Step Value
  | 0, cs => failAt .expectingValue cs
  | fuel + 1, cs =>
    match cs with
    | '"' :: rest => stringRest cs.length 0 [] rest
    | '\x7b' :: rest =>
      if maxDepth ≤ depth then failAt (.tooDeep "object") cs
      else match skipSpace rest with
        | '\x7d' :: r => .ok (.map [], r)
        | r => (members (depth + 1) fuel [] r).map fun (es, r) => (Value.mapOf es.reverse, r)
    | '[' :: rest =>
      if maxDepth ≤ depth then failAt (.tooDeep "array") cs
      else match skipSpace rest with
        | ']' :: r => .ok (.list [], r)
        | r => (elements (depth + 1) fuel [] r).map fun (xs, r) => (.list xs.reverse, r)
    | _ =>
      match word? cs with
      | some found => .ok found
      | none =>
        match number cs with
        | some (.int n, r) =>
          let count := cs.length - r.length - (if n < 0 then 1 else 0)
          if maxDigits < count then failAt (.tooManyDigits count) cs else .ok (.int n, r)
        | some found => .ok found
        | none => failAt .expectingValue cs

/-- Reads members up to the closing brace; the latest read comes first. -/
def members (depth : Nat) :
    Nat → List (Value × Value) → List Char → Step (List (Value × Value))
  | 0, _, cs => failAt .expectingName cs
  | fuel + 1, sofar, cs =>
    match cs with
    | '"' :: rest =>
      match stringRest cs.length 0 [] rest with
      | .error e => .error e
      | .ok (name, r) =>
        match skipSpace r with
        | ':' :: r =>
          match value depth fuel (skipSpace r) with
          | .error e => .error e
          | .ok (v, r) =>
            match skipSpace r with
            | '\x7d' :: r => .ok ((name, v) :: sofar, r)
            | ',' :: r => members depth fuel ((name, v) :: sofar) (skipSpace r)
            | r => failAt .expectingComma r
        | r => failAt .expectingColon r
    | _ => failAt .expectingName cs

/-- Reads elements up to the closing bracket; the latest read comes first. -/
def elements (depth : Nat) : Nat → List Value → List Char → Step (List Value)
  | 0, _, cs => failAt .expectingValue cs
  | fuel + 1, sofar, cs =>
    match value depth fuel cs with
    | .error e => .error e
    | .ok (v, r) =>
      match skipSpace r with
      | ']' :: r => .ok (v :: sofar, r)
      | ',' :: r => elements depth fuel (v :: sofar) (skipSpace r)
      | r => failAt .expectingComma r

end

/-- Reads a text that holds one value and nothing else. -/
def read (text : String) : Except Failure Value :=
  let cs := text.toList
  match cs with
  | '\uFEFF' :: _ => failAt .byteOrderMark cs
  | _ =>
    match value 0 (cs.length + 1) (skipSpace cs) with
    | .error e => .error e
    | .ok (v, rest) =>
      match skipSpace rest with
      | [] => .ok v
      | r => failAt .extraData r

/-- The message of an error in a text, with its line, its column and its offset. -/
def Failure.message (f : Failure) (text : String) : String :=
  let cs := text.toList
  let offset := cs.length - f.remaining
  let before := cs.take offset
  let line := before.count '\n' + 1
  let column := (before.reverse.takeWhile (· ≠ '\n')).length + 1
  match f.cause with
  | .tooManyDigits _ | .tooDeep _ => f.cause.message
  | cause =>
    cause.message ++ ": line " ++ toString line ++ " column " ++ toString column ++ " (char " ++
      toString offset ++ ")"

end Conform.Json
