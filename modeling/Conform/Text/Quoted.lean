import Conform.Text.Printable

/-!
Quoted texts and bytes: single quotes unless the text holds a single quote and no double quote;
the quote, the backslash and what cannot be shown are written as escapes.
-/

namespace Conform

def hexDigit (n : Nat) : Char := Char.ofNat (if n < 10 then 48 + n else 87 + n)

/-- The last `width` hexadecimal digits of a number. -/
def hexDigits : Nat → Nat → List Char
  | 0, _ => []
  | width + 1, n => hexDigits width (n / 16) ++ [hexDigit (n % 16)]

/-- A character inside quotes. -/
def quoteChar (quote : Char) (c : Char) : List Char :=
  if c = quote || c = '\\' then ['\\', c]
  else if c = '\n' then ['\\', 'n']
  else if c = '\r' then ['\\', 'r']
  else if c = '\t' then ['\\', 't']
  else if isPrintable c then [c]
  else
    let n := c.toNat
    if n < 0x100 then '\\' :: 'x' :: hexDigits 2 n
    else if n < 0x10000 then '\\' :: 'u' :: hexDigits 4 n
    else '\\' :: 'U' :: hexDigits 8 n

def quoteFor (single double : Bool) : Char := if single && !double then '"' else '\''

def quoteChars (cs : List Char) : List Char :=
  let quote := quoteFor (cs.contains '\'') (cs.contains '"')
  quote :: cs.flatMap (quoteChar quote) ++ [quote]

def quoteText (s : String) : String := String.ofList (quoteChars s.toList)

/-- A byte inside quotes: ASCII characters as they are, all else in hexadecimal. -/
def quoteByte (quote : Char) (b : UInt8) : List Char :=
  let c := Char.ofNat b.toNat
  if b < 0x80 then quoteChar quote c else '\\' :: 'x' :: hexDigits 2 b.toNat

def quoteBytes (bs : List UInt8) : String :=
  let quote := quoteFor (bs.contains 39) (bs.contains 34)
  String.ofList ('b' :: quote :: bs.flatMap (quoteByte quote) ++ [quote])

end Conform
