import Conform.Text.Blank
import Conform.Text.Pattern

/-!
The text formats that have a guard of their own and can be told by a pattern: addresses
`local@domain.tld`, UUIDs of versions 1 to 5, and ISO 8601 dates and timestamps by their shape.
-/

namespace Conform

open Pattern

def isAsciiDigit (c : Char) : Bool := '0' ≤ c && c ≤ '9'

def isHexDigit (c : Char) : Bool :=
  isAsciiDigit c || ('a' ≤ c && c ≤ 'f') || ('A' ≤ c && c ≤ 'F')

/-- Neither blank nor an at sign. -/
def isAddressChar (c : Char) : Bool := !isBlank c && c ≠ '@'

def emailPattern : Pattern :=
  chain (some isAddressChar) [char '@', some isAddressChar, char '.', some isAddressChar]

def uuidPattern : Pattern :=
  let hex := fun n => times n isHexDigit
  chain (hex 8) [char '-', hex 4, char '-', times 1 (fun c => '1' ≤ c && c ≤ '5'), hex 3, char '-',
    times 1 ("89abAB".toList.contains ·), hex 3, char '-', hex 12]

def digits (n : Nat) : Pattern := times n isAsciiDigit

def isoTimePattern : Pattern :=
  chain (char 'T') [digits 2, char ':', digits 2, char ':', digits 2,
    optional (seq (char '.') (some isAsciiDigit)),
    optional (either (char 'Z')
      (chain (times 1 (fun c => c = '+' || c = '-')) [digits 2, char ':', digits 2]))]

def isoDatePattern : Pattern :=
  chain (digits 4) [char '-', digits 2, char '-', digits 2, optional isoTimePattern]

def isEmail (s : String) : Bool := emailPattern.accepts s.toList

def isUuid (s : String) : Bool := uuidPattern.accepts s.toList

def isIsoDate (s : String) : Bool := isoDatePattern.accepts s.toList

end Conform
