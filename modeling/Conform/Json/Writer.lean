import Conform.Value.Display

/-!
Writing values as JSON text in ASCII, on one line or indented. What JSON has no form for is written
as the text that displays it.
-/

namespace Conform.Json

def unicodeEscape (n : Nat) : List Char := '\\' :: 'u' :: hexDigits 4 n

def escapeChar (c : Char) : List Char :=
  if c = '"' then ['\\', '"']
  else if c = '\\' then ['\\', '\\']
  else if c = '\n' then ['\\', 'n']
  else if c = '\r' then ['\\', 'r']
  else if c = '\t' then ['\\', 't']
  else if c.toNat = 8 then ['\\', 'b']
  else if c.toNat = 12 then ['\\', 'f']
  else if 0x20 ≤ c.toNat && c.toNat < 0x7F then [c]
  else if c.toNat < 0x10000 then unicodeEscape c.toNat
  else
    let n := c.toNat - 0x10000
    unicodeEscape (0xD800 + n / 1024) ++ unicodeEscape (0xDC00 + n % 1024)

def writeText (s : String) : String :=
  String.ofList ('"' :: s.toList.flatMap escapeChar ++ ['"'])

/-- How the parts of a container are set apart: by lines indented by a number of blanks for each
level, or on one line. -/
structure Style where
  indent : Option Nat

def Style.newline (style : Style) (level : Nat) : String :=
  match style.indent with
  | some n => "\n" ++ String.ofList (List.replicate (n * level) ' ')
  | none => ""

/-- A container with its parts. -/
def Style.container (style : Style) (level : Nat) (opening closing : String)
    (parts : List String) : String :=
  if parts.isEmpty then opening ++ closing
  else
    let separator := match style.indent with
      | some _ => "," ++ style.newline (level + 1)
      | none => ", "
    opening ++ style.newline (level + 1) ++ separator.intercalate parts ++ style.newline level ++
      closing

/-- The text of a member's name. -/
def nameText : Value → String
  | .text s => s
  | .float x => jsonFloat.text x
  | .bool b => if b then "true" else "false"
  | .null => "null"
  | v => v.plain

mutual

def write (style : Style) (level : Nat) : Value → String
  | .null => "null"
  | .bool b => if b then "true" else "false"
  | .int n => toString n
  | .namedInt _ _ n .. => toString n
  | .float x => jsonFloat.text x
  | .text s => writeText s
  | .list xs => style.container level "[" "]" (writeAll style (level + 1) xs)
  | .tuple xs => style.container level "[" "]" (writeAll style (level + 1) xs)
  | .map es => style.container level "\x7b" "\x7d" (writeMembers style (level + 1) es)
  | v => writeText v.display

def writeAll (style : Style) (level : Nat) : List Value → List String
  | [] => []
  | v :: vs => write style level v :: writeAll style level vs

def writeMembers (style : Style) (level : Nat) : List (Value × Value) → List String
  | [] => []
  | (k, v) :: es => (writeText (nameText k) ++ ": " ++ write style level v) ::
      writeMembers style level es

end

/-- On one line. -/
def compact (v : Value) : String := write ⟨none⟩ 0 v

/-- Indented by two blanks for each level. -/
def pretty (v : Value) : String := write ⟨some 2⟩ 0 v

end Conform.Json
