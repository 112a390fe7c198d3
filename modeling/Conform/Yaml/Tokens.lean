import Conform.Yaml.Lexeme

/-!
The tokens of a text in order. Indentation opens and closes blocks. Whether a scalar is a key is
only known when a colon follows, so tokens wait until it is decided; what is read of the text at a
time depends on it.
-/

namespace Conform.Yaml

inductive Brackets where
  | square | curly
deriving DecidableEq, Repr

/-- A token that may turn out to be a key: how many tokens come before it, whether it must be one,
and where it stands. -/
structure KeyPlace where
  number : Nat
  required : Bool
  index : Nat
  line : Nat
  column : Nat
deriving DecidableEq, Repr

/-- How far reading has come. Columns of blocks are −1 outside every block. -/
structure Scan where
  cursor : Cursor
  version : Version := {}
  /-- Tokens that wait, and how many have been given away. -/
  waiting : List Token := [.streamStart]
  given : Nat := 0
  /-- Brackets that are open, the innermost first. -/
  brackets : List Brackets := []
  indent : Int := -1
  /-- The indentations of the blocks around the current one. -/
  outer : List Int := []
  keyAllowed : Bool := true
  /-- Possible keys, each with the number of brackets around it. -/
  keys : List (Nat × KeyPlace) := []
  done : Bool := false

namespace Scan

def level (s : Scan) : Nat := s.brackets.length

def inFlow (s : Scan) : Bool := !s.brackets.isEmpty

def add (s : Scan) (t : Token) : Scan := { s with waiting := s.waiting ++ [t] }

/-- Adds a token of some characters. -/
def addOver (s : Scan) (n : Nat) (t : Token) : Scan :=
  { s.add t with cursor := s.cursor.forward n }

/-- A key stands on one line and takes at most 1024 characters up to its colon. -/
def isStale (s : Scan) (k : KeyPlace) : Bool :=
  k.line ≠ s.cursor.line || 1024 < s.cursor.index - k.index

def dropStale (s : Scan) : Except Failure Scan :=
  if s.keys.any fun k => s.isStale k.2 && k.2.required then .error .token
  else .ok { s with keys := s.keys.filter fun k => !s.isStale k.2 }

/-- The possible key among the current brackets. -/
def key? (s : Scan) : Option KeyPlace := (s.keys.find? (·.1 = s.level)).map (·.2)

def forgetKey (s : Scan) : Scan := { s with keys := s.keys.filter (·.1 ≠ s.level) }

def dropKey (s : Scan) : Except Failure Scan :=
  if s.key?.any (·.required) then .error .token else .ok s.forgetKey

/-- Notes that the next token may be a key. -/
def noteKey (s : Scan) : Except Failure Scan :=
  if !s.keyAllowed then .ok s
  else s.dropKey.map fun s =>
    let c := s.cursor
    let place : KeyPlace := {
      number := s.given + s.waiting.length
      required := !s.inFlow && s.indent = c.column
      index := c.index, line := c.line, column := c.column }
    { s with keys := (s.level, place) :: s.keys }

/-- Closes the blocks that are set in further than a column. -/
def closeBlocks (column : Int) : List Int → Int → List Token → List Int × Int × List Token
  | [], indent, sofar => ([], indent, sofar)
  | next :: outer, indent, sofar =>
    if column < indent then closeBlocks column outer next (.blockEnd :: sofar)
    else (next :: outer, indent, sofar)

def unwind (s : Scan) (column : Int) : Scan :=
  if s.inFlow then s
  else
    let (outer, indent, ends) := closeBlocks column s.outer s.indent []
    { s with outer, indent, waiting := s.waiting ++ ends }

/-- Opens a block at a column, if it is set in further, with a token at a place among those that
wait. -/
def openBlock (s : Scan) (column : Nat) (place : Nat) (t : Token) : Scan :=
  if s.inFlow || (column : Int) ≤ s.indent then s
  else { s with
    outer := s.indent :: s.outer
    indent := column
    waiting := s.waiting.insertIdx place t }

/-- Skips blanks, comments and line breaks. After a line break outside brackets a key may stand. -/
def skipGap : Nat → Scan → Scan
  | 0, s => s
  | fuel + 1, s =>
    let c := s.cursor.skipBlanks
    let c := if c.current = '#' then c.skipWhile fun a => !endsLine a else c
    match c.lineBreak? with
    | none => { s with cursor := c }
    | some (_, c) => skipGap fuel { s with cursor := c, keyAllowed := s.keyAllowed || !s.inFlow }

/-- Blocks end, and no key may stand. -/
def atMargin (s : Scan) : Except Failure Scan :=
  (s.unwind (-1)).dropKey.map fun s => { s with keyAllowed := false }

def endStream (s : Scan) : Except Failure Scan :=
  s.atMargin.map fun s => { s.add .streamEnd with keys := [], done := true }

def directive (s : Scan) : Except Failure Scan := do
  let s ← s.atMargin
  let (d, c) ← Lexeme.directive s.version s.cursor
  let version := match d with
    | .version major minor => ⟨major, minor⟩
    | _ => s.version
  pure { s.add (.directive d) with cursor := c, version }

def documentMark (s : Scan) (t : Token) : Except Failure Scan :=
  s.atMargin.map fun s => s.addOver 3 t

def openBrackets (s : Scan) (b : Brackets) (t : Token) : Except Failure Scan :=
  s.noteKey.map fun s => { s.addOver 1 t with brackets := b :: s.brackets, keyAllowed := true }

def closeBrackets (s : Scan) (t : Token) : Except Failure Scan :=
  s.dropKey.map fun s => { s.addOver 1 t with brackets := s.brackets.tail, keyAllowed := false }

def flowEntry (s : Scan) : Except Failure Scan :=
  s.dropKey.map fun s => { s.addOver 1 .flowEntry with keyAllowed := true }

/-- Opens a block for an entry or a key that stands alone. -/
def startBlock (s : Scan) (t : Token) : Except Failure Scan :=
  if s.inFlow then .ok s
  else if !s.keyAllowed then .error .token
  else .ok (s.openBlock s.cursor.column s.waiting.length t)

def blockEntry (s : Scan) : Except Failure Scan := do
  let s ← s.startBlock .blockSequenceStart
  let s ← { s with keyAllowed := true }.dropKey
  pure (s.addOver 1 .blockEntry)

def explicitKey (s : Scan) : Except Failure Scan := do
  let s ← s.startBlock .blockMappingStart
  let s ← { s with keyAllowed := !s.inFlow }.dropKey
  pure (s.addOver 1 .key)

def value (s : Scan) : Except Failure Scan :=
  match s.key? with
  | some k =>
    let place := k.number - s.given
    let s := s.forgetKey
    let s := { s with waiting := s.waiting.insertIdx place .key, keyAllowed := false }
    .ok ((s.openBlock k.column place .blockMappingStart).addOver 1 .value)
  | none => do
    let s ← s.startBlock .blockMappingStart
    let s ← { s with keyAllowed := !s.inFlow }.dropKey
    pure (s.addOver 1 .value)

/-- Adds a token that may be a key. -/
def keyToken (s : Scan) (read : Cursor → Except Failure (Token × Cursor)) :
    Except Failure Scan := do
  let s ← s.noteKey
  let (t, c) ← read s.cursor
  pure { s.add t with cursor := c, keyAllowed := false }

def blockScalar (s : Scan) : Except Failure Scan := do
  let s ← { s with keyAllowed := true }.dropKey
  let (text, c) ← Lexeme.block s.indent s.cursor
  pure { s.add (.scalar false (text.map some)) with cursor := c }

def plainScalar (s : Scan) : Except Failure Scan := do
  let s ← s.noteKey
  let (text, broken, c) := Lexeme.plain s.version s.inFlow (s.indent + 1) s.cursor
  pure { s.add (.scalar true (text.map some)) with cursor := c, keyAllowed := broken }

/-- Whether a colon comes before a value. Right after another colon in curly brackets, and
everywhere in square ones, a blank must follow it. -/
def isValue (s : Scan) : Bool :=
  let gap := setsOff (s.cursor.ahead 1)
  match s.brackets with
  | [] => gap
  | .square :: _ => s.version.isOld || gap
  | .curly :: _ => s.version.isOld || gap || s.waiting.getLast? ≠ some .value

/-- What no plain scalar begins with, unless it is one of the first three and no blank follows. -/
def indicators : List Char := "-?:,[]\x7b\x7d#&*!|>'\"%@\x60".toList

def isPlain (s : Scan) : Bool :=
  let c := s.cursor.current
  let next := s.cursor.ahead 1
  !(setsOff c || indicators.contains c) || (c = '-' && !setsOff next) ||
    (c = ':' && s.inFlow && !s.version.isOld && next ≠ ' ' && next ≠ '\t') ||
    (!s.inFlow && (c = '?' || c = ':') && !setsOff next)

/-- Reads the next token, and those that indentation brings about. -/
def fetch (s : Scan) : Except Failure Scan := do
  let c := s.cursor
  let c := if c.index = 0 && c.current = '\uFEFF' then c.step else c
  let s ← (skipGap (c.rest.length + 1) { s with cursor := c }).dropStale
  let c := s.cursor
  let s := s.unwind c.column
  let gap := setsOff (c.ahead 1)
  let margin := c.column = 0
  match c.current with
  | '\x00' => s.endStream
  | '[' => s.openBrackets .square .flowSequenceStart
  | '\x7b' => s.openBrackets .curly .flowMappingStart
  | ']' => s.closeBrackets .flowSequenceEnd
  | '\x7d' => s.closeBrackets .flowMappingEnd
  | ',' => s.flowEntry
  | '*' => s.keyToken fun c => (Lexeme.anchorName c).map fun (name, c) => (.alias name, c)
  | '&' => s.keyToken fun c => (Lexeme.anchorName c).map fun (name, c) => (.anchor name, c)
  | '!' => s.keyToken (Lexeme.tag s.version)
  | '\'' | '"' => s.keyToken fun c => (Lexeme.quoted c).map fun (text, c) => (.scalar false text, c)
  | a =>
    if a = '%' && margin then s.directive
    else if a = '-' && margin && c.isMarker '-' then s.documentMark .documentStart
    else if a = '.' && margin && c.isMarker '.' then s.documentMark .documentEnd
    else if a = '-' && gap then s.blockEntry
    else if a = '?' && (s.inFlow || gap) then s.explicitKey
    else if a = ':' && s.isValue then s.value
    else if (a = '|' || a = '>') && !s.inFlow then s.blockScalar
    else if s.isPlain then s.plainScalar
    else .error .token

/-- Whether a token has to be read before the first that waits can be given away. -/
def wantsMore (s : Scan) : Bool :=
  !s.done && (s.waiting.isEmpty || s.keys.any fun k => k.2.number = s.given &&
    s.keys.all fun other => k.2.number ≤ other.2.number)

/-- All tokens up to the first failure, if there is one, each with the version that holds when it is
given away. -/
def run : Nat → Scan → List (Token × Version) → List (Token × Version) × Option Failure
  | 0, _, sofar => (sofar.reverse, none)
  | fuel + 1, s, sofar =>
    match if s.done || s.waiting.isEmpty then .ok s else s.dropStale with
    | .error e => (sofar.reverse, some e)
    | .ok s =>
      if s.wantsMore then
        match s.fetch with
        | .error e => (sofar.reverse, some e)
        | .ok s => run fuel s sofar
      else match s.waiting with
        | [] => (sofar.reverse, none)
        | t :: waiting =>
          run fuel { s with waiting, given := s.given + 1 } ((t, s.version) :: sofar)

end Scan

/-- The tokens of a text, up to the first failure. -/
def tokens (text : String) : List (Token × Version) × Option Failure :=
  let cs := text.toList
  Scan.run (8 * cs.length + 32) { cursor := { rest := cs } } []

end Conform.Yaml
