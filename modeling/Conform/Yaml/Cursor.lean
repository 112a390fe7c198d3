/-!
Places in a text, with the line and the column they are at.
-/

namespace Conform.Yaml

def isLineBreak (c : Char) : Bool := "\r\n\u0085\u2028\u2029".toList.contains c

/-- What ends a line, the end of the text among it. -/
def endsLine (c : Char) : Bool := c = '\x00' || isLineBreak c

/-- What sets off a token. -/
def setsOff (c : Char) : Bool := endsLine c || c = ' ' || c = '\t'

/-- The text from a place on, and where the place is: how many characters come before it, on how
many lines, and how many of them on its own line. -/
structure Cursor where
  rest : List Char
  index : Nat := 0
  line : Nat := 0
  column : Nat := 0

namespace Cursor

/-- The character some steps ahead; a zero stands for the end. -/
def ahead (c : Cursor) (n : Nat) : Char := (c.rest.drop n).headD '\x00'

def current (c : Cursor) : Char := c.ahead 0

/-- One step on. A byte order mark takes no column. -/
def step (c : Cursor) : Cursor :=
  match c.rest with
  | [] => c
  | a :: rest =>
    if isLineBreak a && !(a = '\r' && rest.head? = some '\n') then
      ⟨rest, c.index + 1, c.line + 1, 0⟩
    else ⟨rest, c.index + 1, c.line, if a = '\uFEFF' then c.column else c.column + 1⟩

def forward : Nat → Cursor → Cursor
  | 0, c => c
  | n + 1, c => forward n c.step

def skipWhile (p : Char → Bool) (c : Cursor) : Cursor :=
  forward (c.rest.takeWhile p).length c

def skipBlanks (c : Cursor) : Cursor := c.skipWhile (· = ' ')

/-- The line break at a place, if there is one, as it counts, and the place after it. -/
def lineBreak? (c : Cursor) : Option (Char × Cursor) :=
  match c.rest with
  | '\r' :: '\n' :: _ => some ('\n', forward 2 c)
  | a :: _ =>
    if a = '\u2028' || a = '\u2029' then some (a, c.step)
    else if isLineBreak a then some ('\n', c.step)
    else none
  | [] => none

/-- Past a line break, if there is one. -/
def nextLine (c : Cursor) : Cursor :=
  match c.lineBreak? with
  | some (_, c) => c
  | none => c

/-- Whether three characters at the start of a line are there and set off. -/
def isMarker (c : Cursor) (mark : Char) : Bool :=
  match c.rest with
  | x :: y :: z :: _ => x = mark && y = mark && z = mark && setsOff (c.ahead 3)
  | _ => false

/-- Whether a document begins or ends here, if this is the start of a line. -/
def isDocumentMark (c : Cursor) : Bool := c.isMarker '-' || c.isMarker '.'

end Cursor

end Conform.Yaml
