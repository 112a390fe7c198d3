import Conform.Text.Utf8
import Conform.Yaml.Cursor
import Conform.Yaml.Failure
import Conform.Yaml.Token

/-!
Reading single tokens: directives, names of anchors, tags, and scalars in each of their styles. A
reader starts at the first character of its token and gives the place after it.
-/

namespace Conform.Yaml

/-- What a version of YAML sets the rules. -/
structure Version where
  major : Nat := 1
  minor : Nat := 2
deriving DecidableEq, Repr

/-- The rules before those of the current version. -/
def Version.isOld (v : Version) : Bool := v = ⟨1, 1⟩

/-- Versions after the old one. -/
def Version.isNew (v : Version) : Bool := 1 < v.major || (v.major = 1 && 1 < v.minor)

namespace Lexeme

def isWordChar (c : Char) : Bool := c.isAlphanum || c = '-' || c = '_'

/-- The text of a run of characters, and the place after it. -/
def takeWhile (p : Char → Bool) (c : Cursor) : String × Cursor :=
  (String.ofList (c.rest.takeWhile p), c.skipWhile p)

/-- Ends a line that may hold a comment. -/
def lineEnd (c : Cursor) : Except Failure Cursor :=
  let c := c.skipBlanks
  let c := if c.current = '#' then c.skipWhile fun a => !endsLine a else c
  if endsLine c.current then .ok c.nextLine else .error .token

def number (c : Cursor) : Except Failure (Nat × Cursor) :=
  match takeWhile (fun a => (digit? a).isSome) c with
  | ("", _) => .error .token
  | (ds, c) => .ok (digitsValue ds.toList, c)

/-- Whether a blank or the end of a line follows. -/
def requireGap (c : Cursor) : Except Failure Unit :=
  if c.current = ' ' || endsLine c.current then .ok () else .error .token

/-- A handle: a word between exclamation marks, or one or two exclamation marks alone. -/
def handle (c : Cursor) : Except Failure (String × Cursor) :=
  if c.current ≠ '!' then .error .token
  else if c.ahead 1 = ' ' then .ok ("!", c.step)
  else
    let (word, c) := takeWhile isWordChar c.step
    if c.current = '!' then .ok ("!" ++ word ++ "!", c.step) else .error .token

/-- Bytes written as a per cent sign and two hexadecimal digits. -/
def escapedBytes : List Char → Except Failure (List UInt8 × Nat)
  | '%' :: a :: b :: rest =>
    match hexValue? a, hexValue? b with
    | some a, some b =>
      (escapedBytes rest).map fun (bs, n) => (UInt8.ofNat (16 * a + b) :: bs, n + 3)
    | _, _ => .error .token
  | '%' :: _ => .error .token
  | _ => .ok ([], 0)

def isUriChar (v : Version) (c : Char) : Bool :=
  c.isAlphanum || "-;/?:@&=+$,_.!~*'()[]".toList.contains c || (v.isNew && c = '#')

/-- The rest of a tag; `fuel` bounds its length. -/
def uriRest (v : Version) : Nat → Cursor → Except Failure (String × Cursor)
  | 0, c => .ok ("", c)
  | fuel + 1, c =>
    if c.current = '%' then
      match escapedBytes c.rest with
      | .error e => .error e
      | .ok (bs, n) =>
        match String.fromUTF8? ⟨bs.toArray⟩ with
        | none => .error .token
        | some s => (uriRest v fuel (c.forward n)).map fun (more, c) => (s ++ more, c)
    else if isUriChar v c.current then
      let (s, c) := takeWhile (isUriChar v) c
      (uriRest v fuel c).map fun (more, c) => (s ++ more, c)
    else .ok ("", c)

def uri (v : Version) (c : Cursor) : Except Failure (String × Cursor) :=
  if c.current = '%' || isUriChar v c.current then uriRest v c.rest.length c else .error .token

/-- What a directive says after its name. -/
def directiveBody (v : Version) (name : String) (c : Cursor) :
    Except Failure (Directive × Cursor) := do
  match name with
  | "YAML" =>
    let (major, c) ← number c.skipBlanks
    if c.current ≠ '.' then throw .token
    let (minor, c) ← number c.step
    requireGap c
    pure (.version major minor, c)
  | "TAG" =>
    let (name, c) ← handle c.skipBlanks
    if c.current ≠ ' ' then throw .token
    let (lead, c) ← uri v c.skipBlanks
    requireGap c
    pure (.handle name lead, c)
  | _ => pure (.other, c.skipWhile fun a => !endsLine a)

def directive (v : Version) (c : Cursor) : Except Failure (Directive × Cursor) := do
  let (name, c) := takeWhile (fun a => isWordChar a || a = ':' || a = '.') c.step
  if name = "" then throw .token
  requireGap c
  let (d, c) ← directiveBody v name c
  pure (d, ← lineEnd c)

/-- What the name of an anchor is made of. -/
def isNameChar (c : Char) : Bool :=
  let n := c.toNat
  !",[]\x7b\x7d".toList.contains c &&
    ((0x21 ≤ n && n ≤ 0x7E) || (0xA0 ≤ n && n ≤ 0xFFFD && c ≠ '\uFEFF') || 0x10000 ≤ n)

def anchorName (c : Cursor) : Except Failure (String × Cursor) :=
  let (name, c) := takeWhile isNameChar c.step
  if name = "" then .error .token
  else if setsOff c.current || "?:,[]\x7b\x7d%@\x60".toList.contains c.current then .ok (name, c)
  else .error .token

/-- Whether a second exclamation mark stands in a tag. -/
def hasHandle (c : Cursor) : Bool :=
  (c.step.rest.takeWhile fun a => !endsLine a && a ≠ ' ').contains '!'

def tag (v : Version) (c : Cursor) : Except Failure (Token × Cursor) := do
  let (token, c) ←
    if c.ahead 1 = '<' then
      let (s, c) ← uri v (c.forward 2)
      if c.current ≠ '>' then throw .token
      pure (.tag none s, c.step)
    else if setsOff (c.ahead 1) then pure (.tag none "!", c.step)
    else
      let (h, c) ← if hasHandle c then handle c else pure ("!", c.step)
      let (s, c) ← uri v c
      pure (.tag (some h) s, c)
  requireGap c
  pure (token, c)

/-- The blanks and line breaks after a part of a plain scalar. -/
structure Gap where
  /-- What stands for them between two parts. -/
  text : List Char
  cursor : Cursor
  /-- A line has ended. -/
  broken : Bool

/-- Skips blanks and collects line breaks, up to the start of a document or its end. -/
def plainBreaks : Nat → List Char → Cursor → Option (List Char) × Cursor
  | 0, sofar, c => (some sofar.reverse, c)
  | fuel + 1, sofar, c =>
    if c.current = ' ' then plainBreaks fuel sofar c.step
    else match c.lineBreak? with
      | none => (some sofar.reverse, c)
      | some (b, c) =>
        if c.isDocumentMark then (none, c) else plainBreaks fuel (b :: sofar) c

/-- What line breaks stand for: one alone is a blank, and the first of several is left out. -/
def foldBreaks (first : Char) (more : List Char) : List Char :=
  if first ≠ '\n' then first :: more else if more.isEmpty then [' '] else more

def plainGap (c : Cursor) : Gap :=
  let after := c.skipBlanks
  match after.lineBreak? with
  | none => ⟨c.rest.takeWhile (· = ' '), after, false⟩
  | some (b, next) =>
    if next.isDocumentMark then ⟨[], next, true⟩
    else match plainBreaks next.rest.length [] next with
      | (none, c) => ⟨[], c, true⟩
      | (some more, c) => ⟨foldBreaks b more, c, true⟩

/-- How many characters of a part of a plain scalar follow each other without a blank. -/
def plainRun (v : Version) (inFlow : Bool) : List Char → Nat
  | [] => 0
  | c :: cs =>
    let next := cs.headD '\x00'
    let goesOn :=
      (c = ':' && !setsOff next) || (c = '?' && !v.isOld) ||
        !(setsOff c || c = ':' || (inFlow && ",?[]\x7b\x7d".toList.contains c))
    if goesOn then plainRun v inFlow cs + 1 else 0

/-- A plain scalar; beside it whether a line has ended after its last part. -/
def plainParts (v : Version) (inFlow : Bool) (indent : Int) :
    Nat → Bool → List Char → List Char → Cursor → List Char × Bool × Cursor
  | 0, broken, sofar, _, c => (sofar, broken, c)
  | fuel + 1, broken, sofar, gap, c =>
    match if c.current = '#' then 0 else plainRun v inFlow c.rest with
    | 0 => (sofar, broken, c)
    | n =>
      let sofar := sofar ++ gap ++ c.rest.take n
      let g := plainGap (c.forward n)
      if g.text.isEmpty || g.cursor.current = '#' ||
          (!inFlow && (g.cursor.column : Int) < indent) then (sofar, g.broken, g.cursor)
      else plainParts v inFlow indent fuel g.broken sofar g.text g.cursor

def plain (v : Version) (inFlow : Bool) (indent : Int) (c : Cursor) :
    List Char × Bool × Cursor :=
  plainParts v inFlow indent (c.rest.length + 1) false [] [] c

/-- The line breaks inside a quoted scalar. -/
def quotedBreaks : Nat → List Char → Cursor → Except Failure (List Char × Cursor)
  | 0, sofar, c => .ok (sofar.reverse, c)
  | fuel + 1, sofar, c =>
    if c.isDocumentMark then .error .token
    else
      let c := c.skipWhile fun a => a = ' ' || a = '\t'
      match c.lineBreak? with
      | none => .ok (sofar.reverse, c)
      | some (b, c) => quotedBreaks fuel (b :: sofar) c

/-- The blanks and line breaks inside a quoted scalar. -/
def quotedGap (c : Cursor) : Except Failure (List Char × Cursor) :=
  let isBlank := fun a => a = ' ' || a = '\t'
  let after := c.skipWhile isBlank
  if after.rest.isEmpty then .error .token
  else match after.lineBreak? with
    | none => .ok (c.rest.takeWhile isBlank, after)
    | some (b, next) =>
      (quotedBreaks (next.rest.length + 1) [] next).map fun (more, c) => (foldBreaks b more, c)

/-- Escapes of one character. -/
def shortEscape? : Char → Option Char
  | '0' => some '\x00'
  | 'a' => some '\x07'
  | 'b' => some '\x08'
  | 't' | '\t' => some '\t'
  | 'n' => some '\n'
  | 'v' => some '\x0b'
  | 'f' => some '\x0c'
  | 'r' => some '\r'
  | 'e' => some '\x1b'
  | ' ' => some ' '
  | '"' => some '"'
  | '/' => some '/'
  | '\\' => some '\\'
  | 'N' => some '\u0085'
  | '_' => some '\u00a0'
  | 'L' => some '\u2028'
  | 'P' => some '\u2029'
  | _ => none

/-- How many hexadecimal digits follow a letter. -/
def escapeWidth? : Char → Option Nat
  | 'x' => some 2
  | 'u' => some 4
  | 'U' => some 8
  | _ => none

/-- The character that digits name. -/
def escapedChar (width : Nat) (cs : List Char) : Except Failure (Option Char) :=
  let ds := cs.take width
  if ds.length < width then .error .token
  else match ds.foldlM (fun n c => (hexValue? c).map (16 * n + ·)) 0 with
    | none => .error .token
    | some n =>
      if 0x10FFFF < n then .error (.notCharacter n)
      else .ok (if n.isValidChar then some (Char.ofNat n) else none)

/-- What stands for the escape after a backslash, and the place after it. -/
def escape (c : Cursor) : Except Failure (ScalarText × Cursor) :=
  match shortEscape? c.current with
  | some a => .ok ([some a], c.step)
  | none =>
    match escapeWidth? c.current with
    | some n => (escapedChar n c.step.rest).map fun a => ([a], c.forward (n + 1))
    | none =>
      match c.lineBreak? with
      | none => .error .token
      | some (_, next) =>
        (quotedBreaks (next.rest.length + 1) [] next).map fun (bs, c) => (bs.map some, c)

/-- The rest of a scalar in quotes, after the opening one; `fuel` bounds its length. -/
def quotedRest (quote : Char) : Nat → ScalarText → Cursor → Except Failure (ScalarText × Cursor)
  | 0, _, _ => .error .token
  | fuel + 1, sofar, c =>
    let a := c.current
    if a = quote then
      if quote = '\'' && c.ahead 1 = '\'' then
        quotedRest quote fuel (some '\'' :: sofar) (c.forward 2)
      else .ok (sofar.reverse, c.step)
    else if quote = '"' && a = '\\' then
      match escape c.step with
      | .error e => .error e
      | .ok (cs, c) => quotedRest quote fuel (cs.reverse ++ sofar) c
    else if setsOff a then
      match quotedGap c with
      | .error e => .error e
      | .ok (cs, c) => quotedRest quote fuel ((cs.map some).reverse ++ sofar) c
    else quotedRest quote fuel (some a :: sofar) c.step

def quoted (c : Cursor) : Except Failure (ScalarText × Cursor) :=
  quotedRest c.current (c.rest.length + 1) [] c.step

/-- What becomes of the line breaks at the end of a block scalar. -/
inductive Chomping where
  | clip | keep | strip
deriving DecidableEq, Repr

def chomping? : Char → Option Chomping
  | '+' => some .keep
  | '-' => some .strip
  | _ => none

def blockIndent (c : Cursor) : Except Failure (Option Nat × Cursor) :=
  match digit? c.current with
  | some 0 => .error .token
  | some n => .ok (some n, c.step)
  | none => .ok (none, c)

/-- What stands after the sign of a block scalar: an indentation and a chomping in any order. -/
def blockHeader (c : Cursor) : Except Failure (Chomping × Option Nat × Cursor) := do
  let (chomping, indent, c) ← match chomping? c.current with
    | some chomping =>
      let (indent, c) ← blockIndent c.step
      pure (chomping, indent, c)
    | none =>
      let (indent, c) ← blockIndent c
      match indent, chomping? c.current with
      | some _, some chomping => pure (chomping, indent, c.step)
      | _, _ => pure (.clip, indent, c)
  requireGap c
  pure (chomping, indent, ← lineEnd c)

/-- Line breaks before the first line with contents, and the furthest column reached. -/
def leadingBreaks : Nat → Nat → List Char → Cursor → List Char × Nat × Cursor
  | 0, furthest, sofar, c => (sofar.reverse, furthest, c)
  | fuel + 1, furthest, sofar, c =>
    if c.current = ' ' then leadingBreaks fuel (max furthest c.step.column) sofar c.step
    else match c.lineBreak? with
      | none => (sofar.reverse, furthest, c)
      | some (b, c) => leadingBreaks fuel furthest (b :: sofar) c

/-- Skips blanks up to a column. -/
def skipIndent (indent : Nat) (c : Cursor) : Cursor :=
  c.forward (min (indent - c.column) (c.rest.takeWhile (· = ' ')).length)

/-- Line breaks of lines that hold nothing but the indentation, or less. -/
def blockBreaks (indent : Nat) : Nat → List Char → Cursor → List Char × Cursor
  | 0, sofar, c => (sofar.reverse, c)
  | fuel + 1, sofar, c =>
    let c := skipIndent indent c
    match c.lineBreak? with
    | none => (sofar.reverse, c)
    | some (b, c) => blockBreaks indent fuel (b :: sofar) c

/-- The lines of a block scalar: their text, the last line break, the line breaks after it, and
the place after them. -/
def blockLines (folded : Bool) (indent : Nat) (outermost : Bool) :
    Nat → List Char → List Char → Cursor → List Char × List Char × List Char × Cursor
  | 0, sofar, breaks, c => (sofar, [], breaks, c)
  | fuel + 1, sofar, breaks, c =>
    if c.column ≠ indent || c.rest.isEmpty then (sofar, [], breaks, c)
    else
      let isBlank := fun (c : Cursor) => c.current = ' ' || c.current = '\t'
      let setIn := isBlank c
      let line := c.rest.takeWhile fun a => !endsLine a
      let sofar := sofar ++ breaks ++ line
      let c := c.forward line.length
      let lineBreak := (c.lineBreak?.map (·.1)).toList
      let (breaks, c) := blockBreaks indent (c.rest.length + 1) [] c.nextLine
      if (outermost && c.column = 0 && c.isDocumentMark) || c.column ≠ indent || c.rest.isEmpty then
        (sofar, lineBreak, breaks, c)
      else
        let joint :=
          if folded && lineBreak = ['\n'] && !setIn && !isBlank c then
            if breaks.isEmpty then [' '] else []
          else lineBreak
        blockLines folded indent outermost fuel (sofar ++ joint) breaks c

/-- A block scalar inside a block that is set in so far. -/
def block (indent : Int) (c : Cursor) : Except Failure (List Char × Cursor) := do
  let folded := c.current = '>'
  let (chomping, own, c) ← blockHeader c.step
  let least := (indent + 1).toNat
  let fuel := c.rest.length + 1
  let (breaks, depth, c) := match own with
    | none =>
      let (breaks, furthest, c) := leadingBreaks fuel 0 [] c
      (breaks, max least furthest, c)
    | some n =>
      let depth := max least 1 + n - 1
      let (breaks, c) := blockBreaks depth fuel [] c
      (breaks, depth, c)
  let outermost := least = 0 && own.isNone
  let (text, lineBreak, breaks, c) := blockLines folded depth outermost fuel [] breaks c
  pure <| match chomping with
    | .strip => (text, c)
    | .clip => (text ++ lineBreak, c)
    | .keep => (text ++ lineBreak ++ breaks, c)

end Lexeme

end Conform.Yaml
