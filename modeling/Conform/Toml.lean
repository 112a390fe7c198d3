import Conform.Number.Entered
import Conform.Time.Calendar
import Conform.Value.Access
import Conform.Value.Display

/-!
Reading TOML documents: tables of keys and values. An error names its cause and the place where
reading stopped.
-/

namespace Conform.Toml

/-- A key in parts that dots set apart. -/
abbrev Path := List String

inductive Cause where
  | keyExpected
  | equalsExpected
  | valueExpected
  | statementExpected
  | lineEndExpected
  | unclosedArray
  | unclosedTable
  | headerUnclosed
  | listHeaderUnclosed
  | unterminated
  /-- The end of a text that is not there. -/
  | endExpected (delimiter : String)
  | illegal (c : Char)
  | invalid (c : Char)
  | strayBackslash
  | badHex
  | notCharacter
  | badDate
  | overwritten
  | duplicateKey (name : String)
  | immutable (path : Path)
  | declaredTwice (path : Path)
  | redefined (path : Path)
  /-- A whole number of more digits than are read. -/
  | tooManyDigits (count : Nat)
deriving DecidableEq, Repr

def pathText (p : Path) : String := (Value.tuple (p.map .text)).display

def charText (c : Char) : String := quoteText (String.singleton c)

def Cause.message : Cause → String
  | keyExpected => "Invalid initial character for a key part"
  | equalsExpected => "Expected '=' after a key in a key/value pair"
  | valueExpected => "Invalid value"
  | statementExpected => "Invalid statement"
  | lineEndExpected => "Expected newline or end of document after a statement"
  | unclosedArray => "Unclosed array"
  | unclosedTable => "Unclosed inline table"
  | headerUnclosed => "Expected ']' at the end of a table declaration"
  | listHeaderUnclosed => "Expected ']]' at the end of an array declaration"
  | unterminated => "Unterminated string"
  | endExpected delimiter => "Expected " ++ quoteText delimiter
  | illegal c => "Illegal character " ++ charText c
  | invalid c => "Found invalid character " ++ charText c
  | strayBackslash => "Unescaped '\\' in a string"
  | badHex => "Invalid hex value"
  | notCharacter => "Escaped character is not a Unicode scalar value"
  | badDate => "Invalid date or datetime"
  | overwritten => "Cannot overwrite a value"
  | duplicateKey name => "Duplicate inline table key " ++ quoteText name
  | immutable path => "Cannot mutate immutable namespace " ++ pathText path
  | declaredTwice path => "Cannot declare " ++ pathText path ++ " twice"
  | redefined path => "Cannot redefine namespace " ++ pathText path
  | tooManyDigits count => tooManyDigitsText count

/-- An error, with the number of characters from its place to the end. -/
structure Failure where
  cause : Cause
  remaining : Nat
deriving DecidableEq, Repr

def failAt {α : Type} (cause : Cause) (cs : List Char) : Except Failure α :=
  .error ⟨cause, cs.length⟩

def isSpace (c : Char) : Bool := c = ' ' || c = '\t'

def isSpaceOrLineEnd (c : Char) : Bool := isSpace c || c = '\n'

def isBareKeyChar (c : Char) : Bool := c.isAlphanum || c = '-' || c = '_'

/-- Controls that stand nowhere; tabs are allowed. -/
def isControl (c : Char) : Bool := (c.toNat < 0x20 && c ≠ '\t') || c.toNat = 0x7F

/-- The value of a row of hexadecimal digits. -/
def hexRow? (cs : List Char) : Option Nat :=
  cs.foldlM (fun n c => (hexValue? c).map (16 * n + ·)) 0

/-- The character of an escape with the given number of digits. -/
def escapedChar (width : Nat) (cs : List Char) : Except Failure (List Char × Nat) :=
  let ds := cs.take width
  match hexRow? ds with
  | some n =>
    if ds.length < width then failAt .badHex cs
    else if n.isValidChar then .ok ([Char.ofNat n], width + 1)
    else failAt .notCharacter (cs.drop width)
  | none => failAt .badHex cs

/-- A backslash before the end of a line leaves out everything up to the next other character. -/
def lineJoin (cs : List Char) : Except Failure (List Char × Nat) :=
  let blank := cs.dropWhile isSpace
  match blank with
  | [] => .ok ([], cs.length)
  | '\n' :: rest => .ok ([], cs.length - (rest.dropWhile isSpaceOrLineEnd).length)
  | _ => failAt .strayBackslash blank

/-- What an escape stands for, and how many characters it takes after the backslash. -/
def escape (multiline : Bool) (cs : List Char) : Except Failure (List Char × Nat) :=
  match cs with
  | [] => failAt .strayBackslash []
  | c :: rest =>
    match c with
    | 'b' => .ok (['\x08'], 1)
    | 't' => .ok (['\t'], 1)
    | 'n' => .ok (['\n'], 1)
    | 'f' => .ok (['\x0c'], 1)
    | 'r' => .ok (['\r'], 1)
    | '"' => .ok (['"'], 1)
    | '\\' => .ok (['\\'], 1)
    | 'u' => escapedChar 4 rest
    | 'U' => escapedChar 8 rest
    | _ =>
      if multiline && isSpaceOrLineEnd c then lineJoin cs else failAt .strayBackslash rest

/-- Reads the rest of a text in double quotes. `skip` characters belong to an escape that has been
read. -/
def basicRest (multiline : Bool) :
    Nat → List Char → List Char → Except Failure (String × List Char)
  | _, _, [] => failAt .unterminated []
  | skip + 1, sofar, _ :: rest => basicRest multiline skip sofar rest
  | 0, sofar, c :: rest =>
    if c = '"' then
      if !multiline then .ok (String.ofList sofar.reverse, rest)
      else match rest with
        | '"' :: '"' :: after => .ok (String.ofList sofar.reverse, after)
        | _ => basicRest multiline 0 ('"' :: sofar) rest
    else if c = '\\' then
      match escape multiline rest with
      | .error e => .error e
      | .ok (cs, n) => basicRest multiline n (cs.reverse ++ sofar) rest
    else if isControl c && !(multiline && c = '\n') then failAt (.illegal c) (c :: rest)
    else basicRest multiline 0 (c :: sofar) rest

/-- Splits at the first place where a delimiter begins. -/
def splitAtFirst (delimiter : List Char) : List Char → Option (List Char × List Char)
  | [] => none
  | c :: cs =>
    if delimiter.isPrefixOf (c :: cs) then some ([], (c :: cs).drop delimiter.length)
    else (splitAtFirst delimiter cs).map fun (before, after) => (c :: before, after)

/-- Reads up to a delimiter and past it. -/
def literalRest (delimiter : String) (multiline : Bool) (cs : List Char) :
    Except Failure (String × List Char) :=
  match splitAtFirst delimiter.toList cs with
  | none => failAt (.endExpected delimiter) []
  | some (body, rest) =>
    let sound := fun c => !isControl c || (multiline && c = '\n')
    match body.dropWhile sound with
    | [] => .ok (String.ofList body, rest)
    | c :: _ => .error ⟨.invalid c, cs.length - (body.takeWhile sound).length⟩

/-- Up to two more quotes at the end of a text in three quotes belong to it. -/
def withMoreQuotes (quote : Char) (text : String) (cs : List Char) : String × List Char :=
  let more := (cs.takeWhile (· = quote)).take 2
  (text ++ String.ofList more, cs.drop more.length)

/-- Drops a line end at the start. -/
def dropLineEnd : List Char → List Char
  | '\n' :: cs => cs
  | cs => cs

def text? (cs : List Char) : Option (Except Failure (String × List Char)) :=
  match cs with
  | '"' :: '"' :: '"' :: rest =>
    some ((basicRest true 0 [] (dropLineEnd rest)).map fun (s, r) => withMoreQuotes '"' s r)
  | '"' :: rest => some (basicRest false 0 [] rest)
  | '\'' :: '\'' :: '\'' :: rest =>
    some ((literalRest "'''" true (dropLineEnd rest)).map fun (s, r) => withMoreQuotes '\'' s r)
  | '\'' :: rest => some (literalRest "'" false rest)
  | _ => none

def keyPart (cs : List Char) : Except Failure (String × List Char) :=
  match cs with
  | '"' :: rest => basicRest false 0 [] rest
  | '\'' :: rest => literalRest "'" false rest
  | _ =>
    match cs.span isBareKeyChar with
    | ([], _) => failAt .keyExpected cs
    | (name, rest) => .ok (String.ofList name, rest)

/-- Reads a key and the blanks after it. -/
def key : Nat → List Char → Except Failure (Path × List Char)
  | 0, cs => failAt .keyExpected cs
  | fuel + 1, cs => do
    let (name, rest) ← keyPart cs
    match rest.dropWhile isSpace with
    | '.' :: rest =>
      let (path, rest) ← key fuel (rest.dropWhile isSpace)
      pure (name :: path, rest)
    | rest => pure ([name], rest)

/-- Digits, between which single underscores may stand. -/
def digitRun (ok : Char → Bool) : List Char → List Char × List Char
  | c :: cs => if ok c then let (ds, rest) := more cs; (c :: ds, rest) else ([], c :: cs)
  | [] => ([], [])
where
  more : List Char → List Char × List Char
    | '_' :: c :: cs =>
      if ok c then let (ds, rest) := more cs; (c :: ds, rest) else ([], '_' :: c :: cs)
    | c :: cs => if ok c then let (ds, rest) := more cs; (c :: ds, rest) else ([], c :: cs)
    | [] => ([], [])

def isDecimal (c : Char) : Bool := (digit? c).isSome

/-- Two digits that spell a number from `low` to `high`. -/
def twoDigits? (low high : Nat) : List Char → Option (Nat × List Char)
  | a :: b :: cs =>
    if isDecimal a && isDecimal b then
      let n := digitsValue [a, b]
      if low ≤ n && n ≤ high then some (n, cs) else none
    else none
  | _ => none

def separated? (c : Char) : List Char → Option (List Char)
  | d :: cs => if c = d then some cs else none
  | [] => none

def date? (cs : List Char) : Option (Date × List Char) := do
  let year := cs.take 4
  if year.length = 4 && year.all isDecimal then
    let (month, cs) ← twoDigits? 1 12 (← separated? '-' (cs.drop 4))
    let (day, cs) ← twoDigits? 1 31 (← separated? '-' cs)
    pure (⟨digitsValue year, month, day⟩, cs)
  else none

/-- A time of day with seconds. Six digits of a fraction count. -/
def clock? (cs : List Char) : Option (Clock × List Char) := do
  let (hour, cs) ← twoDigits? 0 23 cs
  let (minute, cs) ← twoDigits? 0 59 (← separated? ':' cs)
  let (second, cs) ← twoDigits? 0 59 (← separated? ':' cs)
  let plain := (⟨hour, minute, second, 0⟩, cs)
  match cs with
  | '.' :: rest =>
    match spanDigits rest with
    | ([], _) => pure plain
    | (ds, rest) =>
      let ds := ds.take 6
      pure (⟨hour, minute, second, digitsValue ds * 10 ^ (6 - ds.length)⟩, rest)
  | _ => pure plain

/-- An offset from universal time in microseconds, if there is one. -/
def zone (cs : List Char) : Option Int × List Char :=
  match cs with
  | c :: rest =>
    if c = 'Z' || c = 'z' then (some 0, rest)
    else if c = '+' || c = '-' then
      let offset : Option (Int × List Char) := do
        let (hour, r) ← twoDigits? 0 23 rest
        let (minute, r) ← twoDigits? 0 59 (← separated? ':' r)
        let micros := (⟨hour, minute, 0, 0⟩ : Clock).micros
        pure (if c = '-' then -(micros : Int) else micros, r)
      match offset with
      | some (n, r) => (some n, r)
      | none => (none, cs)
    else (none, cs)
  | [] => (none, [])

/-- A date, or a date and a time. -/
def moment? (cs : List Char) : Option (Except Failure (Value × List Char)) :=
  (date? cs).map fun (date, rest) =>
    let timed := match rest with
      | c :: r => if c = 'T' || c = 't' || c = ' ' then clock? r else none
      | [] => none
    if !date.isValid then failAt .badDate cs
    else match timed with
      | some (clock, r) => let (offset, r) := zone r; .ok (.moment ⟨date, clock, offset⟩, r)
      | none => .ok (.date date, rest)

/-- A number in a base other than ten. -/
def based? (cs : List Char) : Option (Value × List Char) :=
  let read := fun (base : Nat) (rest : List Char) =>
    match digitRun (fun c => (hexValue? c).any (· < base)) rest with
    | ([], _) => none
    | (ds, r) => some (.int (ds.foldl (fun n c => base * n + (hexValue? c).getD 0) 0 : Nat), r)
  match cs with
  | '0' :: 'x' :: rest => read 16 rest
  | '0' :: 'o' :: rest => read 8 rest
  | '0' :: 'b' :: rest => read 2 rest
  | _ => none

/-- A decimal number; its whole part has no zeros before it. -/
def decimal? (cs : List Char) : Option (Except Failure (Value × List Char)) :=
  let (negative, body) := spanSign cs
  let whole := match body with
    | '0' :: rest => (['0'], rest)
    | _ => digitRun isDecimal body
  match whole with
  | ([], _) => none
  | (ds, rest) =>
    let (fraction, rest) := match rest with
      | '.' :: r => match digitRun isDecimal r with
        | ([], _) => ([], rest)
        | (fs, r) => (fs, r)
      | _ => ([], rest)
    let (exponent?, rest) := match rest with
      | e :: r =>
        if e = 'e' || e = 'E' then
          let (down, r) := spanSign r
          match digitRun isDecimal r with
          | ([], _) => (none, rest)
          | (es, r) =>
            let n : Int := digitsValue es
            (some (if down then -n else n), r)
        else (none, rest)
      | [] => (none, rest)
    match fraction, exponent? with
    | [], none =>
      if maxDigits < ds.length then some (failAt (.tooManyDigits ds.length) cs)
      else
        let n : Int := digitsValue ds
        some (.ok (.int (if negative then -n else n), rest))
    | _, _ => some (.ok (.float (.ofDecimal negative (digitsValue (ds ++ fraction))
        (exponent?.getD 0 - fraction.length)), rest))

/-- The words that stand for values. -/
def keywords : List (List Char × Value) :=
  [("true".toList, .bool true), ("false".toList, .bool false),
   ("inf".toList, .float (.infinite false)), ("+inf".toList, .float (.infinite false)),
   ("-inf".toList, .float (.infinite true)),
   ("nan".toList, .float .nan), ("+nan".toList, .float .nan), ("-nan".toList, .float .nan)]

def keyword? (cs : List Char) : Option (Value × List Char) :=
  (keywords.find? fun w => w.1.isPrefixOf cs).map fun w => (w.2, cs.drop w.1.length)

/-- A value other than an array or a table. -/
def scalar (cs : List Char) : Except Failure (Value × List Char) :=
  match text? cs with
  | some r => r.map fun (s, rest) => (.text s, rest)
  | none =>
    match moment? cs with
    | some r => r
    | none =>
      match clock? cs with
      | some (_, rest) => .ok (.opaqueObject, rest)
      | none =>
        match based? cs with
        | some r => .ok r
        | none =>
          match decimal? cs with
          | some r => r
          | none =>
            match keyword? cs with
            | some r => .ok r
            | none => failAt .valueExpected cs

/-- Skips a comment up to the end of its line. -/
def skipComment (cs : List Char) : Except Failure (List Char) :=
  match cs with
  | '#' :: rest =>
    let body := rest.takeWhile (· ≠ '\n')
    match body.dropWhile fun c => !isControl c with
    | [] => .ok (rest.drop body.length)
    | c :: after => .error ⟨.invalid c, (rest.drop body.length).length + after.length + 1⟩
  | _ => .ok cs

/-- Skips blanks, line ends and comments. -/
def skipGap : Nat → List Char → Except Failure (List Char)
  | 0, cs => .ok cs
  | fuel + 1, cs =>
    match cs.dropWhile isSpaceOrLineEnd with
    | '#' :: rest => do skipGap fuel (← skipComment ('#' :: rest))
    | rest => .ok rest

abbrev Entries := List (Value × Value)

/-- Changes the entries of the table at a path, which is made if it is absent. With `intoLists` the
last table of a list stands for the list. -/
def modifyAt (intoLists : Bool) (f : Entries → Option Entries) :
    Path → Entries → Option Entries
  | [], es => f es
  | name :: path, es =>
    match Value.lookup (.text name) es with
    | none => (modifyAt intoLists f path []).map fun inner => Value.put (.text name) (.map inner) es
    | some (.map inner) =>
      (modifyAt intoLists f path inner).map fun inner => Value.put (.text name) (.map inner) es
    | some (.list items) =>
      match intoLists, items.getLast? with
      | true, some (.map inner) => (modifyAt intoLists f path inner).map fun inner =>
          Value.put (.text name) (.list (items.dropLast ++ [.map inner])) es
      | _, _ => none
    | some _ => none

/-- The table at a path, empty if there is none yet. -/
def tableAt? (intoLists : Bool) (path : Path) (es : Entries) : Option Entries :=
  match path with
  | [] => some es
  | name :: path =>
    match Value.lookup (.text name) es with
    | none => some []
    | some (.map inner) => tableAt? intoLists path inner
    | some (.list items) =>
      match intoLists, items.getLast? with
      | true, some (.map inner) => tableAt? intoLists path inner
      | _, _ => none
    | some _ => none

def holds (es : Entries) (name : String) : Bool := (Value.lookup (.text name) es).isSome

def isContainer : Value → Bool
  | .map _ | .list _ => true
  | _ => false

/-- Whether a path leads to or into one of the given places. -/
def within (places : List Path) (path : Path) : Bool := places.any (·.isPrefixOf path)

mutual

/-- Reads a value. `fuel` bounds the nesting and the number of parts. -/
def value : Nat → List Char → Except Failure (Value × List Char)
  | 0, cs => failAt .valueExpected cs
  | fuel + 1, cs =>
    match cs with
    | '[' :: rest => do
      match ← skipGap rest.length rest with
      | ']' :: r => pure (.list [], r)
      | r =>
        let (items, r) ← elements fuel [] r
        pure (.list items.reverse, r)
    | '\x7b' :: rest =>
      match rest.dropWhile isSpace with
      | '\x7d' :: r => .ok (.map [], r)
      | r => (members fuel [] [] r).map fun (es, r) => (.map es, r)
    | _ => scalar cs

/-- Reads elements up to the closing bracket; the latest read comes first. -/
def elements : Nat → List Value → List Char → Except Failure (List Value × List Char)
  | 0, _, cs => failAt .unclosedArray cs
  | fuel + 1, sofar, cs => do
    let (v, r) ← value fuel cs
    let sofar := v :: sofar
    match ← skipGap r.length r with
    | ']' :: r => pure (sofar, r)
    | ',' :: r =>
      match ← skipGap r.length r with
      | ']' :: r => pure (sofar, r)
      | r => elements fuel sofar r
    | r => failAt .unclosedArray r

/-- Reads members up to the closing brace. No key leads into a value at one of the closed paths. -/
def members : Nat → List Path → Entries → List Char → Except Failure (Entries × List Char)
  | 0, _, _, cs => failAt .unclosedTable cs
  | fuel + 1, closed, sofar, cs => do
    let (path, v, r) ← pair fuel cs
    let name := path.getLastD ""
    if within closed path then failAt (.immutable path) r
    match tableAt? false path.dropLast sofar with
    | none => failAt .overwritten r
    | some inner =>
      if holds inner name then failAt (.duplicateKey name) r
      let sofar := (modifyAt false (fun es => some (Value.put (.text name) v es))
        path.dropLast sofar).getD sofar
      match r.dropWhile isSpace with
      | '\x7d' :: r => pure (sofar, r)
      | ',' :: r =>
        members fuel (if isContainer v then path :: closed else closed) sofar (r.dropWhile isSpace)
      | r => failAt .unclosedTable r

/-- Reads a key, an equals sign and a value. -/
def pair : Nat → List Char → Except Failure (Path × Value × List Char)
  | 0, cs => failAt .keyExpected cs
  | fuel + 1, cs => do
    let (path, r) ← key (cs.length + 1) cs
    match r with
    | '=' :: r =>
      let (v, r) ← value fuel (r.dropWhile isSpace)
      pure (path, v, r)
    | r => failAt .equalsExpected r

end

/-- A document so far: its entries, the table that keys belong to, the paths that cannot be changed
any more, those that cannot be declared again, and those of the current table that will be so. -/
structure Document where
  entries : Entries := []
  header : Path := []
  closed : List Path := []
  declared : List Path := []
  pending : List Path := []

namespace Document

/-- The paths to the tables that a dotted key goes through. -/
def innerPaths (header : Path) (path : Path) : List Path :=
  ((List.range path.length).drop 1).map fun n => header ++ path.take n

/-- Adds a key with its value; `rest` is what follows them. -/
def add (d : Document) (path : Path) (v : Value) (rest : List Char) : Except Failure Document := do
  let inner := innerPaths d.header path
  if let some p := inner.find? d.declared.contains then failAt (.redefined p) rest
  let parent := d.header ++ path.dropLast
  let name := path.getLastD ""
  if within d.closed parent then failAt (.immutable parent) rest
  match tableAt? true parent d.entries with
  | none => failAt .overwritten rest
  | some es =>
    if holds es name then failAt .overwritten rest
    let put := fun es => some (Value.put (.text name) v es)
    pure { d with
      entries := (modifyAt true put parent d.entries).getD d.entries
      closed := if isContainer v then (d.header ++ path) :: d.closed else d.closed
      pending := inner ++ d.pending }

/-- From here on the paths that were waiting cannot be declared again. -/
def settle (d : Document) : Document :=
  { d with declared := d.pending ++ d.declared, pending := [] }

/-- Opens a table. -/
def openTable (d : Document) (path : Path) (rest : List Char) : Except Failure Document := do
  if d.declared.contains path || within d.closed path then failAt (.declaredTwice path) rest
  match modifyAt true some path d.entries with
  | none => failAt .overwritten rest
  | some entries => pure { d with entries, header := path, declared := path :: d.declared }

/-- Opens a new table at the end of a list. -/
def openListTable (d : Document) (path : Path) (rest : List Char) : Except Failure Document := do
  if within d.closed path then failAt (.immutable path) rest
  let outside := fun (p : Path) => !path.isPrefixOf p
  let name := path.getLastD ""
  let append := fun es => match Value.lookup (.text name) es with
    | none => some (Value.put (.text name) (.list [.map []]) es)
    | some (.list items) => some (Value.put (.text name) (.list (items ++ [.map []])) es)
    | some _ => none
  match modifyAt true append path.dropLast d.entries with
  | none => failAt .overwritten rest
  | some entries => pure { d with
      entries, header := path
      closed := d.closed.filter outside
      declared := path :: d.declared.filter outside }

/-- Reads one statement. -/
def statement (d : Document) (cs : List Char) : Except Failure (Document × List Char) :=
  match cs with
  | '[' :: '[' :: rest => do
    let (path, r) ← key rest.length (rest.dropWhile isSpace)
    let d ← d.settle.openListTable path r
    match r with
    | ']' :: ']' :: r => pure (d, r)
    | r => failAt .listHeaderUnclosed r
  | '[' :: rest => do
    let (path, r) ← key (rest.length + 1) (rest.dropWhile isSpace)
    let d ← d.settle.openTable path r
    match r with
    | ']' :: r => pure (d, r)
    | r => failAt .headerUnclosed r
  | '#' :: _ => .ok (d, cs)
  | c :: _ =>
    if isBareKeyChar c || c = '"' || c = '\'' then do
      let (path, v, r) ← pair (2 * cs.length + 2) cs
      pure (← d.add path v r, r)
    else failAt .statementExpected cs
  | [] => .ok (d, [])

/-- Reads statements to the end of the text. -/
def statements : Nat → Document → List Char → Except Failure Document
  | 0, d, _ => .ok d
  | fuel + 1, d, cs =>
    match cs.dropWhile isSpaceOrLineEnd with
    | [] => .ok d
    | cs => do
      let (d, r) ← d.statement cs
      match ← skipComment (r.dropWhile isSpace) with
      | [] => pure d
      | '\n' :: r => statements fuel d r
      | r => failAt .lineEndExpected r

end Document

/-- Carriage returns before line feeds count for nothing. -/
def unify : List Char → List Char
  | '\r' :: '\n' :: cs => '\n' :: unify cs
  | c :: cs => c :: unify cs
  | [] => []

/-- The entries of a document. -/
def read (text : String) : Except Failure Entries :=
  let cs := unify text.toList
  (Document.statements (cs.length + 1) {} cs).map (·.entries)

/-- The message of an error in a text, with its line and its column. -/
def Failure.message (f : Failure) (text : String) : String :=
  let cs := unify text.toList
  let before := cs.take (cs.length - f.remaining)
  let place :=
    if f.remaining = 0 then "end of document"
    else "line " ++ toString (before.count '\n' + 1) ++ ", column " ++
      toString ((before.reverse.takeWhile (· ≠ '\n')).length + 1)
  match f.cause with
  | .tooManyDigits _ => f.cause.message
  | cause => cause.message ++ " (at " ++ place ++ ")"

end Conform.Toml
