import Conform.Journal
import Conform.Number.Reading
import Conform.Settings
import Conform.Text.Blank
import Conform.Value.Access

/-!
Settings as values, and back. Reading is generous: truth values may be given as words or as 0 and
1, numbers as text. It goes on after an error, so that all errors are reported together. Sections
and fields that are absent have their defaults, and unknown ones count for nothing.
-/

namespace Conform

namespace Settings

inductive Cause where
  | notSection (model : String)
  | notBoolean
  | unclearBoolean
  | notInteger
  | unclearInteger
  | integerTooLong
  | fractional
  | notFinite
  | negative
  | notOneOf (first : String) (others : List String)
  /-- A text with lone halves of characters. -/
  | notUnicode
deriving DecidableEq, Repr

/-- The quoted choices, the last set off by a word. -/
def choices (first : String) : List String → String
  | [] => "'" ++ first ++ "'"
  | [last] => "'" ++ first ++ "' or '" ++ last ++ "'"
  | second :: others => "'" ++ first ++ "', " ++ choices second others

def Cause.message : Cause → String
  | notSection model => "Input should be a valid dictionary or instance of " ++ model
  | notBoolean => "Input should be a valid boolean"
  | unclearBoolean => "Input should be a valid boolean, unable to interpret input"
  | notInteger => "Input should be a valid integer"
  | unclearInteger => "Input should be a valid integer, unable to parse string as an integer"
  | integerTooLong => "Unable to parse input string as an integer, exceeded maximum size"
  | fractional => "Input should be a valid integer, got a number with a fractional part"
  | notFinite => "Input should be a finite number"
  | negative => "Input should be greater than or equal to 0"
  | notOneOf first others => "Input should be " ++ choices first others
  | notUnicode => "Input should be a valid string, unable to parse raw data as a unicode string"

/-- An error, at a section or at a field of one. -/
structure FieldError where
  path : List String
  cause : Cause
deriving DecidableEq, Repr

def FieldError.location (e : FieldError) : String := ".".intercalate e.path

/-- The text of a text or of bytes. -/
def textOf? : Value → Option (Option String)
  | .text s => some (some s)
  | .bytes bs => some (String.fromUTF8? ⟨bs.toArray⟩)
  | _ => none

def trueWords : List String := ["1", "on", "t", "true", "y", "yes"]

def falseWords : List String := ["0", "off", "f", "false", "n", "no"]

/-- A word for a truth value, in any case. -/
def wordBool? (s : String) : Option Bool :=
  let word := String.ofList (s.toList.map Char.toLower)
  if trueWords.contains word then some true
  else if falseWords.contains word then some false
  else none

/-- Whether a whole number has 64 bits with its sign. -/
def isWord64 (n : Int) : Bool := -(2 ^ (63 : Nat)) ≤ n && n < 2 ^ (63 : Nat)

def zeroOrOne (n : Int) : Except Cause Bool :=
  if n = 0 then .ok false
  else if n = 1 then .ok true
  else if isWord64 n then .error .unclearBoolean
  else .error .notBoolean

def readBool (v : Value) : Except Cause Bool :=
  match v, textOf? v with
  | .bool b, _ => .ok b
  | .brokenText _, _ => .error .notUnicode
  | _, some s =>
    match s.bind wordBool? with
    | some b => .ok b
    | none => .error .unclearBoolean
  | .int n, _ => zeroOrOne n
  | .namedInt _ _ n .., _ => zeroOrOne n
  | .float x, _ =>
    match x.value? with
    | some q => if Dyadic.isWhole q then zeroOrOne (Dyadic.floorInt q) else .error .notBoolean
    | none => .error .notBoolean
  | _, _ => .error .notBoolean

/-- What may stand around a number: blanks other than the information separators. -/
def isMargin (c : Char) : Bool := isBlank c && !(0x1C ≤ c.toNat && c.toNat ≤ 0x1F)

def trimMargin (cs : List Char) : List Char :=
  ((cs.dropWhile isMargin).reverse.dropWhile isMargin).reverse

/-- Drops zeros, among which underscores may stand, before a whole number; a zero before a point or
at the end stays. A sign may follow the zeros. -/
def dropZeros : List Char → Option (List Char)
  | '0' :: cs => go '0' cs
  | c :: cs => if c = '-' || (digit? c).isSome then some (c :: cs) else none
  | [] => none
where
  go (before : Char) : List Char → Option (List Char)
    | [] => some [before]
    | c :: cs =>
      if c = '0' || c = '_' then go c cs
      else if c = '.' then some (before :: c :: cs)
      else if c = '-' || (digit? c).isSome then some (c :: cs)
      else none

/-- Drops a point with zeros after it. -/
def dropFraction (cs : List Char) : List Char :=
  let (whole, fraction) := cs.span (· ≠ '.')
  let zeros := fraction.drop 1
  if !zeros.isEmpty && zeros.all (· = '0') then whole else cs

/-- Drops underscores that stand alone between other characters. -/
def dropUnderscores (cs : List Char) : List Char :=
  if (cs.splitOn '_').all fun g => !g.isEmpty then cs.filter (· ≠ '_') else cs

/-- A sign and digits of which the first is no zero, or a zero. At most 4300 digits are read. -/
def signedDigits (cs : List Char) : Except Cause Int :=
  let (negative, body) := match cs with
    | '-' :: body => (true, body)
    | _ => (false, cs)
  let (ds, rest) := spanDigits body
  match ds with
  | [] => .error .unclearInteger
  | d :: more =>
    if d = '0' && !more.isEmpty then .error .unclearInteger
    else if 4300 < ds.length then .error .integerTooLong
    else if !rest.isEmpty then .error .unclearInteger
    else .ok (if negative then -(digitsValue ds : Int) else digitsValue ds)

/-- A whole number as text. -/
def integerText (cs : List Char) : Except Cause Int :=
  let unsigned := match trimMargin cs with
    | '+' :: '-' :: _ => none
    | '+' :: body => some body
    | body => some body
  match unsigned.bind dropZeros with
  | some body => signedDigits (dropUnderscores (dropFraction body))
  | none => .error .unclearInteger

def readInt (v : Value) : Except Cause Int :=
  match v, textOf? v with
  | .bool b, _ => .ok (if b then 1 else 0)
  | .brokenText _, _ => .error .notUnicode
  | .int n, _ => .ok n
  | .namedInt _ _ n .., _ => .ok n
  | _, some s =>
    match s with
    | none => .error .unclearInteger
    | some s => integerText s.toList
  | .float x, _ =>
    match x.value? with
    | some q =>
      let n := Dyadic.floorInt q
      if !Dyadic.isWhole q then .error .fractional
      else if isWord64 n then .ok n
      else .error .integerTooLong
    | none => .error .notFinite
  | _, _ => .error .notInteger

def readSize (v : Value) : Except Cause Nat := do
  let n ← readInt v
  if n < 0 then throw .negative
  pure n.toNat

/-- The alternative of a text among the names of all. -/
def readChoice {α : Type} (name : α → String) (first : α) (others : List α) (s : Option String) :
    Except Cause α :=
  match (first :: others).find? fun a => some (name a) = s with
  | some a => .ok a
  | none => .error (.notOneOf (name first) (others.map name))

def readPolicy (v : Value) : Except Cause Schema.UnknownPolicy :=
  readChoice Schema.UnknownPolicy.name .accept [.reject] (textOf? v).join

/-- A text alone, and not bytes. -/
def plainText? : Value → Option String
  | .text s => some s
  | _ => none

/-- Capitals of ASCII letters, and of the one other letter that has one of them as its capital and
occurs in a name of a level. -/
def levelCapital (c : Char) : Char := if c = 'ı' then 'I' else c.toUpper

def readLevel (v : Value) : Except Cause LogLevel :=
  readChoice LogLevel.name .debug LogLevel.all.tail
    ((plainText? v).map fun s => String.ofList (s.toList.map levelCapital))

def readFormat (v : Value) : Except Cause LogFormat :=
  readChoice LogFormat.name .console [.json] (plainText? v)

/-- What goes on after errors; they are the notes. -/
abbrev Collected := Journal FieldError Empty

def field {α : Type} (group name : String) (es : List (Value × Value))
    (read : Value → Except Cause α) (default : α) : Collected α :=
  match Value.lookup (.text name) es with
  | none => pure default
  | some v =>
    match read v with
    | .ok a => pure a
    | .error cause => do
      .note ⟨[group, name], cause⟩
      pure default

/-- The entries of a section, none if it is absent. -/
def sectionEntries (name model : String) (es : List (Value × Value)) :
    Collected (List (Value × Value)) :=
  match Value.lookup (.text name) es with
  | none => pure []
  | some v =>
    match v.entries? with
    | some es => pure es
    | none => do
      .note ⟨[name], .notSection model⟩
      pure []

def readParser (es : List (Value × Value)) : Collected ParserSettings := do
  let es ← sectionEntries "parser" "ParserSettings" es
  let d : ParserSettings := {}
  let strictSyntax ← field "parser" "strict_syntax" es readBool d.strictSyntax
  let unknownTypes ← field "parser" "unknown_types" es readPolicy d.unknownTypes
  let cacheSize ← field "parser" "cache_size" es readSize d.cacheSize
  pure { strictSyntax, unknownTypes, cacheSize }

def readMatcher (es : List (Value × Value)) : Collected MatcherSettings := do
  let es ← sectionEntries "matcher" "MatcherSettings" es
  let d : MatcherSettings := {}
  let coerceDates ← field "matcher" "coerce_dates" es readBool d.coerceDates
  pure { coerceDates }

def readLogging (es : List (Value × Value)) : Collected LoggingSettings := do
  let es ← sectionEntries "logging" "LoggingSettings" es
  let d : LoggingSettings := {}
  let level ← field "logging" "level" es readLevel d.level
  let format ← field "logging" "format" es readFormat d.format
  pure { level, format }

/-- The settings, or every error in order. -/
def ofEntries (es : List (Value × Value)) : Except (List FieldError) Settings :=
  let reading : Collected Settings := do
    let parser ← readParser es
    let matcher ← readMatcher es
    let logging ← readLogging es
    pure { parser, matcher, logging }
  match reading.notes, reading.result with
  | [], .ok s => .ok s
  | errors, _ => .error errors

def toValue (s : Settings) : Value :=
  .ofFields [
    ("parser", .ofFields [
      ("strict_syntax", .bool s.parser.strictSyntax),
      ("unknown_types", .text s.parser.unknownTypes.name),
      ("cache_size", .int s.parser.cacheSize)]),
    ("matcher", .ofFields [("coerce_dates", .bool s.matcher.coerceDates)]),
    ("logging", .ofFields [
      ("level", .text s.logging.level.name),
      ("format", .text s.logging.format.name)])]

end Settings

end Conform
