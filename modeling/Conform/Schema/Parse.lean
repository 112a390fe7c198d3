import Conform.Event
import Conform.Journal
import Conform.Schema.Room
import Conform.Schema.Segment
import Conform.Schema.Tree

/-!
Reading schema text. Lenient reading makes the best of any text: it skips what has no colon, keeps
an unbalanced type as a name, and drops what follows a nested object. Strict reading refuses
all of these. Either way a type name outside the vocabulary is an error if unknown names are
rejected.
-/

namespace Conform.Schema

/-- `room` bounds how deep types may be nested. -/
structure ParseOptions where
  strict : Bool := false
  unknown : UnknownPolicy := .accept
  known : List String := []
  room : Room := .ofFrames 992

/-- Reading leaves events behind, and may fail. -/
abbrev Reading := Journal Event ParseError

namespace ParseOptions

variable (o : ParseOptions)

def isKnown (name : String) : Bool := builtinNames.contains name || o.known.contains name

def refuse {α : Type} (issue : Issue) (position : Nat) : Reading α :=
  .fail (.malformed issue position)

/-- A type name, as it stands in the text. -/
def named (name : List Char) (position : Nat) : Reading TypeExpr :=
  let name := String.ofList name
  if o.unknown = .reject && !o.isKnown name then refuse (.unknownType name) position
  else pure (.named name)

/-- Strictly read, a name consists of text tokens. -/
def checkName (start : Nat) (name : List Char) (ts : List Token) : Reading Unit :=
  if name.isEmpty then refuse .emptyName start
  else
    let bare := if ts.getLast?.any (·.kind = .question) then ts.dropLast else ts
    match bare.find? (·.kind ≠ .text) with
    | some t => refuse (.unexpectedInName (String.ofList t.text)) t.start
    | none => pure ()

variable (source : List Char) (typeOf : Segment → Reading TypeExpr)

/-- Reads one segment into the definition so far. Blank segments count for nothing. -/
def addProperty (sofar : Definition) (s : Segment) : Reading Definition :=
  if s.tokens.isEmpty then pure sofar
  else
    let before := s.tokens.takeWhile (·.kind ≠ .colon)
    match s.tokens.dropWhile (·.kind ≠ .colon) with
    | [] =>
      let text := String.ofList (spanText source s.tokens)
      if o.strict then refuse (.missingColon text) s.start
      else do
        .note (.segmentSkipped text)
        pure sofar
    | _ :: after => do
      let written := spanText source before
      let optional := written.getLast? = some '?'
      let chars := if optional then trim written.dropLast else written
      let name := String.ofList chars
      if o.strict then
        checkName s.start chars before
        if Assoc.contains name sofar then refuse (.duplicateName name) s.start
      let type ← typeOf ⟨after, s.stop⟩
      pure (Assoc.upsert name ⟨type, optional⟩ sofar)

/-- Reads the properties of a segment list in order. -/
def addProperties (sofar : Definition) : List Segment → Reading Definition
  | [] => pure sofar
  | s :: rest => do addProperties (← o.addProperty source typeOf sofar s) rest

/-- A property list: everything between two braces, or a whole text. -/
def properties (s : Segment) : Reading Definition := do
  let pieces := cut o.strict s.stop 0 [] s.tokens
  let sofar ← o.addProperties source typeOf [] pieces.1
  o.addProperty source typeOf sofar (← .ofExcept pieces.2)

/-- A type, as far as there is room for it and for the types inside it. -/
def typeExpr : Room → Segment → Reading TypeExpr
  | .spent, _ => .fail .nestedTooDeeply
  | .free inside, s =>
    match s.tokens.getLast? with
    | none => if o.strict then refuse .missingType s.start else o.named [] s.start
    | some last =>
      if last.kind = .arraySuffix then
        .array <$> typeExpr (inside .item) ⟨s.tokens.dropLast, last.start⟩
      else
        let before := s.tokens.takeWhile (·.kind ≠ .openBrace)
        match s.tokens.dropWhile (·.kind ≠ .openBrace) with
        | [] => o.named (spanText source s.tokens) s.start
        | opening :: rest =>
          match closeIndex? tokenBrace 0 rest with
          | none =>
            if o.strict then refuse .unclosedOpen opening.start
            else o.named (spanText source s.tokens) s.start
          | some i => do
            let after := rest.drop (i + 1)
            if o.strict && !before.isEmpty then
              refuse (.contentBefore (String.ofList (spanText source before))) s.start
            if !after.isEmpty then
              let content := String.ofList (spanText source after)
              if o.strict then refuse (.contentAfter content) (Segment.mk after s.stop).start
              else .note (.contentDiscarded content)
            let stop := (Segment.mk (rest.drop i) s.stop).start
            .object <$> o.properties source (typeExpr (inside .property)) ⟨rest.take i, stop⟩

/-- The tokens of the outermost property list. A pair of braces around the whole text is not part
of it; strictly read, the two must be partners. -/
def body : Segment :=
  let ts := lexemes 0 source
  let whole : Segment := ⟨ts, source.length⟩
  match ts with
  | [] => whole
  | opening :: rest =>
    match rest.getLast? with
    | none => whole
    | some closing =>
      if opening.kind = .openBrace && closing.kind = .closeBrace &&
          (!o.strict || closeIndex? tokenBrace 0 rest = some (rest.length - 1)) then
        ⟨rest.dropLast, closing.start⟩
      else whole

/-- Reads a whole text. Strictly read, it declares at least one property. -/
def parse (text : String) : Reading Definition := do
  let source := text.toList
  let definition ← o.properties source (o.typeExpr source o.room) (o.body source)
  if o.strict && definition.isEmpty then refuse .noProperties 0
  .note (.schemaParsed definition.length o.strict)
  pure definition

end ParseOptions

end Conform.Schema
