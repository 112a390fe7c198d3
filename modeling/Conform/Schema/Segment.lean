import Conform.Schema.Brace
import Conform.Schema.ParseError

/-!
A property list is cut at the semicolons outside all braces. What stands between two cuts is a
segment: some tokens, and the offset of whatever follows them.
-/

namespace Conform.Schema

structure Segment where
  tokens : List Token
  stop : Nat
deriving DecidableEq, Repr

/-- The offset of the first token, or of what follows if there is none. -/
def Segment.start (s : Segment) : Nat :=
  match s.tokens with
  | [] => s.stop
  | t :: _ => t.start

/-- The characters from the first token to the last, blanks between them included. -/
def spanText (source : List Char) (ts : List Token) : List Char :=
  match ts.head?, ts.getLast? with
  | some a, some z => (source.drop a.start).take (z.stop - a.start)
  | _, _ => []

/-- The segments that a semicolon ends, and the last one; strictly read, a brace without a partner
takes the place of the last. -/
abbrev Cut := List Segment × Except ParseError Segment

/-- Puts a token before the first segment of a cut. -/
def Cut.push (t : Token) : Cut → Cut
  | (s :: rest, last) => ({ s with tokens := t :: s.tokens } :: rest, last)
  | ([], .ok s) => ([], .ok { s with tokens := t :: s.tokens })
  | ([], .error e) => ([], .error e)

/-- Cuts the tokens of a property list that ends at offset `stop`. `depth` counts the braces around
the current token and `opened` holds the offsets of those without a partner so far, innermost
first. -/
def cut (strict : Bool) (stop : Nat) : Int → List Nat → List Token → Cut
  | _, opened, [] =>
    match strict, opened.getLast? with
    | true, some p => ([], .error (.malformed .unclosedOpen p))
    | _, _ => ([], .ok ⟨[], stop⟩)
  | depth, opened, t :: ts =>
    match t.kind with
    | .openBrace => (cut strict stop (depth + 1) (t.start :: opened) ts).push t
    | .closeBrace =>
      if opened.isEmpty && strict then ([], .error (.malformed .unmatchedClose t.start))
      else (cut strict stop (depth - 1) opened.tail ts).push t
    | .semicolon =>
      if depth = 0 then
        let rest := cut strict stop depth opened ts
        (⟨[], t.start⟩ :: rest.1, rest.2)
      else (cut strict stop depth opened ts).push t
    | _ => (cut strict stop depth opened ts).push t

end Conform.Schema
