import Conform.Schema.Token

/-!
Matching braces, for characters and for tokens alike: the partner of an opening brace is the first
closing brace after it with as many opening as closing braces between the two.
-/

namespace Conform.Schema

inductive Brace where
  | opening
  | closing
  | neither
deriving DecidableEq, Repr

def charBrace : Char → Brace
  | '{' => .opening
  | '}' => .closing
  | _ => .neither

def tokenBrace (t : Token) : Brace :=
  match t.kind with
  | .openBrace => .opening
  | .closeBrace => .closing
  | _ => .neither

variable {α : Type}

/-- The index of the closing brace that ends `depth` inner pairs and the pair around them. -/
def closeIndex? (brace : α → Brace) : Nat → List α → Option Nat
  | _, [] => none
  | depth, x :: xs =>
    match brace x, depth with
    | .opening, _ => (closeIndex? brace (depth + 1) xs).map (· + 1)
    | .closing, 0 => some 0
    | .closing, d + 1 => (closeIndex? brace d xs).map (· + 1)
    | .neither, _ => (closeIndex? brace depth xs).map (· + 1)

/-- A position that lies before the start of the text, counted from its end. -/
inductive PositionError where
  | outOfRange
deriving DecidableEq, Repr

def PositionError.message : PositionError → String
  | .outOfRange => "string index out of range"

/-- The position of the brace that closes the one at `pos`, if there is one. A negative position
counts from the end of the text; the search then runs to the end and goes on from the front. -/
def matchingBrace (text : List Char) (pos : Int) : Except PositionError (Option Int) :=
  let first := pos + 1
  let found := fun (cs : List Char) => (closeIndex? charBrace 0 cs).map (fun i => first + i)
  if 0 ≤ first then .ok (found (text.drop first.toNat))
  else if first.natAbs ≤ text.length then
    .ok (found (text.drop (text.length - first.natAbs) ++ text))
  else .error .outOfRange

end Conform.Schema
