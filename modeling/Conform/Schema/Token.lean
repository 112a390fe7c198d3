import Conform.Text.Blank

/-!
The tokens of schema text: the five structural characters, the array suffix `[]`, and maximal runs
of anything else that is not blank. Every text has exactly one list of tokens.
-/

namespace Conform.Schema

inductive TokenKind where
  | openBrace
  | closeBrace
  | semicolon
  | colon
  | question
  | arraySuffix
  | text
  | eof
deriving DecidableEq, Repr

/-- A token covers the characters from `start` up to, and not including, `stop`. -/
structure Token where
  kind : TokenKind
  text : List Char
  start : Nat
deriving DecidableEq, Repr

def Token.stop (t : Token) : Nat := t.start + t.text.length

/-- The characters that are tokens on their own. -/
def structural? : Char → Option TokenKind
  | '{' => some .openBrace
  | '}' => some .closeBrace
  | ';' => some .semicolon
  | ':' => some .colon
  | '?' => some .question
  | _ => none

/-- Puts a text character at offset `n` before the tokens that follow it: it belongs to a text
token that begins right after it, and is a token of its own otherwise. -/
def glue (c : Char) (n : Nat) : List Token → List Token
  | ⟨.text, cs, start⟩ :: rest =>
    if start = n + 1 then ⟨.text, c :: cs, n⟩ :: rest
    else ⟨.text, [c], n⟩ :: ⟨.text, cs, start⟩ :: rest
  | ts => ⟨.text, [c], n⟩ :: ts

/-- The tokens of a text that begins at offset `n`, without the end marker. -/
def lexemes (n : Nat) : List Char → List Token
  | [] => []
  | '[' :: ']' :: rest => ⟨.arraySuffix, ['[', ']'], n⟩ :: lexemes (n + 2) rest
  | c :: rest =>
    if isBlank c then lexemes (n + 1) rest
    else match structural? c with
      | some k => ⟨k, [c], n⟩ :: lexemes (n + 1) rest
      | none => glue c n (lexemes (n + 1) rest)

/-- The tokens of a text, and an end marker at its length. -/
def tokenize (source : List Char) : List Token :=
  lexemes 0 source ++ [⟨.eof, [], source.length⟩]

end Conform.Schema
