import Conform.Number.Entered
import Conform.Text.Quoted

/-!
Why a YAML document cannot be read.
-/

namespace Conform.Yaml

inductive Failure where
  | unprintable (c : Char)
  /-- No token can be read. -/
  | token
  /-- A token stands in the wrong place. -/
  | layout
  /-- An alias has no anchor, or a second document follows. -/
  | reference
  /-- The contents do not fit their tag. -/
  | content
  | duplicateKey
  /-- A key that cannot be one has this type. -/
  | unhashable (type : String)
  /-- A pair stands twice in an ordered map. -/
  | repeatedPair
  | badInteger (base : Nat) (text : String)
  | badFloat (text : String)
  | tooManyDigits (count : Nat)
  /-- A number has no digits at all. -/
  | emptyNumber
  | badTruth (word : String)
  | badDate (reason : String)
  | dateOutOfRange
  | notCharacter (code : Nat)
  | unknownVersion (major minor : Nat)
  /-- A node contains itself. -/
  | endless
deriving DecidableEq, Repr

namespace Failure

/-- The name of the kind of a failure. -/
def kind : Failure → String
  | unprintable _ => "ReaderError"
  | token => "ScannerError"
  | layout => "ParserError"
  | reference => "ComposerError"
  | content => "ConstructorError"
  | duplicateKey => "DuplicateKeyError"
  | unhashable _ => "TypeError"
  | repeatedPair => "AssertionError"
  | badInteger .. | badFloat _ | tooManyDigits _ | badDate _ => "ValueError"
  | emptyNumber => "IndexError"
  | badTruth _ | unknownVersion .. => "KeyError"
  | dateOutOfRange => "OverflowError"
  | notCharacter code => if code < 2 ^ (31 : Nat) then "ValueError" else "OverflowError"
  | endless => "RecursionError"

def message : Failure → String
  | unprintable _ => "special characters are not allowed"
  | token => "while scanning for the next token"
  | layout => "while parsing a node"
  | reference => "found undefined alias or another document"
  | content => "could not determine a constructor for the tag"
  | duplicateKey => "found duplicate key"
  | unhashable type => "unhashable type: '" ++ type ++ "'"
  | repeatedPair => ""
  | badInteger base text =>
    "invalid literal for int() with base " ++ toString base ++ ": " ++ quoteText text
  | badFloat text => "could not convert string to float: " ++ quoteText text
  | tooManyDigits count => tooManyDigitsText count
  | emptyNumber => "string index out of range"
  | badTruth word => quoteText word
  | badDate reason => reason
  | dateOutOfRange => "date value out of range"
  | notCharacter code =>
    if code < 2 ^ (31 : Nat) then "chr() arg not in range(0x110000)"
    else "Python int too large to convert to C int"
  | unknownVersion major minor => "(" ++ toString major ++ ", " ++ toString minor ++ ")"
  | endless => "maximum recursion depth exceeded"

end Failure

end Conform.Yaml
