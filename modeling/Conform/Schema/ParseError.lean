/-!
Why a schema text cannot be read, and where. Each issue quotes the piece of the text that begins at
the offset it is reported with.
-/

namespace Conform.Schema

inductive Issue where
  | noProperties
  | unmatchedClose
  | unclosedOpen
  | missingColon (segment : String)
  | emptyName
  | duplicateName (name : String)
  | unexpectedInName (content : String)
  | missingType
  | contentBefore (content : String)
  | contentAfter (content : String)
  | unknownType (name : String)
deriving DecidableEq, Repr

def Issue.message : Issue → String
  | .noProperties => "Schema defines no properties"
  | .unmatchedClose => "Unmatched '\x7d'"
  | .unclosedOpen => "Unclosed '\x7b'"
  | .missingColon s => "Expected ':' in property '" ++ s ++ "'"
  | .emptyName => "Empty property name"
  | .duplicateName n => "Duplicate property '" ++ n ++ "'"
  | .unexpectedInName s => "Unexpected '" ++ s ++ "' in property name"
  | .missingType => "Missing type for property"
  | .contentBefore s => "Unexpected content before nested object: '" ++ s ++ "'"
  | .contentAfter s => "Unexpected content after nested object: '" ++ s ++ "'"
  | .unknownType n => "Unknown type '" ++ n ++ "'"

/-- A message, and the offset it is about where there is one. -/
def located (message : String) : Option Int → String
  | none => message
  | some p => message ++ " (at offset " ++ toString p ++ ")"

inductive ParseError where
  | malformed (issue : Issue) (position : Nat)
  /-- Types nested deeper than there is room for. -/
  | nestedTooDeeply
deriving DecidableEq, Repr

/-- The interpreter words its fault about the nesting after the place where it ran out of room; only the
words that all places share stand here. -/
def ParseError.message : ParseError → String
  | .malformed issue p => located issue.message (some p)
  | .nestedTooDeeply => "maximum recursion depth exceeded"

end Conform.Schema
