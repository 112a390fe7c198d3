import Conform.Value

/-!
What the library reports while it works. Every event but a traced call goes to the log.
-/

namespace Conform

inductive Event where
  /-- A predicate that carries a tag was called. -/
  | called (tag : String)
  /-- The innermost guard at work, and the kind and text of the fault that made it reject. -/
  | guardFault (guard : Value) (kind text : String)
  | builderCreated (hasRegistry : Bool)
  | pluginRegistered (name : String)
  | pluginReplaced (name : String)
  | implementersLoaded (count : Nat)
  /-- A segment of a schema text without a colon. -/
  | segmentSkipped (segment : String)
  /-- Text after the closing brace of a nested object. -/
  | contentDiscarded (content : String)
  | schemaParsed (properties : Nat) (strict : Bool)
  | parseFailed (message : String)
  | valueTooDeep (message : String)
  | textValidated (valid : Bool) (errors : Nat)

end Conform
