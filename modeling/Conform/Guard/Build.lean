import Conform.Guard.Verdict

/-!
Building guards. A guard that is built is well formed; whatever is wrong with its parts is
reported when it is built and not when it is asked.
-/

namespace Conform.Guard

inductive BuildError where
  /-- Declared fields that are no mapping. -/
  | fieldsNotMapping (typeName : String)
  | fieldNotCallable (key typeName : String)
  /-- A key or the name of a part that cannot be part of a guard's name. -/
  | partNotText (index : Nat) (typeName : String)
  | missingMembers (combinator : String) (missing : List String)
  | noRegistry (plugin : String)
  | unknownPlugin (plugin : String) (registered : List String)
  | fault (f : Fault)

def BuildError.message : BuildError → String
  | .fieldsNotMapping t =>
    "Invalid schema: must be a mapping of field name to guard, got " ++ t
  | .fieldNotCallable key t =>
    "Invalid validator for key \"" ++ key ++ "\": must be callable, got " ++ t
  | .partNotText i t =>
    "sequence item " ++ toString i ++ ": expected str instance, " ++ t ++ " found"
  | .missingMembers combinator missing =>
    "GuardBuilder." ++ combinator ++ "() missing " ++ toString missing.length ++
      " required positional argument" ++ (if missing.length = 1 then "" else "s") ++ ": " ++
      " and ".intercalate (missing.map fun m => "'" ++ m ++ "'")
  | .noRegistry p =>
    "Cannot build plugin guard '" ++ p ++
      "': builder has no plugin registry. Use create_guard(registry=...)."
  | .unknownPlugin p registered =>
    "Unknown plugin: '" ++ p ++ "'. Registered plugins: " ++
      (Value.list (registered.map .text)).display
  | .fault f => f.text

/-- The fields that `object` and `partialObject` are given: keys with checks, or any value. -/
inductive FieldSource where
  | fields (entries : List (Value × Check))
  | value (v : Value)

namespace FieldSource

/-- The declared fields: of equal keys the first place and the last check count. -/
def entries : FieldSource → Except BuildError (List (Value × Check))
  | fields es => .ok (es.foldl put [])
  | value (.map es) | value (.frozenMap es) => .ok (es.map fun e => (e.1, .constant e.2))
  | value (.brokenMap message) => .error (.fault (.ordinary .recursion message))
  | value v => .error (.fieldsNotMapping v.typeName)
where
  put (es : List (Value × Check)) (e : Value × Check) : List (Value × Check) :=
    if es.any (fun x => x.1.sameKey e.1) then
      es.map fun x => if x.1.sameKey e.1 then (x.1, e.2) else x
    else es ++ [e]

/-- What a check is called in messages about fields that cannot be called. -/
def typeNameOf : Check → String
  | .constant v => v.typeName
  | .predicate p => p.typeName
  | _ => "Guard"

/-- Every declared field has something that can be called. -/
def validate (es : List (Value × Check)) : Except BuildError Unit :=
  match es.find? fun e => !e.2.isCallable with
  | some e => do
    let key ← (e.1.said .usual).mapError .fault
    throw (.fieldNotCallable key (typeNameOf e.2))
  | none => .ok ()

/-- The fields under their names. -/
def named : Nat → List (Value × Check) → Except BuildError (List (String × Check))
  | _, [] => .ok []
  | i, (.text k, c) :: rest => (named (i + 1) rest).map ((k, c) :: ·)
  | i, (k, _) :: _ => .error (.partNotText i k.qualifiedTypeName)

def resolve (s : FieldSource) : Except BuildError (List (String × Check)) := do
  let es ← s.entries
  validate es
  named 0 es

end FieldSource

namespace Check

/-- Asking a part for its name can fail. -/
def requireName : Check → Except BuildError Unit
  | constant v@(.trap ..) => ((v.getAttribute "__name__").mapError .fault).map fun _ => ()
  | _ => .ok ()

def requireNames (cs : List Check) : Except BuildError Unit := cs.forM requireName

/-- So can writing the name into another one. -/
def requireSaid (c : Check) : Except BuildError Unit := do
  c.requireName
  let _ ← (c.label.said .usual).mapError .fault

/-- The names of parts that are joined have to be texts. -/
def requireTexts : Nat → List Value → Except BuildError Unit
  | _, [] => .ok ()
  | i, .text _ :: rest => requireTexts (i + 1) rest
  | i, v :: _ => .error (.partNotText i v.qualifiedTypeName)

def requireJoined (cs : List Check) : Except BuildError Unit := do
  requireNames cs
  requireTexts 0 (cs.map label)

def buildObject (s : FieldSource) : Except BuildError Check := object <$> s.resolve

def buildPartial (s : FieldSource) : Except BuildError Check := partialObject <$> s.resolve

def buildArray (item : Check) : Except BuildError Check := do
  item.requireSaid
  pure (array item)

def buildTuple (items : List Check) : Except BuildError Check := do
  requireJoined items
  pure (tuple items)

def buildRecord (key value : Check) : Except BuildError Check := do
  key.requireSaid
  value.requireSaid
  pure (record key value)

/-- A union has at least two members. -/
def buildUnion (members : List Check) : Except BuildError Check := do
  match members with
  | [] => throw (.missingMembers "union" ["first", "second"])
  | [_] => throw (.missingMembers "union" ["second"])
  | _ => requireJoined members
  pure (union members)

/-- An intersection has at least one member. -/
def buildIntersection (members : List Check) : Except BuildError Check := do
  if members.isEmpty then throw (.missingMembers "intersection" ["first"])
  requireJoined members
  pure (intersection members)

def buildRefined (base condition : Check) : Except BuildError Check := do
  base.requireSaid
  pure (refined base condition)

/-- The constant is part of the guard's name, as it is shown. -/
def buildLiteral (expected : Value) : Except BuildError Check := do
  let _ ← (expected.shown .usual).mapError .fault
  pure (literal expected)

/-- A guard around a check, under the check's name. -/
def buildCustom (c : Check) : Except BuildError Check := do
  c.requireName
  pure (named c.label c)

/-- A guard around a check, under a name of choice. -/
def wrap (name : Option String) (c : Check) : Check := named (.text (name.getD "custom")) c

/-- A guard as it is; around anything else a guard that bears its own name, or else the given
one. -/
def asGuard (name : Option String) (c : Check) : Check :=
  if c.isGuard then c else named (c.ownName?.getD (.text (name.getD "custom"))) c

def buildAsGuard (name : Option String) (c : Check) : Except BuildError Check := do
  c.requireName
  pure (c.asGuard name)

end Check

end Conform.Guard
