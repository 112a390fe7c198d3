import Conform.Guard.Build
import Conform.Text.Blank
import Conform.Value.Access

/-!
Plugins are named checks; a registry holds them in order of first registration. A name that is
registered again keeps its place and takes the new plugin; nothing is ever removed. Implementers
are registered once each, and only a new one is asked for its plugins.
-/

namespace Conform

open Guard

structure Plugin where
  name : String
  validate : Check
  description : String
  /-- Plugins with the same number are one thing; a plugin without one is a thing of its own. -/
  number : Option Nat := none

/-- The two are one thing. -/
def Plugin.is (a b : Plugin) : Bool := a.number.isSome && a.number == b.number

inductive RegistryError where
  | badName (name : Value)
  | notCallable (plugin typeName : String)
  | notPlugin (typeName : String)
  | implementerTwice
  | build (e : BuildError)

def RegistryError.message : RegistryError → String
  | .badName v => "Plugin name must be a non-empty string, got " ++ v.display
  | .notCallable p t => "Plugin '" ++ p ++ "' must define a callable 'validate', got " ++ t
  | .notPlugin t =>
    "Expected a Plugin, got " ++ t ++ ". Wrap guards as Plugin(name=..., validate=...)."
  | .implementerTwice => "Plugin already registered"
  | .build e => e.message

/-- A plugin has a name that is not blank, and something to call. -/
def Plugin.make (name : Value) (validate : Check) (description : String) :
    Except RegistryError Plugin :=
  match name with
  | .text n =>
    if (trim n.toList).isEmpty then .error (refuse name)
    else if validate.isCallable then .ok { name := n, validate, description }
    else .error (.notCallable n (FieldSource.typeNameOf validate))
  | _ => .error (refuse name)
where
  refuse (name : Value) : RegistryError :=
    match name.shown .usual with
    | .ok _ => .badName name
    | .error fault => .build (.fault fault)

/-- Plugins are equal if they are one thing, or if their names and checks are equal. Only the
primitive guards are shared; any other check is a thing of its own. -/
def Plugin.same (a b : Plugin) : Bool :=
  a.is b || a.name == b.name &&
    match a.validate, b.validate with
    | .primitive p, .primitive q => p == q
    | _, _ => false

inductive ImplementerId where
  | builtin
  | labelled (label : String)
deriving DecidableEq, Repr

/-- What an implementer hands over: plugins, or things that are none. -/
inductive Supplied where
  | plugin (p : Plugin)
  | other (typeName : String)

structure Implementer where
  id : ImplementerId
  supply : Except RegistryError (List Supplied)

structure Registry where
  plugins : List (String × Plugin) := []
  implementers : List Implementer := []

/-- A registry after an operation, what the operation reported, and how it ended. -/
structure Change (α : Type) where
  registry : Registry
  events : List Event
  result : Except RegistryError α

namespace Registry

def get? (r : Registry) (name : String) : Option Plugin := Assoc.get? name r.plugins

def names (r : Registry) : List String := Assoc.keys r.plugins

def contains (r : Registry) (name : String) : Bool := Assoc.contains name r.plugins

/-- Whether a value is the name of a plugin. -/
def containsKey (r : Registry) (key : Value) : Except Fault Bool := do
  key.requireKey
  pure (match key with
    | .text name => r.contains name
    | _ => false)

def size (r : Registry) : Nat := r.plugins.length

def put (r : Registry) (p : Plugin) : Registry :=
  { r with plugins := Assoc.upsert p.name p r.plugins }

/-- A plugin that takes its own place replaces nothing. -/
def putEvent (r : Registry) (p : Plugin) : Event :=
  match r.get? p.name with
  | some q => if q.is p then .pluginRegistered p.name else .pluginReplaced p.name
  | none => .pluginRegistered p.name

/-- Registers what is supplied, in order, up to the first thing that is no plugin. -/
def register (r : Registry) : List Supplied → Change (List Plugin)
  | [] => ⟨r, [], .ok []⟩
  | .other typeName :: _ => ⟨r, [], .error (.notPlugin typeName)⟩
  | .plugin p :: rest =>
    let c := register (r.put p) rest
    ⟨c.registry, r.putEvent p :: c.events, c.result.map (p :: ·)⟩

/-- Registering takes no name away. -/
theorem mem_names_register {r : Registry} {name : String} (items : List Supplied)
    (h : name ∈ r.names) : name ∈ (r.register items).registry.names := by
  induction items generalizing r with
  | nil => exact h
  | cons item items ih =>
    cases item with
    | other typeName => exact h
    | plugin p => exact ih (r := r.put p) (Assoc.mem_keys_upsert h)

def isRegistered (r : Registry) (id : ImplementerId) : Bool := r.implementers.any (·.id == id)

/-- Asks the implementers that are not left out for what they supply, the latest first. A failure
ends the round. -/
def callHooks (r : Registry) (leftOut : List ImplementerId) :
    Except RegistryError (List (List Supplied)) :=
  (r.implementers.reverse.filter fun i => !leftOut.contains i.id).mapM (·.supply)

/-- Registers what the wanted implementers supply, in the order in which these were registered. -/
def collectFrom (r : Registry) (wanted : List ImplementerId) : Change (List Plugin) :=
  let others := (r.implementers.map (·.id)).filter fun id => !wanted.contains id
  match r.callHooks others with
  | .error e => ⟨r, [], .error e⟩
  | .ok supplies => r.register supplies.reverse.flatten

def join (r : Registry) (i : Implementer) : Registry :=
  { r with implementers := r.implementers ++ [i] }

/-- Registers an implementer and the plugins that it supplies. It stays registered even if these
fail. -/
def registerHooks (r : Registry) (i : Implementer) : Change (List Plugin) :=
  if r.isRegistered i.id then ⟨r, [], .error .implementerTwice⟩
  else (r.join i).collectFrom [i.id]

/-- The primitive guards that are also plugins, with what is said about them. -/
def builtinTable : List (Primitive × String) :=
  [(.email, "Address of the form local@domain.tld"),
   (.url, "Absolute URL (WHATWG parsing rules)"),
   (.uuid, "UUID, versions 1-5"),
   (.iso8601Date, "ISO 8601 date or timestamp string"),
   (.nonEmptyString, "String with at least one character"),
   (.integer, "Whole number"),
   (.positiveNumber, "Finite number greater than zero"),
   (.negativeNumber, "Finite number less than zero")]

def builtinPlugins : List Plugin := builtinTable.map fun (p, d) => ⟨p.name, .primitive p, d, none⟩

def builtinImplementer : Implementer := ⟨.builtin, .ok (builtinPlugins.map .plugin)⟩

/-- Registers the built-in plugins; a second time nothing happens. -/
def registerBuiltin (r : Registry) : Change (List Plugin) :=
  if r.isRegistered .builtin then ⟨r, [], .ok []⟩
  else r.registerHooks builtinImplementer

/-- Registers the implementers that are installed: none are. -/
def loadInstalled (r : Registry) : Change (List Plugin) :=
  let c := r.collectFrom []
  { c with events := .implementersLoaded 0 :: c.events }

/-- The registry of a fresh start: built-in and installed plugins. -/
def standard : Change (List Plugin) :=
  let builtin := registerBuiltin {}
  let c := builtin.registry.loadInstalled
  ⟨c.registry, builtin.events ++ c.events, c.result⟩

end Registry

/-- The guard of a plugin. It stays what it is when the name is registered again. -/
def Guard.Check.buildPlugin (r : Option Registry) (name : String) : Except BuildError Check :=
  match r with
  | none => .error (.noRegistry name)
  | some r =>
    match r.get? name with
    | none => .error (.unknownPlugin name r.names)
    | some p => .ok (.named (.text ("plugin[" ++ name ++ "]")) p.validate)

end Conform
