import Conform.Value.Equality

/-!
The words for a value: its shape, as messages about schemas say it, and the name of its type.
-/

namespace Conform

/-- The shapes of values that messages tell apart. -/
inductive Shape where
  | undefined | null | boolean | number | string | date | array | function | object
deriving DecidableEq, Repr

def Shape.text : Shape → String
  | .undefined => "undefined"
  | .null => "null"
  | .boolean => "boolean"
  | .number => "number"
  | .string => "string"
  | .date => "Date"
  | .array => "array"
  | .function => "function"
  | .object => "object"

namespace Value

def shape : Value → Shape
  | undefined => .undefined
  | null => .null
  | bool _ => .boolean
  | int _ | namedInt .. | float _ => .number
  | text _ | brokenText _ => .string
  | moment _ => .date
  | list _ | tuple _ => .array
  | function _ | enumeration .. => .function
  | _ => .object

def typeName : Value → String
  | null => "NoneType"
  | undefined => "_Undefined"
  | bool _ => "bool"
  | int _ => "int"
  | float _ => "float"
  | complex .. => "complex"
  | text _ | brokenText _ => "str"
  | bytes _ => "bytes"
  | list _ => "list"
  | tuple _ => "tuple"
  | map _ => "dict"
  | frozenMap _ => "mappingproxy"
  | brokenMap _ => "BadMap"
  | record _ => "SimpleNamespace"
  | opaqueObject => "Opaque"
  | trap .. => "Trap"
  | function _ => "Fn"
  | moment _ => "datetime"
  | date _ => "date"
  | symbol type .. | namedInt type .. => type
  | enumeration .. => "EnumType"

/-- The name of the type with that of the library it comes from, where it has one. -/
def qualifiedTypeName : Value → String
  | moment _ => "datetime.datetime"
  | date _ => "datetime.date"
  | record _ => "types.SimpleNamespace"
  | v => v.typeName

end Value

end Conform
