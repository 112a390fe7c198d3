import Conform.Text.Format
import Conform.Url
import Conform.Value

/-!
The table of named guards over primitive and common shapes. Each accepts or rejects every value
and never fails.
-/

namespace Conform.Guard

inductive Primitive where
  | string | number | boolean | null | undefined | date | bigint | symbol | function | object
  | integer | positiveNumber | negativeNumber | nonEmptyString | email | url | uuid | iso8601Date
deriving DecidableEq, Repr

namespace Primitive

/-- The table, in order. -/
def all : List Primitive :=
  [string, number, boolean, null, undefined, date, bigint, symbol, function, object, integer,
    positiveNumber, negativeNumber, nonEmptyString, email, url, uuid, iso8601Date]

def name : Primitive → String
  | string => "string"
  | number => "number"
  | boolean => "boolean"
  | null => "null"
  | undefined => "undefined"
  | date => "date"
  | bigint => "bigint"
  | symbol => "symbol"
  | function => "function"
  | object => "object"
  | integer => "integer"
  | positiveNumber => "positive_number"
  | negativeNumber => "negative_number"
  | nonEmptyString => "non_empty_string"
  | email => "email"
  | url => "url"
  | uuid => "uuid"
  | iso8601Date => "iso8601_date"

def ofName? (n : String) : Option Primitive := all.find? (·.name = n)

/-- A text of which `ok` holds; `broken` says whether it may be a broken one. -/
def isText (broken : Bool) (ok : String → Bool) : Value → Bool
  | .text s => ok s
  | .brokenText s => broken && ok s
  | _ => false

/-- The exact value of a finite number that is no truth value. -/
def realValue? : Value → Option Dyadic
  | .int n | .namedInt _ _ n .. => some (Dyadic.ofInt n)
  | .float x => x.value?
  | _ => none

def accepts : Primitive → Value → Bool
  | string, v => isText true (fun _ => true) v
  | number, v => v.isNumber
  | boolean, .bool _ => true
  | null, .null => true
  | undefined, .undefined => true
  | date, .moment _ => true
  | bigint, v => v.int?.isSome
  | symbol, .symbol .. => true
  | symbol, .namedInt .. => true
  | function, v => v.isCallable
  | object, v => v.isObject
  | integer, v => v.int?.isSome || (v.isNumber && (realValue? v).any Dyadic.isWhole)
  | positiveNumber, v => (realValue? v).any (0 < ·)
  | negativeNumber, v => (realValue? v).any (· < 0)
  | nonEmptyString, v => isText true (· ≠ "") v
  | email, v => isText true isEmail v
  | url, v => isText false isUrl v
  | uuid, v => isText false isUuid v
  | iso8601Date, v => isText false isIsoDate v
  | _, _ => false

end Primitive

end Conform.Guard
