import Conform.Value.Shape

/-!
What objects have from their class: methods, what is said about the class, and the parts of dates and
moments. A method is a function that goes by its name. What is no value here, such as a time zone, stands as
an object without fields.
-/

namespace Conform.Value

/-- The methods of every object. -/
def commonMethods : List String :=
  ["__delattr__", "__dir__", "__eq__", "__format__", "__ge__", "__getattribute__", "__getstate__",
   "__gt__", "__hash__", "__init__", "__init_subclass__", "__le__", "__lt__", "__ne__", "__new__",
   "__reduce__", "__reduce_ex__", "__repr__", "__setattr__", "__sizeof__", "__str__",
   "__subclasshook__"]

/-- The methods of lists and tuples. -/
def sequenceMethods : List String :=
  ["__add__", "__class_getitem__", "__contains__", "__getitem__", "__iter__", "__len__",
   "__mul__", "__rmul__", "count", "index"]

def listMethods : List String :=
  ["__delitem__", "__iadd__", "__imul__", "__reversed__", "__setitem__", "append", "clear",
   "copy", "extend", "insert", "pop", "remove", "reverse", "sort"]

def tupleMethods : List String := ["__getnewargs__"]

/-- The methods of dates and moments. -/
def dateMethods : List String :=
  ["__add__", "__radd__", "__rsub__", "__sub__", "ctime", "fromisocalendar", "fromisoformat",
   "fromordinal", "fromtimestamp", "isocalendar", "isoformat", "isoweekday", "replace",
   "strftime", "timetuple", "today", "toordinal", "weekday"]

def momentMethods : List String :=
  ["astimezone", "combine", "date", "dst", "now", "strptime", "time", "timestamp", "timetz",
   "tzname", "utcfromtimestamp", "utcnow", "utcoffset", "utctimetuple"]

/-- The methods that are not those of every object. -/
def ownMethods : Value → List String
  | .list _ => sequenceMethods ++ listMethods
  | .tuple _ => sequenceMethods ++ tupleMethods
  | .date _ => dateMethods
  | .moment _ => dateMethods ++ momentMethods
  | _ => []

/-- What is said of the class of a value. -/
def classText? : Value → Option String
  | .list _ => some ("Built-in mutable sequence.\n\n" ++
      "If no argument is given, the constructor creates a new empty list.\n" ++
      "The argument must be an iterable if specified.")
  | .tuple _ => some ("Built-in immutable sequence.\n\n" ++
      "If no argument is given, the constructor returns an empty tuple.\n" ++
      "If iterable is specified the tuple is initialized from iterable's items.\n\n" ++
      "If the argument is a tuple, the return value is the same object.")
  | .record _ => some "A simple attribute-based namespace.\n\nSimpleNamespace(**kwargs)"
  | .date _ => some "date(year, month, day) --> date object"
  | .moment _ => some (
      "datetime(year, month, day[, hour[, minute[, second[, microsecond[,tzinfo]]]]])\n\n" ++
      "The year, month and day arguments are required. tzinfo may be None, or an\n" ++
      "instance of a tzinfo subclass. The remaining arguments may be ints.\n")
  | _ => none

def dateParts (d : Date) : List (String × Value) :=
  [("year", .int d.year), ("month", .int d.month), ("day", .int d.day)]

def clockParts (c : Clock) : List (String × Value) :=
  [("hour", .int c.hour), ("minute", .int c.minute), ("second", .int c.second),
   ("microsecond", .int c.micro)]

def firstDate : Date := ⟨1, 1, 1⟩

def lastDate : Date := ⟨9999, 12, 31⟩

/-- What a class says about its values, or they about themselves. Lists and records have no hash. -/
def classFields : Value → List (String × Value)
  | .list _ | .record _ => [("__hash__", .null)]
  | .date d =>
    dateParts d ++ [("min", .date firstDate), ("max", .date lastDate), ("resolution", .opaqueObject)]
  | .moment m =>
    dateParts m.date ++ clockParts m.clock ++
      [("fold", .int 0), ("tzinfo", m.offset.elim .null fun _ => .opaqueObject),
       ("min", .moment ⟨firstDate, ⟨0, 0, 0, 0⟩, none⟩),
       ("max", .moment ⟨lastDate, ⟨23, 59, 59, 999999⟩, none⟩), ("resolution", .opaqueObject)]
  | _ => []

/-- All that a value has from its class, but for what its own fields cannot hide. -/
def inherited (v : Value) : List (String × Value) :=
  v.classFields ++ ("__doc__", v.classText?.elim .null .text) ::
    (v.ownMethods ++ commonMethods).map fun name => (name, .function name)

end Conform.Value
