import Conform.Assoc
import Conform.Number.Text
import Conform.Text.Quoted
import Conform.Time.Text
import Conform.Value

/-!
Values as they are shown in messages: texts quoted, numbers by their shortest decimal, containers
by their parts. Some values cannot be shown.
-/

namespace Conform.Value

/-- The parts of a complex number: whole parts are written without a fraction. -/
def partText (x : Binary64) : String :=
  let s := plainFloat.text x
  if s.endsWith ".0" then (s.dropEnd 2).toString else s

def complexText (re im : Binary64) : String :=
  match re with
  | .finite .zero => partText im ++ "j"
  | _ =>
    let imaginary := partText im
    "(" ++ partText re ++ (if imaginary.startsWith "-" then "" else "+") ++ imaginary ++ "j)"

def symbolText (type name payload : String) : String :=
  "<" ++ type ++ "." ++ name ++ ": " ++ payload ++ ">"

mutual

def display : Value → String
  | .null => "None"
  | .undefined => "UNDEFINED"
  | .bool b => if b then "True" else "False"
  | .int n => toString n
  | .float x => plainFloat.text x
  | .complex re im => complexText re im
  | .text s | .brokenText s => quoteText s
  | .bytes bs => quoteBytes bs
  | .list xs => "[" ++ commaSeparated (displayAll xs) ++ "]"
  | .tuple [x] => "(" ++ display x ++ ",)"
  | .tuple xs => "(" ++ commaSeparated (displayAll xs) ++ ")"
  | .map es => "\x7b" ++ commaSeparated (displayEntries es) ++ "\x7d"
  | .frozenMap es => "mappingproxy(\x7b" ++ commaSeparated (displayEntries es) ++ "\x7d)"
  | .brokenMap _ => "BadMap()"
  | .record fs => "namespace(" ++ commaSeparated (displayFields fs) ++ ")"
  | .opaqueObject => "Opaque()"
  | .trap .. => "Trap()"
  | .function name => "<function " ++ name ++ ">"
  | .moment m => m.display
  | .date d => d.display
  | .symbol type name payload .. => symbolText type name (display payload)
  | .namedInt type name n .. => symbolText type name (toString n)
  | .enumeration name .. => "<enum " ++ quoteText name ++ ">"

def displayAll : List Value → List String
  | [] => []
  | x :: xs => display x :: displayAll xs

def displayEntries : List (Value × Value) → List String
  | [] => []
  | (k, v) :: es => (display k ++ ": " ++ display v) :: displayEntries es

def displayFields : List (String × Value) → List String
  | [] => []
  | (k, v) :: fs => (k ++ "=" ++ display v) :: displayFields fs

end

/-- A value inside a sentence: texts, dates and constants without their wrapping. -/
def plain : Value → String
  | .text s | .brokenText s => s
  | .moment m => m.date.iso ++ " " ++ m.clock.iso ++ m.offset.elim "" offsetIso
  | .date d => d.iso
  | .symbol type name .. => type ++ "." ++ name
  | .namedInt _ _ n .. => toString n
  | v => v.display

/-- What the machine's stack leaves for values inside one another that are to be shown: nothing, or room
for one value, and inside it for its parts. -/
inductive Depth where
  | spent
  | free (inside : Value → Depth)

/-- Room for `levels` values inside one another. -/
def Depth.ofLevels : Nat → Depth
  | 0 => .spent
  | levels + 1 => .free fun _ => ofLevels levels

/-- The room that is usual. -/
def Depth.usual : Depth := .ofLevels 980

def tooDeep : Fault := .ordinary .recursion "maximum recursion depth exceeded"

/-- Whole numbers are written with at most this many digits. -/
def maxDigits : Nat := 4300

def tooLong : Fault :=
  .ordinary (.other "ValueError") ("Exceeds the limit (" ++ toString maxDigits ++
    " digits) for integer string conversion; use sys.set_int_max_str_digits() to increase the limit")

def unwritten? (n : Int) : Option Fault := if n.natAbs < 10 ^ maxDigits then none else some tooLong

mutual

/-- What keeps a value from being shown: the first part of it that cannot be. -/
def unshown? : Depth → Value → Option Fault
  | .spent, _ => some tooDeep
  | .free _, .int n | .free _, .namedInt _ _ n .. => unwritten? n
  | .free inside, v@(.list xs) | .free inside, v@(.tuple xs) => unshownIn? (inside v) xs
  | .free inside, v@(.map es) | .free inside, v@(.frozenMap es) => unshownEntries? (inside v) es
  | .free inside, v@(.record fs) => unshownFields? (inside v) fs
  | .free inside, v@(.symbol _ _ payload ..) => unshown? (inside v) payload
  | .free _, .trap _ t => t.display.map Complaint.fault
  | .free _, _ => none

def unshownIn? : Depth → List Value → Option Fault
  | _, [] => none
  | d, x :: xs => (unshown? d x).or (unshownIn? d xs)

def unshownEntries? : Depth → List (Value × Value) → Option Fault
  | _, [] => none
  | d, (k, v) :: es => ((unshown? d k).or (unshown? d v)).or (unshownEntries? d es)

def unshownFields? : Depth → List (String × Value) → Option Fault
  | _, [] => none
  | d, (_, v) :: fs => (unshown? d v).or (unshownFields? d fs)

end

/-- The value as it is shown, if it can be. -/
def shown (d : Depth) (v : Value) : Except Fault String :=
  match unshown? d v with
  | some fault => .error fault
  | none => .ok v.display

/-- The value inside a sentence, if it can be written there. -/
def said (d : Depth) (v : Value) : Except Fault String :=
  match v with
  | .text _ | .brokenText _ | .moment _ | .date _ | .symbol .. => .ok v.plain
  | v => (v.shown d).map fun _ => v.plain

/-- The name that a value bears itself: a function, an enumeration, or an object with a field for
it. -/
def ownName? : Value → Option Value
  | .function name | .enumeration name .. => some (.text name)
  | .record fs => Assoc.get? "__name__" fs
  | .trap fs t => if Assoc.contains "__name__" t.unreadable then none else Assoc.get? "__name__" fs
  | _ => none

end Conform.Value
