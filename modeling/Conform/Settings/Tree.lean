import Conform.Json.Reader
import Conform.Text.Blank
import Conform.Value.Access
import Conform.Value.Display

/-!
Trees of settings, of which one may be put over another. Beside values a tree holds orders, which
say what becomes of the setting below them, and templates, which are filled in at the end.
-/

namespace Conform

/-- What the text of a filled template is turned into. -/
inductive Cast where
  | text | integer | number | truth | json
deriving DecidableEq, Repr

inductive Template where
  /-- A text with fields in braces. -/
  | fields (text : String)
  /-- A program in a language for templates. -/
  | program (text : String)
deriving DecidableEq, Repr

inductive Setting where
  | plain (v : Value)
  | group (entries : List (Value × Setting))
  | items (xs : List Setting)
  /-- Takes the setting below away. -/
  | removal
  /-- Stands in place of the setting below, and is not merged with it. -/
  | replacement (s : Setting)
  /-- Is merged with the setting below. -/
  | addition (s : Setting)
  | template (t : Template) (cast : Option Cast)
  /-- An order that no setting of this program follows. -/
  | other

namespace Setting

abbrev Entries := List (Value × Setting)

mutual

def ofValue : Value → Setting
  | .map es => group (ofEntries es)
  | .list xs | .tuple xs => items (ofValues xs)
  | v => plain v

def ofEntries : List (Value × Value) → Entries
  | [] => []
  | (k, v) :: es => (k, ofValue v) :: ofEntries es

def ofValues : List Value → List Setting
  | [] => []
  | v :: vs => ofValue v :: ofValues vs

end

def get? (k : Value) (es : Entries) : Option Setting :=
  (es.find? fun e => k.sameKey e.1).map (·.2)

/-- Puts a setting under a key: in place if the key is there, at the end if it is new. -/
def put (k : Value) (s : Setting) : Entries → Entries
  | [] => [(k, s)]
  | e :: es => if k.sameKey e.1 then (e.1, s) :: es else e :: put k s es

def erase (k : Value) (es : Entries) : Entries := es.filter fun e => !k.sameKey e.1

/-- What counts as nothing there. -/
def isBlank : Setting → Bool
  | plain v => !v.truthy
  | group es => es.isEmpty
  | items xs => xs.isEmpty
  | _ => false

def lowerChar (c : Char) : Char := if c = '\u212a' then 'k' else c.toLower

/-- Small letters: those of ASCII, and of the one other letter that has one of them. -/
def lower (s : String) : String := String.ofList (s.toList.map lowerChar)

def upperChar (c : Char) : Char :=
  if c = 'ı' then 'I' else if c = 'ſ' then 'S' else c.toUpper

/-- Capitals: those of ASCII letters, and of the two others that have one of them. -/
def upper (s : String) : String := String.ofList (s.toList.map upperChar)

def spaceAsUnderscore (s : String) : String :=
  String.ofList (s.toList.map fun c => if c = ' ' then '_' else c)

/-- The key of an entry that a name stands for in any case, with a blank for an underscore or not.
The search ends at a key that is no text. -/
def likeKey? (name : String) : Entries → Option Value
  | [] => none
  | (.text k, _) :: es =>
    if lower k = lower name || lower (spaceAsUnderscore k) = lower name then some (.text k)
    else likeKey? name es
  | _ :: _ => none

/-- The key that a key stands for among entries. -/
def matchingKey? (k : Value) (es : Entries) : Option Value :=
  match k with
  | .text name => if (get? k es).isSome then some k else likeKey? name es
  | k => some k

/-- Gives the entries above the keys that those below have; they move to the end. -/
def alignKeys (below above : Entries) : Entries :=
  above.foldl (fun es e =>
    match (matchingKey? e.1 below).filter Value.truthy with
    | some k => erase k (erase e.1 es) ++ [(k, (get? e.1 es).getD e.2)]
    | none => es) above

/-- The entry that says whether a group is merged. -/
def mergeKey : Value := .text "dynaconf_merge"

/-- Whether a group is to stand alone. -/
def standsAlone (es : Entries) : Bool := (get? mergeKey es).any isBlank

/-- Orders that find nothing below. -/
def settle (es : Entries) : Entries :=
  es.filterMap fun (k, s) =>
    match s with
    | removal => none
    | replacement s | addition s => some (k, s)
    | s => some (k, s)

mutual

/-- Puts a setting over another one: groups are merged, lists follow each other, and all else is
replaced. -/
def overlay : Setting → Setting → Setting
  | group below, group above =>
    let above := alignKeys below above
    let merged := if standsAlone above then above else overlayEntries below (erase mergeKey above)
    group (settle (erase mergeKey merged))
  | items below, items above => items (below ++ above)
  | _, above => above

def overlayEntries : Entries → Entries → Entries
  | [], above => above
  | (k, below) :: es, above =>
    overlayEntries es <|
      match get? k above with
      | none => above ++ [(k, below)]
      | some removal => erase k above
      | some (replacement s) => put k s above
      | some (addition s) => put k (overlay below s) above
      | some s => put k (overlay below s) above

end

/-- The group that holds a setting at a path and nothing else. -/
def branch (s : Setting) : List String → Setting
  | [] => s
  | name :: path => group [(.text name, branch s path)]

/-- Takes the setting at a path away. -/
def eraseAt : List String → Entries → Entries
  | [], es => es
  | name :: path, es =>
    match matchingKey? (.text name) es with
    | none => es
    | some k =>
      if path.isEmpty then erase k es
      else match get? k es with
        | some (group inner) => put k (group (eraseAt path inner)) es
        | _ => es

end Setting

end Conform
