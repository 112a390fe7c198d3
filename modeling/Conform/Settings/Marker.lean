import Conform.Settings.Tree
import Conform.Toml

/-!
Texts that begin with a marker, such as an at sign and `int`: the marker says what the rest of the
text stands for. A variable of the environment without one is read as a TOML value.
-/

namespace Conform.Settings

/-- Why a text cannot be read as its marker says. -/
inductive TextFault where
  | unknownMarker (word : String)
  | badInteger (text : String)
  | badFloat (text : String)
  | tooManyDigits (count : Nat)
  | json (f : Json.Failure) (text : String)
  /-- No language for templates is there. -/
  | noPrograms
  /-- A template names something that is not there. -/
  | missingName (name : String)
  | badTemplate (reason : String)
deriving DecidableEq, Repr

def TextFault.kind : TextFault → String
  | unknownMarker _ => "KeyError"
  | badInteger _ | badFloat _ | tooManyDigits _ | badTemplate _ => "ValueError"
  | json f _ =>
    match f.cause with
    | .tooManyDigits _ => "ValueError"
    | .tooDeep _ => "RecursionError"
    | _ => "JSONDecodeError"
  | noPrograms => "ImportError"
  | missingName _ => "DynaconfFormatError"

def TextFault.message : TextFault → String
  | unknownMarker word => quoteText word
  | badInteger text => "invalid literal for int() with base 10: " ++ quoteText text
  | badFloat text => "could not convert string to float: " ++ quoteText text
  | tooManyDigits count => tooManyDigitsText count
  | json f text => f.message text
  | noPrograms => "jinja2 must be installed to enable '@jinja' settings in dynaconf"
  | missingName name => "Dynaconf can't interpolate variable because " ++ quoteText name
  | badTemplate reason => reason

/-- What the rest of a marked text stands for. -/
inductive Marker where
  | cast (c : Cast)
  | fields
  | program
  | replacement
  | removal
  | addition
  | insertion
  | nothing
  | other
deriving DecidableEq, Repr

def markers : List (String × Marker) :=
  [("@str", .cast .text), ("@int", .cast .integer), ("@float", .cast .number),
   ("@bool", .cast .truth), ("@json", .cast .json), ("@format", .fields), ("@jinja", .program),
   ("@reset", .replacement), ("@del", .removal), ("@merge", .addition),
   ("@merge_unique", .addition), ("@insert", .insertion), ("@note", .nothing),
   ("@comment", .nothing), ("@null", .nothing), ("@none", .nothing), ("@empty", .other)]

/-- Whether a text begins with a marker, or with a longer word that begins with one. -/
def isMarked (cs : List Char) : Bool := markers.any fun m => m.1.toList.isPrefixOf cs

/-- The words that count as true, in any case. -/
def trueMarks : List String := ["t", "true", "enabled", "1", "on", "yes"]

def castText (c : Cast) (s : String) : Except TextFault Value :=
  match c with
  | .text => .ok (.text s)
  | .integer => (enteredInt 10 s).mapError (fun
      | .malformed => .badInteger s
      | .tooManyDigits n => .tooManyDigits n) |>.map .int
  | .number =>
    match enteredFloat? s with
    | some x => .ok (.float x)
    | none => .error (.badFloat s)
  | .truth => .ok (.bool (trueMarks.contains (Setting.lower s)))
  | .json => (Json.read s).mapError fun f => .json f s

/-- A text as a TOML value, or as it is. -/
def tomlValue (s : String) : Except TextFault Value :=
  match Toml.read ("key=" ++ s) with
  | .ok es => .ok ((Value.lookup (.text "key") es).getD (.text s))
  | .error f =>
    match f.cause with
    | .tooManyDigits n => .error (.tooManyDigits n)
    | _ => .ok (.text s)

def isPairName (c : Char) : Bool := c.isAlphanum || c = '_' || c = ' '

def isPairValue (c : Char) : Bool := c.isAlphanum || c = '-' || c = ' ' || c = ':'

/-- The parts of a text that are a name, an equals sign and a value. `name` holds the characters
before, the latest first. -/
def pairs (name : List Char) : List Char → List (List Char × List Char)
  | [] => []
  | '=' :: cs =>
    (trim name.reverse, cs.takeWhile isPairValue) :: pairs [] (cs.dropWhile isPairValue)
  | c :: cs => pairs (if isPairName c then c :: name else []) cs
termination_by cs => cs.length
decreasing_by
  · have := (List.dropWhile_sublist isPairValue (l := cs)).length_le
    simp only [List.length_cons]
    omega
  · simp

/-- The JSON objects in a text. -/
def objects : Nat → List Char → List Value
  | 0, _ => []
  | fuel + 1, cs =>
    match cs.dropWhile (· ≠ '\x7b') with
    | [] => []
    | c :: rest =>
      match Json.value 0 (rest.length + 2) (c :: rest) with
      | .ok (v, rest) => v :: objects fuel rest
      | .error _ => objects fuel rest

/-- Words for values that JSON spells in small letters. -/
def jsonWords (s : String) : String :=
  let swaps := [(": True", ": true"), (":True", ":true"), (": False", ": false"),
    (":False", ":false"), (": None", ": null"), (":None", ":null")]
  swaps.foldl (fun s swap => s.replace swap.1 swap.2) s

mutual

/-- What a text stands for. With `toml` a text without a marker is a TOML value. -/
def ofText : Nat → (toml : Bool) → String → Except TextFault Setting
  | 0, _, s => .ok (.plain (.text s))
  | fuel + 1, toml, s =>
    let cs := s.toList
    if !isMarked cs then
      if toml then (tomlValue s).map .ofValue else .ok (.plain (.text s))
    else
      let (word, after) := cs.span (· ≠ ' ')
      let rest := String.ofList (after.drop 1)
      match markers.find? (·.1.toList = word) with
      | none => .error (.unknownMarker (String.ofList word))
      | some (_, marker) => marked fuel marker rest

/-- What the rest of a text stands for after a marker. A template may follow another marker. -/
def marked : Nat → Marker → String → Except TextFault Setting
  | 0, _, s => .ok (.plain (.text s))
  | fuel + 1, marker, s =>
    let template? := [("@format", Template.fields), ("@jinja", Template.program)].findSome? fun t =>
      let lead := t.1.toList
      if lead.isPrefixOf s.toList then
        some (t.2 (String.ofList (trim (s.toList.drop lead.length))))
      else none
    match marker, template? with
    | .cast c, some t => .ok (.template t (some c))
    | .cast c, none => (castText c s).map .ofValue
    | .fields, some t | .program, some t => .ok (.template t none)
    | .fields, none => .ok (.template (.fields s) none)
    | .program, none => .ok (.template (.program s) none)
    | .removal, _ => .ok .removal
    | .replacement, some t => .ok (.replacement (.template t none))
    | .replacement, none => (ofText fuel true s).map .replacement
    | .addition, some t => .ok (.addition (.template t none))
    | .addition, none => (addition fuel s).map .addition
    | .nothing, _ => .ok (.plain .null)
    | .insertion, _ => .ok (.items [])
    | .other, _ => .ok .other

/-- What is added: a number or a word alone is a list of one. -/
def addition : Nat → String → Except TextFault Setting
  | 0, s => .ok (.plain (.text s))
  | fuel + 1, s => do
    match ← ofText fuel true s with
    | .plain (.text s) =>
      match objects (s.length + 1) (jsonWords s).toList with
      | [v] => pure (.ofValue v)
      | _ =>
        match pairs [] s.toList with
        | [] => pure (.items ((s.toList.splitOn ',').map fun part =>
            .plain (.text (String.ofList part))))
        | found =>
          let es ← found.mapM fun (name, v) =>
            return (Value.text (String.ofList name), ← ofText fuel true (String.ofList v))
          pure (.group (es.foldl (fun es e => Setting.put e.1 e.2 es) []))
    | .plain v => pure (if v.isReal || v matches .bool _ then .items [.plain v] else .plain v)
    | s => pure s

end

/-- What the text of a variable stands for. -/
def ofVariable (s : String) : Except TextFault Setting :=
  let isWord := fun (w : String) => String.ofList (trim s.toList) = w
  let s := if isWord "True" || isWord "False" then Setting.lower s else s
  ofText (s.length + 3) true s

mutual

/-- A setting in which every marked text is what it stands for. -/
def resolve : Setting → Except TextFault Setting
  | .plain (.text s) => ofText (s.length + 3) false s
  | .group es => (resolveEntries es).map .group
  | .items xs => (resolveItems xs).map .items
  | s => .ok s

def resolveEntries : Setting.Entries → Except TextFault Setting.Entries
  | [] => .ok []
  | (k, s) :: es => do
    let s ← resolve s
    let es ← resolveEntries es
    pure ((k, s) :: es)

def resolveItems : List Setting → Except TextFault (List Setting)
  | [] => .ok []
  | s :: xs => do
    let s ← resolve s
    let xs ← resolveItems xs
    pure (s :: xs)

end

end Conform.Settings
