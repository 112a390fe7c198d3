import Conform.Files
import Conform.Settings.Reading
import Conform.Settings.Template
import Conform.Yaml

/-!
Where settings come from: a file of sections and fields, files beside it that it names or that bear
its name, and above them the environment, where a variable names a field by its path. Names match
in any case.
-/

namespace Conform.Settings

/-- What variables that are settings begin with. The later stand above the earlier. -/
def variableLeads : List String := ["DYNACONF_", "SHAPEGUARD_"]

/-- The variables of all fields and sections. -/
def variableNames : List String :=
  let names := ["PARSER", "PARSER__STRICT_SYNTAX", "PARSER__UNKNOWN_TYPES", "PARSER__CACHE_SIZE",
    "MATCHER", "MATCHER__COERCE_DATES", "LOGGING", "LOGGING__LEVEL", "LOGGING__FORMAT"]
  variableLeads.flatMap fun lead => names.map (lead ++ ·)

/-- The formats of files of settings. -/
inductive Format where
  | yaml | toml | json
deriving DecidableEq, Repr

/-- The format that the name of a file ends in. -/
def Format.ofName? (name : String) : Option Format :=
  let endsIn := fun (ends : List String) => ends.any fun e => e.toList.isSuffixOf name.toList
  if endsIn [".yaml", ".yml"] then some .yaml
  else if endsIn [".toml", ".tml"] then some .toml
  else if endsIn [".json"] then some .json
  else none

/-- Why settings cannot be had from their sources. -/
inductive SourceFault where
  | notUtf8 (f : Utf8.Fault)
  | json (f : Json.Failure) (text : String)
  | toml (f : Toml.Failure) (text : String)
  | yaml (f : Yaml.Failure)
  /-- A file holds no map at its outermost level. -/
  | notMap (v : Value)
  /-- The files to include are no list. -/
  | notList (type : String)
  | badText (f : TextFault)

def SourceFault.kind : SourceFault → String
  | notUtf8 _ => "UnicodeDecodeError"
  | json f text => (TextFault.json f text).kind
  | toml f _ =>
    match f.cause with
    | .tooManyDigits _ => "ValueError"
    | _ => "TOMLDecodeError"
  | yaml f => f.kind
  | notMap _ | notList _ => "AttributeError"
  | badText f => f.kind

def SourceFault.message : SourceFault → String
  | notUtf8 f => f.message
  | json f text => f.message text
  | toml f text => f.message text
  | yaml f => f.message
  | notMap v =>
    let type := match v with
      | .opaqueObject => "set"
      | v => v.qualifiedTypeName
    "'" ++ type ++ "' object has no attribute 'get'"
  | notList type => "'" ++ type ++ "' object has no attribute 'extend'"
  | badText f => f.message

/-- Bytes are read from a file this many at a time. -/
def blockSize : Nat := 8192

/-- The value in the bytes of a file. -/
def Format.read (format : Format) (bytes : ByteArray) : Except SourceFault Value := do
  let bs := bytes.toList
  let fault := match format with
    | .yaml => Utf8.faultInBlocks? [] (Utf8.blocks blockSize (bs.length + 1) bs)
    | _ => Utf8.fault? 0 bs
  if let some f := fault then throw (.notUtf8 f)
  let text := (String.fromUTF8? bytes).getD ""
  let unified := String.ofList (unifyLines text.toList)
  match format with
  | .yaml => (Yaml.read unified).mapError .yaml
  | .toml => ((Toml.read text).mapError fun f => .toml f text).map .map
  | .json => (Json.read unified).mapError fun f => .json f unified

/-- The entries of a file. A file that cannot be opened and one that holds nothing have none. -/
def entriesIn (files : Files) (path : String) : Except SourceFault (List (Value × Value)) :=
  match Format.ofName? path, files.find path with
  | some format, .file bytes => do
    let v ← format.read bytes
    if !v.truthy then pure []
    else match v with
      | .map es => pure es
      | v => throw (.notMap v)
  | _, _ => .ok []

/-- Settings under their names in capitals. -/
abbrev Store := Setting.Entries

namespace Store

/-- Cuts a name at its points and double underscores. -/
def pathOf : List Char → List (List Char)
  | '_' :: '_' :: cs => [] :: pathOf cs
  | '.' :: cs => [] :: pathOf cs
  | c :: cs =>
    match pathOf cs with
    | part :: parts => (c :: part) :: parts
    | [] => [[c]]
  | [] => [[]]

/-- Puts a setting at the top, over one that is there if it is to be merged. -/
def setTop (merge : Bool) (name : String) (s : Setting) (st : Store) : Except TextFault Store := do
  let key := Value.text (Setting.upper (String.ofList (trim name.toList)))
  let below := (Setting.get? key st).filter fun s => !(s matches .plain .null)
  let joined := fun (merge : Bool) (s : Setting) =>
    match below with
    | some b => if merge then Setting.overlay b s else s
    | none => s
  match ← resolve s with
  | .removal => pure (Setting.erase key st)
  | .replacement s => pure (Setting.put key (joined merge s) st)
  | .addition s => pure (Setting.put key (joined true s) st)
  | s => pure (Setting.put key (joined merge s) st)

/-- Puts a setting under a name that may be a path. What is taken away from a section is taken away
from the section below too. -/
def set (merge paths : Bool) (name : String) (s : Setting) (st : Store) :
    Except TextFault Store := do
  match (pathOf name.toList).map String.ofList with
  | top :: next :: path =>
    if !paths then setTop merge name s st
    else
      let s ← resolve s
      let key := Value.text (Setting.upper top)
      let inner := Setting.branch s (next :: path)
      match (Setting.get? key st).filter fun s => !s.isBlank with
      | some (.group es) =>
        let es := if s matches .removal then Setting.eraseAt (next :: path) es else es
        setTop true top (Setting.overlay (.group es) inner) (Setting.put key (.group es) st)
      | _ => setTop true top inner st
  | _ => setTop merge name s st

/-- A name in capitals, up to a double underscore. -/
def upperName (name : String) : String :=
  match name.splitOn "__" with
  | first :: rest => "__".intercalate (Setting.upper first :: rest)
  | [] => name

def mergeName : String := "DYNACONF_MERGE"

def pathsName : String := "DYNACONF_DOTTED_LOOKUP"

/-- The entries of a file, of which later ones replace earlier ones of the same name. A file can
say that its sections are not merged, or that its names are no paths. -/
def addFile (es : List (Value × Value)) (st : Store) : Except TextFault Store :=
  let named := es.foldl (fun es e => Value.put (.text (upperName e.1.plain)) e.2 es) []
  let allows := fun (name : String) =>
    match Value.lookup (.text name) named with
    | none | some .null => true
    | some v => v.truthy
  named.foldlM (fun st e =>
    let name := e.1.plain
    if name = mergeName || name = pathsName then .ok st
    else set (allows mergeName) (allows pathsName) name (.ofValue e.2) st) st

/-- The variables that begin with some text. -/
def addVariables (environment : List (String × String)) (st : Store) (lead : String) :
    Except TextFault Store := do
  let start := lead.toList
  let found ← (environment.filter fun e => start.isPrefixOf e.1.toList).mapM fun (name, s) =>
    return (String.ofList (name.toList.drop start.length), ← ofVariable s)
  found.foldlM (fun st e => set true true e.1 e.2 st) st

def addEnvironment (environment : List (String × String)) (st : Store) :
    Except SourceFault Store :=
  (variableLeads.foldlM (addVariables environment) st).mapError .badText

/-- The file that stands above another in its directory, unless that is such a file itself. -/
def localName? (path : String) : Option String :=
  if (path.splitOn ".local.").length ≠ 1 then none
  else
    let (ending, rest) := path.toList.reverse.span (· ≠ '.')
    some (String.ofList ((rest.drop 1).reverse ++ ".local.".toList ++ ending.reverse))

/-- Adds files and, after all of them, the files above them. -/
def addFiles (files : Files) (paths : List String) (st : Store) : Except SourceFault Store :=
  (paths ++ paths.filterMap localName?).foldlM (fun st path => do
    (addFile (← entriesIn files path) st).mapError .badText) st

/-- A path that is taken from the directory of another. -/
def besides (path name : String) : String :=
  if isRooted name then name
  else String.ofList (path.toList.reverse.dropWhile (· ≠ '/')).reverse ++ name

/-- The files that settings name, beside a path. -/
def included (path : String) (st : Store) : Except SourceFault (List String) :=
  match Setting.get? (.text "DYNACONF_INCLUDE") st with
  | none => .ok []
  | some (.items xs) => .ok (xs.filterMap fun s =>
      match s with
      | .plain v => some (besides path v.plain)
      | _ => none)
  | some (.plain v) => .error (.notList v.qualifiedTypeName)
  | some _ => .error (.notList "DynaBox")

/-- The file and the environment, without the files that they name. -/
def base (files : Files) (path : Option String) (environment : List (String × String)) :
    Except SourceFault Store := do
  let st ← addFiles files (path.toList.filter fun p => (Format.ofName? p).isSome) []
  addEnvironment environment st

/-- The file and the environment, and above them the files that they name: of these the ones that
stand above others come last. -/
def gather (files : Files) (path : Option String) (environment : List (String × String)) :
    Except SourceFault Store := do
  let st ← base files path environment
  match ← included (path.getD "") st with
  | [] => pure st
  | more =>
    let isLocal := fun (p : String) => (p.splitOn ".local.").length ≠ 1
    let present := more.flatMap fun p =>
      let found := files.matching p
      found.filter (fun p => !isLocal p) ++ found.filter isLocal
    let st ← present.foldlM (fun st p => addFiles files [p] st) st
    addEnvironment environment st

end Store

/-- The files that may stand beside a file of settings, as far as its name tells. -/
def besidesByName (path : String) : List String := (Store.localName? path).toList

/-- The files that a file of settings and the environment name. -/
def besidesByContent (files : Files) (path : Option String)
    (environment : List (String × String)) : List String :=
  match (Store.base files path environment).bind (Store.included (path.getD "")) with
  | .ok more => more.flatMap fun p => p :: besidesByName p
  | .error _ => []

inductive LoadError where
  | fileNotFound (path : String)
  | nameTooLong (path : String)
  | unreadable (f : SourceFault)
  | invalid (errors : List FieldError)

def LoadError.message : LoadError → String
  | fileNotFound path => "Config file not found: " ++ normalPath path
  | nameTooLong path => Conform.nameTooLong.message path
  | unreadable f => f.message
  | invalid errors => ", ".intercalate (errors.map fun e => e.location ++ ": " ++ e.cause.message)

/-- The settings of a file, if one is named, and of the environment. -/
def load (files : Files) (path : Option String) (environment : List (String × String)) :
    Except LoadError Settings := do
  if let some p := path then
    if p.toList.contains '\x00' then throw (.fileNotFound p)
    match files.find p with
    | .missing | .notDirectory => throw (.fileNotFound p)
    | .nameTooLong => throw (.nameTooLong p)
    | .file _ | .directory | .denied => pure ()
  let st ← (Store.gather files path environment).mapError .unreadable
  let names : Names := ⟨environment, st⟩
  let es ← (names.entries st).mapError fun f => .unreadable (.badText f)
  (ofEntries (es.foldl (fun es e => Value.put e.1 e.2 es) [])).mapError .invalid

end Conform.Settings
