import Conform.Command.Arguments
import Conform.Json.Reader
import Conform.Log
import Conform.Schema.Encoding
import Conform.Session
import Conform.Settings.Source

/-!
The commands of the program: validate a file against a schema file, show the tree of a schema file,
and list the plugins. A command turns the files and the environment into an outcome; with the
times that only a clock can tell, the outcome becomes a report.
-/

namespace Conform

/-- Flags that make validation stricter. -/
structure Overrides where
  strict : Bool := false
  rejectUnknown : Bool := false
  noDates : Bool := false
deriving DecidableEq, Repr

/-- Settings below the flags. -/
def Overrides.apply (o : Overrides) (s : Settings) : Settings :=
  { s with
    parser := { s.parser with
      strictSyntax := o.strict || s.parser.strictSyntax
      unknownTypes := if o.rejectUnknown then .reject else s.parser.unknownTypes }
    matcher := { coerceDates := !o.noDates && s.matcher.coerceDates } }

structure ValidateOptions where
  schema : String
  input : String
  settings : Option String := none
  overrides : Overrides := {}
  asJson : Bool := false
  verbose : Bool := false
deriving DecidableEq, Repr

inductive Command where
  | version
  | help
  | validate (o : ValidateOptions)
  | parse (schema : String) (strict rejectUnknown : Bool)
  | listPlugins
deriving DecidableEq, Repr

namespace Command

def helpRule : OptionRule := { name := "help" }

def mainRules : List OptionRule := [{ name := "version", letter := some 'V' }, helpRule]

def schemaRules : List OptionRule :=
  [{ name := "schema", letter := some 's', takesValue := true }, { name := "strict" },
   { name := "reject-unknown" }, helpRule]

def validateRules : List OptionRule :=
  schemaRules ++
    [{ name := "input", letter := some 'i', takesValue := true },
     { name := "settings", takesValue := true }, { name := "no-dates" }, { name := "json" },
     { name := "verbose", letter := some 'v' }]

/-- Reads the words after a command; asking for help comes before all else. -/
def readCommand (rules : List OptionRule) (words : List String)
    (build : Arguments → Except UsageError Command) : Except UsageError Command := do
  let a ← readWords rules true none words
  if a.has "help" then pure .help
  else
    let c ← build a
    match a.words with
    | [] => pure c
    | w :: _ => throw (.extraArgument w)

def buildValidate (a : Arguments) : Except UsageError Command := do
  let schema ← a.require "schema"
  let input ← a.require "input"
  pure (.validate {
    schema, input
    settings := a.value? "settings"
    overrides := {
      strict := a.has "strict", rejectUnknown := a.has "reject-unknown"
      noDates := a.has "no-dates" }
    asJson := a.has "json"
    verbose := a.has "verbose" })

def buildParse (a : Arguments) : Except UsageError Command := do
  let schema ← a.require "schema"
  pure (.parse schema (a.has "strict") (a.has "reject-unknown"))

/-- Commands about plugins. -/
def ofPluginWords (words : List String) : Except UsageError Command := do
  let a ← readWords [helpRule] false none words
  if a.has "help" then pure .help
  else match a.words with
    | [] => throw .commandMissing
    | "list" :: rest => readCommand [helpRule] rest fun _ => pure .listPlugins
    | w :: _ => throw (.noSuchCommand w)

/-- The command of a command line. -/
def ofArguments (words : List String) : Except UsageError Command := do
  let a ← readWords mainRules false none words
  match a.options.head? with
  | some ("version", _) => pure .version
  | some _ => pure .help
  | none =>
    match a.words with
    | [] => throw .commandMissing
    | "validate" :: rest => readCommand validateRules rest buildValidate
    | "parse" :: rest => readCommand schemaRules rest buildParse
    | "plugins" :: rest => ofPluginWords rest
    | w :: _ => throw (.noSuchCommand w)

/-- The files that a command reads, as far as it names them. -/
def paths : Command → List String
  | .validate o =>
    (o.settings.toList.flatMap fun p => p :: Settings.besidesByName p) ++ [o.schema, o.input]
  | .parse schema _ _ => [schema]
  | _ => []

/-- What is written to the two channels, and how the program ends. `crash` is the kind of a fault
that nothing handles. -/
structure Report where
  exitCode : Nat := 0
  out : String := ""
  err : String := ""
  crash : Option String := none
deriving DecidableEq, Repr

/-- The end of a program that says why on the error channel. -/
def Report.failed (lines : List String) : Report :=
  { exitCode := 1, err := String.join (lines.map (· ++ "\n")) }

def Report.crashed (kind : String) : Report := { exitCode := 1, crash := some kind }

/-- What comes of a command apart from times. -/
inductive Ending where
  | finished (r : Report)
  | validated (o : ValidateOptions) (s : Settings) (r : MatchResult)

structure Outcome where
  logging : LoggingSettings := {}
  events : List Event := []
  ending : Ending

/-- What a command finds. -/
structure World where
  files : Files
  environment : List (String × String)

/-- The files that a command reads because another one names them. -/
def morePaths (w : World) : Command → List String
  | .validate o => Settings.besidesByContent w.files o.settings w.environment
  | _ => []

/-- What a clock tells: the time of log lines, and how long a validation took, in milliseconds as
a value and as text. -/
structure Timing where
  now : String
  duration : Value
  durationText : String

def readText (w : World) (path what : String) : Except Report String :=
  (w.files.readText path).mapError fun
    | .notFound => .failed ["Error: " ++ what ++ " file not found: " ++ path]
    | .refused r => .failed
        ["Error: Cannot read " ++ String.ofList (what.toList.map Char.toLower) ++ " file " ++
          path ++ ": " ++ r.message path]
    | .notPath => .crashed "ValueError"
    | .notText => .crashed "UnicodeDecodeError"

def readSettings (w : World) (path : Option String) : Except Report Settings :=
  let path := path.filter (· ≠ "")
  (Settings.load w.files path w.environment).mapError fun
    | .fileNotFound p => .failed ["Error: Settings file not found: " ++ p]
    | .nameTooLong _ => .crashed "OSError"
    | .unreadable f => .crashed f.kind
    | .invalid errors => .failed ("Configuration errors:" :: errors.map fun e =>
        "  - " ++ e.location ++ ": " ++ e.cause.message)

def readInput (w : World) (path : String) : Except Report Value := do
  let text ← readText w path "Input"
  (Json.read text).mapError fun f =>
    match f.cause with
    | .tooManyDigits _ => .crashed "ValueError"
    | .tooDeep _ => .crashed "RecursionError"
    | _ => .failed ["Error: Invalid JSON in " ++ path ++ ": " ++ f.message text]

def runValidate (w : World) (o : ValidateOptions) : Outcome :=
  let reading : Except Report (Settings × String × Value) := do
    let s ← readSettings w o.settings
    let schema ← readText w o.schema "Schema"
    let v ← readInput w o.input
    pure (o.overrides.apply s, schema, v)
  match reading with
  | .error r => { ending := .finished r }
  | .ok (s, schema, v) =>
    let plugins := Registry.standard
    match Session.start s (some plugins.registry) with
    | .error .cacheTooLarge =>
      { logging := s.logging
        events := plugins.events
        ending := .finished (.crashed "OverflowError") }
    | .ok session =>
      let (_, run) := session.validate schema v
      { logging := s.logging
        events := plugins.events ++ run.notes
        ending := match run.result with
          | .ok r => .validated o s r
          | .error (.ordinary kind _) | .error (.mute kind _) => .finished (.crashed kind.name)
          | .error (.interrupt _) => .finished (.crashed "Abort") }

def runParse (w : World) (schema : String) (strict rejectUnknown : Bool) : Outcome :=
  match readText w schema "Schema" with
  | .error r => { ending := .finished r }
  | .ok text =>
    let plugins := Registry.standard
    let options : Schema.ParseOptions := {
      strict
      unknown := if rejectUnknown then .reject else .accept
      known := plugins.registry.names }
    let reading := options.parse text
    { events := plugins.events ++ reading.notes
      ending := .finished <| match reading.result with
        | .ok d => { out := Json.pretty (Schema.Definition.toValue d) ++ "\n" }
        | .error (.malformed issue p) =>
          .failed ["Schema syntax error: " ++ (Schema.ParseError.malformed issue p).message]
        | .error .nestedTooDeeply =>
          .failed ["Schema syntax error: schema is nested too deeply"] }

def pluginLine (p : Plugin) : String :=
  "  " ++ padRight 18 p.name ++ " - " ++
    (if p.description = "" then "(no description)" else p.description)

def runListPlugins : Outcome :=
  let plugins := Registry.standard
  let all := plugins.registry.plugins.map Prod.snd
  let lines := if all.isEmpty then ["  (none available)"] else all.map pluginLine
  let out := String.join ((["", "PLUGINS:"] ++ lines ++ [""]).map (· ++ "\n"))
  { events := plugins.events, ending := .finished { out } }

def helpText : String :=
  "Usage: shapeguard [--version] validate|parse|plugins [options]\n\n" ++
  "  validate --schema FILE --input FILE [--settings FILE] [--strict] [--reject-unknown]\n" ++
  "           [--no-dates] [--json] [--verbose]\n" ++
  "  parse --schema FILE [--strict] [--reject-unknown]\n" ++
  "  plugins list\n"

def run (w : World) : Command → Outcome
  | version => { ending := .finished { out := "shapeguard version 0.2.0\n" } }
  | help => { ending := .finished { out := helpText } }
  | validate o => runValidate w o
  | parse schema strict rejectUnknown => runParse w schema strict rejectUnknown
  | listPlugins => runListPlugins

/-- The lines that tell the result of a validation. -/
def resultLines (o : ValidateOptions) (s : Settings) (r : MatchResult) (t : Timing) : List String :=
  if o.asJson then
    [Json.pretty (.ofFields [("valid", .bool r.valid), ("errors", .list (r.errors.map .text)),
      ("duration_ms", t.duration)])]
  else
    (if r.valid then ["Valid"]
     else ("Invalid: " ++ toString r.errors.length ++ " error(s)") :: r.errors.map ("  - " ++ ·)) ++
    (if o.verbose then
      ["Duration: " ++ t.durationText ++ " ms", "Settings: " ++ Json.compact s.toValue]
     else [])

def Ending.report (t : Timing) : Ending → Report
  | .finished r => r
  | .validated o s r =>
    { exitCode := if r.valid then 0 else 1
      out := String.join ((resultLines o s r t).map (· ++ "\n")) }

/-- The report of an outcome; what was logged comes first on the error channel. -/
def Outcome.report (t : Timing) (o : Outcome) : Report :=
  let lines := Log.lines o.logging t.now (o.events.filterMap (Log.record? t.duration))
  let r := o.ending.report t
  { r with err := String.join (lines.map (· ++ "\n")) ++ r.err }

/-- A command line that cannot be read. -/
def UsageError.report (e : UsageError) : Report :=
  { exitCode := 2, err := "Error: " ++ e.message ++ "\n" }

/-- The whole program, but for the clock. -/
def execute (w : World) (words : List String) (t : Timing) : Report :=
  match ofArguments words with
  | .error e => e.report
  | .ok c => (c.run w).report t

end Command

end Conform
