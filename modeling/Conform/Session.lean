import Conform.Cache
import Conform.Match
import Conform.Schema.Parse
import Conform.Settings

/-!
A session validates many values against schema texts and remembers the trees it has read. Nothing
is raised for a bad schema or a value that is too deep to be walked: each is a result with one error.
-/

namespace Conform

open Schema

/-- A tree, with the number of trees that the session had built before it. -/
structure Parsed where
  serial : Nat
  definition : Definition

/-- What a tree depends on: the text, and the names of plugins where unknown names are rejected. -/
structure ParseKey where
  text : String
  known : List String
deriving DecidableEq, Repr

structure Session where
  settings : Settings := {}
  registry : Option Registry := none
  cache : Cache ParseKey Parsed := { capacity := 128 }
  built : Nat := 0

inductive StartError where
  | cacheTooLarge
deriving DecidableEq, Repr

def StartError.message : StartError → String
  | cacheTooLarge => "cannot fit 'int' into an index-sized integer"

structure MatchResult where
  errors : List String
deriving DecidableEq, Repr

def MatchResult.valid (r : MatchResult) : Bool := r.errors.isEmpty

namespace Session

/-- A session with nothing remembered, if its cache can be counted in a signed word of 64 bits. -/
def start (settings : Settings) (registry : Option Registry) : Except StartError Session :=
  if settings.parser.cacheSize < 2 ^ (63 : Nat) then
    .ok { settings, registry, cache := { capacity := settings.parser.cacheSize } }
  else .error .cacheTooLarge

def matcher (s : Session) : Matcher :=
  { registry := s.registry, unknown := s.settings.parser.unknownTypes,
    coerceDates := s.settings.matcher.coerceDates }

/-- The plugin names that the parser has to know. -/
def knownNames (s : Session) : List String :=
  match s.settings.parser.unknownTypes, s.registry with
  | .reject, some r => r.names.mergeSort
  | _, _ => []

def options (s : Session) : ParseOptions :=
  { strict := s.settings.parser.strictSyntax, unknown := s.settings.parser.unknownTypes,
    known := s.knownNames }

/-- Reads a text, or recalls its tree. -/
def parse (s : Session) (text : String) : Session × Journal Event ParseError Parsed :=
  let key : ParseKey := ⟨text, s.knownNames⟩
  match s.cache.touch? key with
  | some (tree, cache) => ({ s with cache }, pure tree)
  | none =>
    let reading := s.options.parse text
    let cache := s.cache.miss
    match reading.result with
    | .error e => ({ s with cache }, ⟨reading.notes, .error e⟩)
    | .ok d =>
      let tree : Parsed := ⟨s.built, d⟩
      ({ s with cache := cache.store key tree, built := s.built + 1 }, ⟨reading.notes, .ok tree⟩)

/-- The result of a walk that was stopped: one error if it went too deep. Anything else that stops a walk
is raised, and so is what comes up where the text is to be told. -/
def stopped : Fault → Except Fault MatchResult
  | .ordinary .recursion text =>
    .ok ⟨["Validation error: " ++ (if text = "" then FaultKind.recursion.name else text)]⟩
  | .mute .recursion instead => .error instead
  | fault => .error fault

/-- The result of a walk: every problem, or what comes of the fault that stopped it. -/
def conclude (walk : Matcher.Walk) : Journal Event Fault MatchResult :=
  match walk.result with
  | .ok ps => ⟨walk.notes, .ok ⟨ps.map (·.message)⟩⟩
  | .error fault => ⟨walk.notes ++ told fault, stopped fault⟩
where
  told : Fault → List Event
    | .ordinary .recursion text => [.valueTooDeep text]
    | _ => []

theorem conclude_result_of_ok {walk : Matcher.Walk} {ps : List Match.Problem}
    (h : walk.result = .ok ps) : (conclude walk).result = .ok ⟨ps.map (·.message)⟩ := by
  rw [conclude, h]

theorem conclude_result_of_error {walk : Matcher.Walk} {fault : Fault}
    (h : walk.result = .error fault) : (conclude walk).result = stopped fault := by
  rw [conclude, h]

/-- Validates a value against a text. -/
def validate (s : Session) (text : String) (v : Value) :
    Session × Journal Event Fault MatchResult :=
  let (s', reading) := s.parse text
  let outcome : Journal Event Fault MatchResult :=
    match reading.result with
    | .error e =>
      ⟨reading.notes ++ [.parseFailed e.message], .ok ⟨["Schema parsing error: " ++ e.message]⟩⟩
    | .ok tree =>
      let r := conclude (s.matcher.problems tree.definition v)
      ⟨reading.notes ++ r.notes, r.result⟩
  (s', do
    let r ← outcome
    .note (.textValidated r.valid r.errors.length)
    pure r)

end Session

end Conform
