import Conform.Assoc

/-!
Reading the words of a command line. An option is written with two dashes and its name, or with one
dash and a letter; its value follows as the next word, after an equals sign, or right after the
letter.
-/

namespace Conform.Command

structure OptionRule where
  name : String
  letter : Option Char := none
  takesValue : Bool := false
deriving DecidableEq, Repr

inductive UsageError where
  | noSuchOption (name : String)
  | valueMissing (name : String)
  | valueUnwanted (name : String)
  | optionMissing (name : String)
  | extraArgument (word : String)
  | noSuchCommand (name : String)
  | commandMissing
deriving DecidableEq, Repr

def UsageError.message : UsageError → String
  | noSuchOption n => "No such option: " ++ n
  | valueMissing n => "Option '" ++ n ++ "' requires an argument."
  | valueUnwanted n => "Option '" ++ n ++ "' does not take a value."
  | optionMissing n => "Missing option '--" ++ n ++ "'."
  | extraArgument w => "Got unexpected extra argument (" ++ w ++ ")"
  | noSuchCommand n => "No such command '" ++ n ++ "'."
  | commandMissing => "Missing command."

/-- Options with their values, in order, and the words that are none. -/
structure Arguments where
  options : List (String × String) := []
  words : List String := []
deriving DecidableEq, Repr

namespace Arguments

def has (a : Arguments) (name : String) : Bool := a.options.any (·.1 = name)

/-- The value that was given last. -/
def value? (a : Arguments) (name : String) : Option String :=
  (a.options.reverse.find? (·.1 = name)).map Prod.snd

def require (a : Arguments) (name : String) : Except UsageError String :=
  match a.value? name with
  | some v => .ok v
  | none => .error (.optionMissing name)

def addOptions (options : List (String × String)) (a : Arguments) : Arguments :=
  { a with options := options ++ a.options }

def addWord (word : String) (a : Arguments) : Arguments := { a with words := word :: a.words }

end Arguments

/-- What a word asks for: options, and a value from the next word for the option that is named. -/
structure WordReading where
  options : List (String × String)
  wants : Option (String × String) := none

/-- Letters after one dash; `shown` is the option as it was written. -/
def readLetters (rules : List OptionRule) : List Char → Except UsageError WordReading
  | [] => .ok ⟨[], none⟩
  | c :: cs =>
    let shown := String.ofList ['-', c]
    match rules.find? (·.letter = some c) with
    | none => .error (.noSuchOption shown)
    | some r =>
      if r.takesValue then
        .ok (if cs.isEmpty then ⟨[], some (r.name, shown)⟩
          else ⟨[(r.name, String.ofList cs)], none⟩)
      else (readLetters rules cs).map fun w => { w with options := (r.name, "") :: w.options }

/-- A name after two dashes, with a value if there is an equals sign. -/
def readName (rules : List OptionRule) (cs : List Char) : Except UsageError WordReading :=
  let (name, rest) := cs.span (· ≠ '=')
  let name := String.ofList name
  let shown := "--" ++ name
  match rules.find? (·.name = name) with
  | none => .error (.noSuchOption shown)
  | some r =>
    match r.takesValue, rest with
    | true, [] => .ok ⟨[], some (name, shown)⟩
    | true, _ :: value => .ok ⟨[(name, String.ofList value)], none⟩
    | false, [] => .ok ⟨[(name, "")], none⟩
    | false, _ :: _ => .error (.valueUnwanted shown)

inductive WordKind where
  | separator
  | named (cs : List Char)
  | letters (cs : List Char)
  | plain

def wordKind (word : String) : WordKind :=
  match word.toList with
  | ['-', '-'] => .separator
  | '-' :: '-' :: cs => .named cs
  | ['-'] => .plain
  | '-' :: cs => .letters cs
  | _ => .plain

/-- Reads all words, `wants` being the option that the next word is the value of. If options may not
stand after other words, the first of these ends them. -/
def readWords (rules : List OptionRule) (mixed : Bool) :
    Option (String × String) → List String → Except UsageError Arguments
  | none, [] => .ok {}
  | some (_, shown), [] => .error (.valueMissing shown)
  | some (name, _), value :: rest =>
    (readWords rules mixed none rest).map (·.addOptions [(name, value)])
  | none, word :: rest =>
    match wordKind word with
    | .separator => .ok { words := rest }
    | .plain =>
      if mixed then (readWords rules mixed none rest).map (·.addWord word)
      else .ok { words := word :: rest }
    | .named cs => do
      let r ← readName rules cs
      (readWords rules mixed r.wants rest).map (·.addOptions r.options)
    | .letters cs => do
      let r ← readLetters rules cs
      (readWords rules mixed r.wants rest).map (·.addOptions r.options)

end Conform.Command
