import Conform.Event
import Conform.Json.Writer
import Conform.Settings.Reading

/-!
What is logged, and how it is written: a record for every event, in lines for a console or in lines
of JSON.
-/

namespace Conform.Log

/-- One entry of the log. The fields are in the order in which they were given. -/
structure Record where
  level : LogLevel
  event : String
  fields : List (String × Value)

/-- The record of an event, in which a length of time is given from outside. A traced call leaves
none. -/
def record? (duration : Value) : Event → Option Record
  | .called _ => none
  | .guardFault guard kind text => some ⟨.debug, "Guard raised during evaluation",
      [("guard", guard), ("error_type", .text kind), ("error", .text text)]⟩
  | .builderCreated hasRegistry => some ⟨.debug, "Guard builder created",
      [("target", .null), ("has_registry", .bool hasRegistry)]⟩
  | .pluginRegistered name => some ⟨.debug, "Plugin registered", [("plugin", .text name)]⟩
  | .pluginReplaced name => some ⟨.info, "Plugin replaced", [("plugin", .text name)]⟩
  | .implementersLoaded n => some ⟨.debug, "Entry-point plugins loaded", [("implementers", .int n)]⟩
  | .segmentSkipped s => some ⟨.debug, "Skipping property without ':'", [("segment", .text s)]⟩
  | .contentDiscarded s => some ⟨.warning, "Discarding content after nested object",
      [("discarded", .text s)]⟩
  | .schemaParsed n strict => some ⟨.debug, "Schema parsed",
      [("properties", .int n), ("strict", .bool strict)]⟩
  | .parseFailed s => some ⟨.info, "Schema parse failed", [("error", .text s)]⟩
  | .valueTooDeep s => some ⟨.info, "Value too deeply nested to match", [("error", .text s)]⟩
  | .textValidated valid n => some ⟨.debug, "Schema text validated",
      [("valid", .bool valid), ("errors", .int n), ("duration_ms", duration)]⟩

def levelWord (l : LogLevel) : String := String.ofList (l.name.toList.map Char.toLower)

/-- Field values are quoted where they could not be told from what stands around them. -/
def fieldText : Value → String
  | .text s =>
    if s.toList.any (" \t=\r\n\"'".toList.contains ·) then quoteText s else s
  | v => v.display

/-- Fields in the order of their names. -/
def sortFields (fields : List (String × Value)) : List (String × Value) :=
  fields.mergeSort fun a b => !(b.1 < a.1)

/-- The fields as they are written: a mark for errors counts for nothing, and what the log itself
says of an event goes before a field of that name. -/
def Record.shownFields (r : Record) : List (String × Value) :=
  (Assoc.ofList r.fields).filter fun f =>
    !(["event", "level", "timestamp", "exc_info"].contains f.1)

/-- The fields that name the part of the program that an event comes from. -/
def originFields : List String := ["logger", "logger_name"]

/-- The fields that hold whole texts; they follow the line, apart from each other by a ruler. -/
def appendix (fields : List (String × Value)) : String :=
  let given := fun name => (Assoc.get? name fields).bind fun
    | .null => none
    | v => some v.plain
  match given "stack", given "exception" with
  | none, none => ""
  | some stack, none => "\n" ++ stack
  | none, some trace => "\n" ++ trace
  | some stack, some trace =>
    "\n" ++ stack ++ "\n\n" ++ String.ofList (List.replicate 79 '=') ++ "\n\n" ++ trace

/-- The time, the level, the event, its origin in brackets and the other fields by name, in
columns. -/
def consoleLine (time : String) (r : Record) : String :=
  let fields := r.shownFields
  let origins := (originFields.filterMap (Assoc.get? · fields)).map fun v => "[" ++ v.plain ++ "]"
  let others := fields.filter fun f => !(originFields ++ ["stack", "exception"]).contains f.1
  let pairs := (sortFields others).map fun (k, v) => k ++ "=" ++ fieldText v
  let line := " ".intercalate
    (time :: ("[" ++ padRight 9 (levelWord r.level) ++ "]") :: padRight 30 r.event ::
      (origins ++ pairs))
  String.ofList (line.toList.reverse.dropWhile (· = ' ')).reverse ++ appendix fields

/-- The fields in order, then the event, the level and the time. -/
def jsonLine (time : String) (r : Record) : String :=
  Json.compact (.ofFields (r.shownFields ++ [("event", .text r.event),
    ("level", .text (levelWord r.level)), ("timestamp", .text time)]))

def line (format : LogFormat) (time : String) (r : Record) : String :=
  match format with
  | .console => consoleLine time r
  | .json => jsonLine time r

/-- The lines of the records that are severe enough. -/
def lines (s : LoggingSettings) (time : String) (records : List Record) : List String :=
  (records.filter fun r => s.level.severity ≤ r.level.severity).map (line s.format time)

end Conform.Log
