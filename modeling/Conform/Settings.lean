import Conform.Schema.Tree

/-!
The settings of the program and their defaults.
-/

namespace Conform

structure ParserSettings where
  strictSyntax : Bool := false
  unknownTypes : Schema.UnknownPolicy := .accept
  /-- How many parsed schemas are kept; none if zero. -/
  cacheSize : Nat := 128
deriving DecidableEq, Repr

structure MatcherSettings where
  coerceDates : Bool := true
deriving DecidableEq, Repr

inductive LogLevel where
  | debug | info | warning | error | critical
deriving DecidableEq, Repr

namespace LogLevel

/-- From the least severe to the most severe. -/
def all : List LogLevel := [debug, info, warning, error, critical]

def name : LogLevel → String
  | debug => "DEBUG"
  | info => "INFO"
  | warning => "WARNING"
  | error => "ERROR"
  | critical => "CRITICAL"

def severity : LogLevel → Nat
  | debug => 1
  | info => 2
  | warning => 3
  | error => 4
  | critical => 5

end LogLevel

inductive LogFormat where
  | console | json
deriving DecidableEq, Repr

def LogFormat.name : LogFormat → String
  | .console => "console"
  | .json => "json"

structure LoggingSettings where
  level : LogLevel := .warning
  format : LogFormat := .console
deriving DecidableEq, Repr

structure Settings where
  parser : ParserSettings := {}
  matcher : MatcherSettings := {}
  logging : LoggingSettings := {}
deriving DecidableEq, Repr

end Conform
