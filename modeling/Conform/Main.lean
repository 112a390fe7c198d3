import Conform.Command
import Conform.Time.Text
import Std.Time.DateTime

/-!
The program: it looks up the files and the variables that a command needs, and prints the report.
-/

namespace Conform.Program

/-- What a path leads to on this machine. -/
def lookUp (path : String) : IO Entry := do
  try
    return .file (← IO.FS.readBinFile (normalPath path))
  catch
    | .noFileOrDirectory .. => return .missing
    | .permissionDenied .. => return .denied
    | .invalidArgument .. => return .nameTooLong
    | .inappropriateType _ code _ => return if code = 21 then .directory else .notDirectory
    | _ => return .directory

def world (c : Command) : IO Command.World := do
  let found := fun (paths : List String) => paths.mapM fun p => return (p, ← lookUp p)
  let entries ← found c.paths
  let environment ← Settings.variableNames.filterMapM fun name =>
    return (← IO.getEnv name).map fun value => (name, value)
  let more ← found (c.morePaths ⟨⟨entries⟩, environment⟩)
  return ⟨⟨entries ++ more⟩, environment⟩

/-- The time of day in universal time. -/
def now : IO String := do
  let p := Std.Time.PlainDateTime.ofWallTime (.ofTimestamp (← Std.Time.Timestamp.now) .zero)
  let date : Date := ⟨p.year.toInt.toNat, p.month.val.toNat, p.day.val.toNat⟩
  let clock : Clock := ⟨p.hour.val.toNat, p.minute.val.toNat, p.second.val.toNat,
    p.nanosecond.val.toNat / 1000⟩
  return (Moment.iso ⟨date, clock, none⟩) ++ "Z"

/-- Nanoseconds as milliseconds, with three places of decimals as text. -/
def timing (nanos : Nat) : IO Command.Timing := do
  let micros := nanos / 1000
  return {
    now := ← now
    duration := .float (.ofDecimal false nanos (-6))
    durationText := (micros / 1000).repr ++ "." ++ padZeros 3 (micros % 1000).repr }

def print (r : Command.Report) : IO UInt32 := do
  IO.print r.out
  IO.eprint r.err
  if let some kind := r.crash then IO.eprintln kind
  return r.exitCode.toUInt32

/-- Reads the command line, runs the command and reports. -/
def run (words : List String) : IO UInt32 := do
  match Command.ofArguments words with
  | .error e => print e.report
  | .ok c =>
    let world ← world c
    let start ← IO.monoNanosNow
    let outcome ← IO.lazyPure fun _ => c.run world
    let stop ← IO.monoNanosNow
    print (outcome.report (← timing (stop - start)))

end Conform.Program

def main (words : List String) : IO UInt32 := Conform.Program.run words
