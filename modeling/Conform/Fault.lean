/-!
What can go wrong while a value is looked at. An ordinary fault is a verdict against the value for
the guard around it; a mute one is too, but its text cannot be told, and who asks for it gets another
fault instead; an interrupt ends everything.
-/

namespace Conform

/-- The kinds that reading a value brings about, and those of predicates from outside. -/
inductive FaultKind where
  | type
  | runtime
  | recursion
  /-- What was to be read is not there. -/
  | attribute
  /-- An iteration is over. A late one comes up only when an answer is taken for true or false. -/
  | stop (late : Bool)
  | other (name : String)
deriving DecidableEq, Repr

def FaultKind.name : FaultKind → String
  | .type => "TypeError"
  | .runtime => "RuntimeError"
  | .recursion => "RecursionError"
  | .attribute => "AttributeError"
  | .stop _ => "StopIteration"
  | .other name => name

inductive Fault where
  | ordinary (kind : FaultKind) (text : String)
  | mute (kind : FaultKind) (instead : Fault)
  | interrupt (text : String)
deriving DecidableEq, Repr

/-- An ordinary fault before it is raised. -/
structure Complaint where
  kind : FaultKind
  text : String
deriving DecidableEq, Repr

def Complaint.fault (c : Complaint) : Fault := .ordinary c.kind c.text

/-- Where a part is asked: in a function, or in a generator, which hands the answer out or takes it
itself. -/
inductive Frame where
  | function
  | generator
  | closed
deriving DecidableEq, Repr

/-- The end of an iteration comes up inside a generator, where it may not. -/
def Frame.catches : Frame → FaultKind → Bool
  | .generator, .stop late => !late
  | .closed, .stop _ => true
  | _, _ => false

namespace Fault

/-- What a generator makes of the end of an iteration inside it. -/
def stopped : Fault := .ordinary .runtime "generator raised StopIteration"

/-- A fault as it comes out of the frame in which it was raised. -/
def leave (frame : Frame) : Fault → Fault
  | .ordinary kind text => if frame.catches kind then stopped else .ordinary kind text
  | .mute kind instead => if frame.catches kind then stopped else .mute kind instead
  | .interrupt text => .interrupt text

/-- The text of a fault, or of the one that takes its place. -/
def text : Fault → String
  | .ordinary _ text | .interrupt text => text
  | .mute _ instead => instead.text

end Fault

end Conform
