/-!
The room that is left for a type. Types are read from the outside in, and the machine's stack holds
only so many of them inside one another; an object takes more of it than an array.
-/

namespace Conform.Schema

/-- How a type stands inside another: as the type of an array's items, or of a property. -/
inductive Level where
  | item
  | property
deriving DecidableEq, Repr

/-- What a level takes of the stack. -/
def Level.frames : Level → Nat
  | .item => 1
  | .property => 4

/-- No room at all, or room for one type and, on each level inside it, for others. -/
inductive Room where
  | spent
  | free (inside : Level → Room)

namespace Room

/-- What `frames` frames leave room for, the first `pending` of which are taken. -/
def after : Nat → Nat → Room
  | _, 0 => .spent
  | 0, frames + 1 => .free fun level => after (level.frames - 1) frames
  | pending + 1, frames + 1 => after pending frames

def ofFrames (frames : Nat) : Room := after 0 frames

end Room

end Conform.Schema
