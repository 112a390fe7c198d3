import Conform.Unicode.Composition
import Conform.Unicode.Direction
import Conform.Unicode.Domain
import Conform.Unicode.Joining
import Conform.Url.Punycode

/-!
Domain names. A name is made of labels between dots. Its characters are first brought into their
one form; then every label has to be sound, and in a name with letters that are written from right
to left no label may mix directions.
-/

namespace Conform.Url

open Unicode

def isAscii (c : Char) : Bool := c.toNat < 0x80

/-- The delimiters and controls that no host holds. -/
def isForbiddenAscii (c : Char) : Bool :=
  c.toNat ≤ 0x20 || c.toNat = 0x7F || "#/:<>?@[\\]^|%".toList.contains c

/-- The one form of a text, if none of its characters is forbidden. -/
def domainForm? (cs : List Char) : Option (List Char) :=
  (cs.mapM Unicode.domainForm?).map fun forms => composed forms.flatten

/-- Letters that would be joined go across a character that only asks for it. -/
def isJoinedAcross (before after : List Char) : Bool :=
  (before.dropWhile isTransparent).head?.any joinsNext &&
    (after.dropWhile isTransparent).head?.any joinsPrevious

/-- Characters that ask for letters to be joined or not stand after a virama, or where they change
the shape of letters. `before` is what comes before, backwards. -/
def joinersSound (before : List Char) : List Char → Bool
  | [] => true
  | c :: rest =>
    (match c.toNat with
     | 0x200C => before.head?.any isVirama || isJoinedAcross before rest
     | 0x200D => before.head?.any isVirama
     | _ => true) && joinersSound (c :: before) rest

/-- A label in its own characters: neither a mark at its start nor a joiner out of place. -/
def isSoundLabel (label : List Char) : Bool :=
  !label.head?.any isMark && joinersSound [] label &&
    label.all fun c => !(isAscii c && isForbiddenAscii c)

def encodedStart : List Char := "xn--".toList

/-- The label that one in ASCII form stands for: one with other characters, already in its form. -/
def decodedLabel? (cs : List Char) : Option (List Char) := do
  if 2000 < cs.length || !cs.all isAscii then none
  let label ← Punycode.decode? cs
  if label.all isAscii || encodedStart.isPrefixOf label || domainForm? label ≠ some label then none
  else some label

/-- The label that a label stands for, if it is sound. Longer ones are not brought into ASCII
form. -/
def label? (cs : List Char) : Option (List Char) := do
  let label ←
    if encodedStart.isPrefixOf cs then decodedLabel? (cs.drop encodedStart.length)
    else if !cs.all isAscii && 1000 < cs.length then none
    else some cs
  if isSoundLabel label then some label else none

def runsRight : Direction → Bool
  | .right | .arabicNumber => true
  | _ => false

/-- What may stand in a label that begins with a letter from right to left: no letter of the other
direction, and digits of one kind. It ends in a letter or a digit. -/
def isRightLabel (ds : List Direction) : Bool :=
  !ds.contains .left && !(ds.contains .arabicNumber && ds.contains .europeanNumber) &&
    (ds.filter (· ≠ .mark)).getLast?.any (· ≠ .neutral)

/-- What may stand in a label that begins with a letter from left to right. -/
def isLeftLabel (ds : List Direction) : Bool :=
  !ds.any runsRight && (ds.reverse.dropWhile (· = .mark)).head?.any (· ≠ .neutral)

/-- A label begins with a letter, which decides about all others. -/
def isOneDirection (label : List Char) : Bool :=
  let ds := label.map direction
  match ds with
  | [] => true
  | .left :: _ => isLeftLabel ds
  | .right :: _ => isRightLabel ds
  | _ => false

/-- The labels of a name in their own characters, if all are sound and there is something in the
name. -/
def labels? (name : List Char) : Option (List (List Char)) := do
  let name ← domainForm? name
  let labels ← (name.splitOn '.').mapM label?
  let turned := labels.any fun l => l.any fun c => runsRight (direction c)
  if name.isEmpty || (turned && !labels.all isOneDirection) then none else some labels

end Conform.Url
