import Conform.Text.Utf8

/-!
Files as far as the program sees them: what a path leads to, and the text of a file.
-/

namespace Conform

/-- What a path leads to. -/
inductive Entry where
  | file (bytes : ByteArray)
  | directory
  | missing
  /-- A part of the path on the way is a file. -/
  | notDirectory
  | nameTooLong
  | denied

/-- The steps of a path. Empty steps and single dots lead nowhere. -/
def pathSteps (p : String) : List (List Char) :=
  (p.toList.splitOn '/').filter fun s => s ≠ [] && s ≠ ['.']

def isRooted (p : String) : Bool := p.toList.head? = some '/'

/-- A path without steps that lead nowhere. -/
def normalPath (p : String) : String :=
  let relative := "/".intercalate ((pathSteps p).map String.ofList)
  let root := match p.toList with
    | '/' :: '/' :: c :: _ => if c = '/' then "/" else "//"
    | ['/', '/'] => "//"
    | '/' :: _ => "/"
    | _ => ""
  if root = "" && relative = "" then "." else root ++ relative

/-- Entries under their paths, from the root or from the place where the program runs. -/
structure Files where
  entries : List (String × Entry)

namespace Files

/-- Where a walk along a path has come to: the steps from its start, the last one first, and how
many directories above the start that is. -/
structure Place where
  above : Nat := 0
  steps : List (List Char) := []

def Place.up (p : Place) : Place :=
  match p.steps with
  | [] => { p with above := p.above + 1 }
  | _ :: steps => { p with steps }

/-- What is at a place. The directories on the way to an entry need no entry of their own. -/
def entryAt (fs : Files) (rooted : Bool) (p : Place) : Entry :=
  let steps := p.steps.reverse
  let named := (fs.entries.filter fun e => isRooted e.1 = rooted).map fun e => (pathSteps e.1, e.2)
  if steps.isEmpty then .directory
  else if 0 < p.above && !rooted then .missing
  else match named.find? (·.1 = steps) with
    | some e => e.2
    | none => if named.any fun e => steps.isPrefixOf e.1 then .directory else .missing

/-- Walks on from a place. -/
def walk (fs : Files) (rooted : Bool) (p : Place) : List (List Char) → Entry
  | [] => fs.entryAt rooted p
  | step :: rest =>
    match fs.entryAt rooted p with
    | .directory =>
      if step = ['.', '.'] then walk fs rooted p.up rest
      else if 255 < (String.ofList step).utf8ByteSize then .nameTooLong
      else walk fs rooted { p with steps := step :: p.steps } rest
    | .file _ => .notDirectory
    | e => e

/-- What a path leads to. An entry under the path as it is written is found without a walk. -/
def find (fs : Files) (p : String) : Entry :=
  if 4096 ≤ (normalPath p).utf8ByteSize then .nameTooLong
  else match fs.entries.find? (·.1 = p) with
    | some e => e.2
    | none => fs.walk (isRooted p) {} (pathSteps p)

/-- Whether a name matches a pattern, in which a star stands for any characters and a question mark
for one. -/
def matchesName : List Char → List Char → Bool
  | [], name => name.isEmpty
  | '*' :: pattern, name =>
    (List.range (name.length + 1)).any fun n => matchesName pattern (name.drop n)
  | '?' :: pattern, name => !name.isEmpty && matchesName pattern name.tail
  | c :: pattern, name => name.head? = some c && matchesName pattern name.tail

/-- The files that a path with a pattern for a name stands for, in the order of their names. A
pattern does not stand for names that begin with a point, unless it does so itself. -/
def matching (fs : Files) (p : String) : List String :=
  let isPattern := p.toList.any fun c => c = '*' || c = '?'
  if !isPattern then [p].filter fun p => fs.find p matches .file _
  else
    let steps := pathSteps p
    let pattern := steps.getLastD []
    let found := (fs.entries.filter fun e =>
      let own := pathSteps e.1
      let name := own.getLastD []
      isRooted e.1 = isRooted p && own.dropLast = steps.dropLast && e.2 matches .file _ &&
        matchesName pattern name && (name.head? ≠ some '.' || pattern.head? = some '.')).map (·.1)
    found.mergeSort (· ≤ ·)

end Files

/-- Line ends of every kind become line feeds. -/
def unifyLines : List Char → List Char
  | '\r' :: '\n' :: cs => '\n' :: unifyLines cs
  | '\r' :: cs => '\n' :: unifyLines cs
  | c :: cs => c :: unifyLines cs
  | [] => []

/-- Why the system refuses a file: a number and a reason. -/
structure Refusal where
  code : Nat
  reason : String
deriving DecidableEq, Repr

def Refusal.message (r : Refusal) (path : String) : String :=
  "[Errno " ++ toString r.code ++ "] " ++ r.reason ++ ": " ++ quoteText (normalPath path)

def nameTooLong : Refusal := ⟨36, "File name too long"⟩

/-- Why the text of a file cannot be had. -/
inductive ReadError where
  | notFound
  | refused (r : Refusal)
  /-- No path holds a zero character. -/
  | notPath
  | notText
deriving DecidableEq, Repr

/-- The text of a file, with its line ends unified. -/
def Files.readText (fs : Files) (p : String) : Except ReadError String :=
  if p.toList.contains '\x00' then .error .notPath
  else match fs.find p with
    | .missing => .error .notFound
    | .directory => .error (.refused ⟨21, "Is a directory"⟩)
    | .notDirectory => .error (.refused ⟨20, "Not a directory"⟩)
    | .nameTooLong => .error (.refused Conform.nameTooLong)
    | .denied => .error (.refused ⟨13, "Permission denied"⟩)
    | .file bytes =>
      match String.fromUTF8? bytes with
      | some s => .ok (String.ofList (unifyLines s.toList))
      | none => .error .notText

end Conform
