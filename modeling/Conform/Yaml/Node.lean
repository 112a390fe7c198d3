import Conform.Yaml.Scalar
import Conform.Yaml.Tokens

/-!
The tree of a document: scalars, sequences and mappings with their tags. An alias stands for the
node of its anchor.
-/

namespace Conform.Yaml

inductive Node where
  | scalar (tag : String) (text : ScalarText)
  | sequence (tag : String) (items : List Node)
  | mapping (tag : String) (pairs : List (Node × Node))
  /-- A node around this one. -/
  | cycle

namespace Node

/-- The tokens that are left, what comes after the last of them, and what holds for the document:
the version at the latest token, the tags that handles stand for, and the anchors so far, the latest
first. A node that is not complete has an anchor without a node. -/
structure Reading where
  tokens : List (Token × Version)
  failure : Failure
  version : Version := {}
  handles : List (String × String) := []
  anchors : List (String × Option Node) := []

def peek (r : Reading) : Except Failure Token :=
  match r.tokens with
  | [] => .error r.failure
  | (t, _) :: _ => .ok t

/-- Passes a token that has been looked at. -/
def skip (r : Reading) : Reading :=
  match r.tokens with
  | [] => r
  | (_, version) :: tokens => { r with tokens, version }

/-- The version that holds at a token that has been looked at. -/
def ahead (r : Reading) : Version := (r.tokens.head?.map (·.2)).getD r.version

/-- What stands before a node. -/
structure Properties where
  anchor : Option String := none
  tag : Option String := none

def Properties.isEmpty (p : Properties) : Bool := p.anchor.isNone && p.tag.isNone

/-- The tag that a handle and the text after it stand for. -/
def fullTag (r : Reading) (handle : Option String) (rest : String) : Except Failure String :=
  match handle with
  | none => .ok rest
  | some h =>
    match r.handles.find? (·.1 = h) with
    | some (_, lead) => .ok (lead ++ rest)
    | none => .error .layout

/-- An anchor and a tag, in any order. -/
def properties (r : Reading) : Except Failure (Properties × Reading) := do
  match ← peek r with
  | .anchor name =>
    let r := skip r
    match ← peek r with
    | .tag h rest =>
      let r := skip r
      pure (⟨some name, some (← fullTag r h rest)⟩, r)
    | _ => pure (⟨some name, none⟩, r)
  | .tag h rest =>
    let r := skip r
    match ← peek r with
    | .anchor name => pure (⟨some name, some (← fullTag r h rest)⟩, skip r)
    | _ => pure (⟨none, some (← fullTag r h rest)⟩, r)
  | _ => pure ({}, r)

def withAnchor (p : Properties) (n : Option Node) (r : Reading) : Reading :=
  match p.anchor with
  | some name => { r with anchors := (name, n) :: r.anchors }
  | none => r

/-- The tag of a collection. -/
def Properties.tagOr (p : Properties) (name : String) : String :=
  match p.tag with
  | none | some "!" => coreTag name
  | some t => t

/-- A scalar; if it is plain and has no tag, its form gives it one. -/
def ofScalar (r : Reading) (p : Properties) (plain : Bool) (text : ScalarText) :
    Except Failure (Node × Reading) := do
  let byForm := Scalar.plainTag r.version (Json.textOf text).plain
  let tag ← match p.tag with
    | none => if plain then byForm else pure (coreTag "str")
    | some "!" => byForm
    | some t => pure t
  let n := scalar tag text
  pure (n, withAnchor p (some n) r)

/-- A scalar without text, before a token that has been looked at. -/
def ofNothing (r : Reading) (p : Properties) : Except Failure (Node × Reading) :=
  ofScalar { r with version := ahead r } p p.tag.isNone []

/-- What stands where a node is left out. -/
def empty (r : Reading) : Except Failure (Node × Reading) := ofNothing r {}

mutual

/-- Reads a node. Block collections count only inside blocks, and entries without an indentation
of their own where `loose` says so. `fuel` bounds the nesting and the number of parts. -/
def read : Nat → (inBlock loose : Bool) → Reading → Except Failure (Node × Reading)
  | 0, _, _, _ => .error .endless
  | fuel + 1, inBlock, loose, r => do
    match ← peek r with
    | .alias name =>
      match r.anchors.find? (·.1 = name) with
      | some (_, n) => pure (n.getD .cycle, skip r)
      | none => throw .reference
    | _ =>
      let (p, r) ← properties r
      let opened := withAnchor p none r
      let asSequence := fun (items, r) =>
        let n := sequence (p.tagOr "seq") items
        (n, withAnchor p (some n) r)
      let asMapping := fun (pairs, r) =>
        let n := mapping (p.tagOr "map") pairs
        (n, withAnchor p (some n) r)
      match inBlock, ← peek r with
      | _, .blockEntry =>
        if loose then return asSequence (← looseEntries fuel [] opened)
        else if p.isEmpty then throw .layout
        else ofNothing r p
      | _, .scalar plain text => ofScalar (skip r) p plain text
      | _, .flowSequenceStart => return asSequence (← flowItems fuel true [] (skip opened))
      | _, .flowMappingStart => return asMapping (← flowPairs fuel true [] (skip opened))
      | true, .blockSequenceStart => return asSequence (← blockEntries fuel [] (skip opened))
      | true, .blockMappingStart => return asMapping (← blockPairs fuel [] (skip opened))
      | _, _ => if p.isEmpty then throw .layout else ofNothing r p

/-- The entries of a block sequence up to its end. -/
def blockEntries : Nat → List Node → Reading → Except Failure (List Node × Reading)
  | 0, _, _ => .error .endless
  | fuel + 1, sofar, r => do
    match ← peek r with
    | .blockEntry =>
      let r := skip r
      let (n, r) ← match ← peek r with
        | .blockEntry | .blockEnd => empty r
        | _ => read fuel true false r
      blockEntries fuel (n :: sofar) r
    | .blockEnd => pure (sofar.reverse, skip r)
    | _ => throw .layout

/-- Entries without an indentation of their own. -/
def looseEntries : Nat → List Node → Reading → Except Failure (List Node × Reading)
  | 0, _, _ => .error .endless
  | fuel + 1, sofar, r => do
    match ← peek r with
    | .blockEntry =>
      let r := skip r
      let (n, r) ← match ← peek r with
        | .blockEntry | .key | .value | .blockEnd => empty r
        | _ => read fuel true false r
      looseEntries fuel (n :: sofar) r
    | _ => pure (sofar.reverse, r)

/-- The pairs of a block mapping up to its end. -/
def blockPairs : Nat → List (Node × Node) → Reading →
    Except Failure (List (Node × Node) × Reading)
  | 0, _, _ => .error .endless
  | fuel + 1, sofar, r => do
    let part := fun (r : Reading) => do
      match ← peek r with
      | .key | .value | .blockEnd => empty r
      | _ => read fuel true true r
    let key ← match ← peek r with
      | .key => some <$> part (skip r)
      | .value => if (ahead r).isNew then some <$> empty r else throw .layout
      | .blockEnd => pure none
      | _ => throw .layout
    match key with
    | none => pure (sofar.reverse, skip r)
    | some (k, r) =>
      let (v, r) ← match ← peek r with
        | .value => part (skip r)
        | _ => empty r
      blockPairs fuel ((k, v) :: sofar) r

/-- The items of a flow sequence up to its end. A pair alone is a mapping. -/
def flowItems : Nat → Bool → List Node → Reading → Except Failure (List Node × Reading)
  | 0, _, _, _ => .error .endless
  | fuel + 1, first, sofar, r => do
    match ← peek r with
    | .flowSequenceEnd => pure (sofar.reverse, skip r)
    | t =>
      let r ← if first then pure r else if t = .flowEntry then pure (skip r) else throw .layout
      match ← peek r with
      | .key =>
        let r := skip r
        let (k, r) ← match ← peek r with
          | .value | .flowEntry | .flowSequenceEnd => empty r
          | _ => read fuel false false r
        let (v, r) ← match ← peek r with
          | .value =>
            let r := skip r
            match ← peek r with
            | .flowEntry | .flowSequenceEnd => empty r
            | _ => read fuel false false r
          | _ => empty r
        flowItems fuel false (mapping (coreTag "map") [(k, v)] :: sofar) r
      | .flowSequenceEnd => pure (sofar.reverse, skip r)
      | _ =>
        let (n, r) ← read fuel false false r
        flowItems fuel false (n :: sofar) r

/-- The pairs of a flow mapping up to its end. -/
def flowPairs : Nat → Bool → List (Node × Node) → Reading →
    Except Failure (List (Node × Node) × Reading)
  | 0, _, _, _ => .error .endless
  | fuel + 1, first, sofar, r => do
    match ← peek r with
    | .flowMappingEnd => pure (sofar.reverse, skip r)
    | t =>
      let r ← if first then pure r else if t = .flowEntry then pure (skip r) else throw .layout
      match ← peek r with
      | .flowMappingEnd => pure (sofar.reverse, skip r)
      | t =>
        let (k, r) ← match t with
          | .key =>
            let r := skip r
            match ← peek r with
            | .value | .flowEntry | .flowMappingEnd => empty r
            | _ => read fuel false false r
          | .value => if (ahead r).isNew then empty r else read fuel false false r
          | _ => read fuel false false r
        let paired := t = .key || (t = .value && (ahead r).isNew)
        let (v, r) ← if !paired then empty r else match ← peek r with
          | .value =>
            let r := skip r
            match ← peek r with
            | .flowEntry | .flowMappingEnd => empty r
            | _ => read fuel false false r
          | _ => empty r
        flowPairs fuel false ((k, v) :: sofar) r

end

/-- The tags that handles stand for unless a document says otherwise. -/
def standardHandles : List (String × String) := [("!", "!"), ("!!", coreTag "")]

/-- Reads the directives before a document. -/
def directives : Nat → Bool → Reading → Except Failure Reading
  | 0, _, r => .ok r
  | fuel + 1, versioned, r => do
    match ← peek r with
    | .directive (.version major _) =>
      if versioned || major ≠ 1 then throw .layout
      directives fuel true (skip r)
    | .directive (.handle name lead) =>
      if r.handles.any (·.1 = name) then throw .layout
      directives fuel versioned { skip r with handles := (name, lead) :: r.handles }
    | .directive .other => directives fuel versioned (skip r)
    | _ => pure { r with handles := r.handles ++ standardHandles }

/-- Passes the ends of documents. -/
def skipEnds : Nat → Reading → Except Failure Reading
  | 0, r => .ok r
  | fuel + 1, r => do
    match ← peek r with
    | .documentEnd => skipEnds fuel (skip r)
    | _ => pure r

/-- Reads up to the contents of a document that is marked as one; none if the stream ends. -/
def openDocument (r : Reading) : Except Failure (Option Reading) := do
  let fuel := r.tokens.length + 1
  let r ← skipEnds fuel r
  match ← peek r with
  | .streamEnd => pure none
  | _ =>
    let r ← directives fuel false { r with handles := [] }
    match ← peek r with
    | .documentStart => pure (some (skip r))
    | _ => throw .layout

/-- Reads the outermost node. -/
def outermost (r : Reading) : Except Failure (Node × Reading) :=
  read (2 * r.tokens.length + 8) true false r

/-- The contents of a document that is marked as one. -/
def contents (r : Reading) : Except Failure (Node × Reading) := do
  match ← peek r with
  | .directive _ | .documentStart | .documentEnd | .streamEnd => empty r
  | _ => outermost r

/-- Nothing follows the one document. -/
def requireEnd (r : Reading) : Except Failure Unit := do
  let version := ahead r
  let r ← match ← peek r with
    | .documentEnd => pure (skip r)
    | _ => pure r
  let marked ← if version.isOld then pure true else match ← peek r with
    | .directive _ | .documentStart | .streamEnd => pure true
    | _ => pure false
  if !marked then throw .reference
  if (← openDocument r).isSome then throw .reference

/-- The one document of a text, if there is one, with the version that its values follow. -/
def ofText? (text : String) : Except Failure (Option (Node × Version)) := do
  let (ts, failure) := tokens text
  let r : Reading := { tokens := ts.drop 1, failure := failure.getD .endless }
  let last := (ts.getLast?.map (·.2)).getD {}
  let found ← match ← peek r with
    | .streamEnd => pure none
    | .directive _ | .documentStart => (← openDocument r).mapM contents
    | _ => some <$> outermost { r with handles := standardHandles }
  found.mapM fun (n, r) => do
    requireEnd r
    pure (n, last)

end Node

end Conform.Yaml
