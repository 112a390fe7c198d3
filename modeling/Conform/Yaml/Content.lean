import Conform.Value.Access
import Conform.Yaml.Node

/-!
The values of the nodes of a document. Collections are filled level by level, so of two failures
the one at the outer level is found first; a key is complete before its pair is looked at.
-/

namespace Conform.Yaml

namespace Node

/-- A failure, with the level where it is found. -/
structure Found where
  level : Nat
  failure : Failure

/-- The failure that is found first, those of the first argument before those of the second. -/
def Found.first (a b : Found) : Found := if b.level < a.level then b else a

/-- A result of two parts fails as the part that fails first. -/
def both {α β γ : Type} (f : α → β → γ) :
    Except Found α → Except Found β → Except Found γ
  | .ok a, .ok b => .ok (f a b)
  | .error a, .error b => .error (a.first b)
  | .error a, .ok _ => .error a
  | .ok _, .error b => .error b

/-- The name of a core tag. -/
def coreName? (tag : String) : Option String :=
  let lead := (coreTag "").toList
  let cs := tag.toList
  if lead.isPrefixOf cs then some (String.ofList (cs.drop lead.length)) else none

def tag : Node → String
  | scalar t _ | sequence t _ | mapping t _ => t
  | cycle => coreTag "map"

def isMergeKey (n : Node) : Bool := n.tag = coreTag "merge"

mutual

/-- The pairs of a mapping: those that it takes over from others, and its own. -/
def flatten : Node → Except Failure (List (Node × Node) × List (Node × Node))
  | mapping _ pairs => flattenPairs [] [] pairs
  | _ => .error .content

def flattenPairs (taken own : List (Node × Node)) :
    List (Node × Node) → Except Failure (List (Node × Node) × List (Node × Node))
  | [] => .ok (taken, own.reverse)
  | (k, v) :: pairs =>
    if !k.isMergeKey then flattenPairs taken ((k, v) :: own) pairs
    else if !taken.isEmpty then .error .duplicateKey
    else match v with
      | sequence _ items => (flattenItems items).bind fun taken => flattenPairs taken own pairs
      | v => (flatten v).bind fun (others, more) => flattenPairs (others ++ more) own pairs

/-- The pairs of several mappings, those of the last one first. -/
def flattenItems : List Node → Except Failure (List (Node × Node))
  | [] => .ok []
  | n :: items => do
    let (taken, own) ← flatten n
    let more ← flattenItems items
    pure (more ++ taken ++ own)

end

/-- The text of a mapping that stands for a scalar: the one under an equals sign. -/
def valueText? : Nat → Node → Option ScalarText
  | 0, _ => none
  | fuel + 1, n =>
    match n with
    | scalar _ text => some text
    | mapping _ pairs =>
      (pairs.find? fun p => p.1.tag = coreTag "value").bind fun p => valueText? fuel p.2
    | _ => none

/-- A key as it is held: a list becomes a tuple. -/
def asKey (k : Value) : Except Failure Value :=
  match k with
  | .list xs =>
    match (Value.tuple xs).unhashable? with
    | some type => .error (.unhashable type)
    | none => .ok (.tuple xs)
  | .map _ | .opaqueObject => .error .content
  | k => .ok k

/-- Whether a key stands among pairs. -/
def isTaken (k : Value) (es : List (Value × Value)) : Bool := (Value.lookup k es).isSome

mutual

/-- The value of a node that is looked at on a level; its parts are on the next level, unless it
is a part of a key. `fuel` bounds the nesting and the number of parts. -/
def value (v : Version) : Nat → (inKey : Bool) → Nat → Node → Except Found Value
  | 0, _, level, _ => .error ⟨level, .endless⟩
  | fuel + 1, inKey, level, n =>
    let inner := if inKey then level else level + 1
    let unfit := (Except.error ⟨inner, .content⟩ : Except Found Value)
    match n, (coreName? n.tag).getD "" with
    | cycle, _ => .ok .opaqueObject
    | sequence _ items, "seq" => (values v fuel inKey inner items).map .list
    | mapping .., "map" => (entries v fuel inKey inner n).map .map
    | mapping .., "set" => (entries v fuel inKey inner n).map fun _ => .opaqueObject
    | sequence _ items, "omap" => (singlePairs v fuel inKey inner true [] items).map .map
    | sequence _ items, "pairs" =>
      (singlePairs v fuel inKey inner false [] items).map fun ps =>
        .list (ps.map fun p => .tuple [p.1, p.2])
    | _, "seq" | _, "map" | _, "set" | _, "omap" | _, "pairs" => unfit
    | n, name =>
      match (valueText? (fuel + 1) n).bind (Scalar.value? v name) with
      | none => .error ⟨level, .content⟩
      | some r => r.mapError fun f => ⟨level, f⟩

def values (v : Version) : Nat → Bool → Nat → List Node → Except Found (List Value)
  | 0, _, level, _ => .error ⟨level, .endless⟩
  | _ + 1, _, _, [] => .ok []
  | fuel + 1, inKey, level, n :: items =>
    both (fun x xs => x :: xs) (value v fuel inKey level n) (values v fuel inKey level items)

/-- The entries of a mapping. A key stands once, unless pairs are taken over. -/
def entries (v : Version) : Nat → Bool → Nat → Node → Except Found (List (Value × Value))
  | 0, _, level, _ => .error ⟨level, .endless⟩
  | fuel + 1, inKey, level, n =>
    match flatten n with
    | .error f => .error ⟨level, f⟩
    | .ok (taken, own) => entriesOf v fuel inKey level taken.isEmpty [] (taken ++ own)

def entriesOf (v : Version) : Nat → Bool → Nat → Bool → List (Value × Value) →
    List (Node × Node) → Except Found (List (Value × Value))
  | 0, _, level, _, _, _ => .error ⟨level, .endless⟩
  | _ + 1, _, _, _, sofar, [] => .ok sofar
  | fuel + 1, inKey, level, unique, sofar, (k, n) :: pairs =>
    match (key v fuel level k).bind fun k => (asKey k).mapError fun f => ⟨level, f⟩ with
    | .error e => .error e
    | .ok k =>
      let x := value v fuel inKey level n
      let rest :=
        if unique && isTaken k sofar then .error ⟨level, .duplicateKey⟩
        else entriesOf v fuel inKey level unique (Value.put k (x.toOption.getD .null) sofar) pairs
      both (fun _ es => es) x rest

/-- A key. An equals sign is no more than a text. -/
def key (v : Version) : Nat → Nat → Node → Except Found Value
  | 0, level, _ => .error ⟨level, .endless⟩
  | fuel + 1, level, k =>
    match k with
    | scalar t text =>
      value v fuel true level (scalar (if t = coreTag "value" then coreTag "str" else t) text)
    | k => value v fuel true level k

/-- The pairs of mappings with one pair each. -/
def singlePairs (v : Version) : Nat → Bool → Nat → Bool → List (Value × Value) → List Node →
    Except Found (List (Value × Value))
  | 0, _, level, _, _, _ => .error ⟨level, .endless⟩
  | _ + 1, _, _, _, sofar, [] => .ok sofar
  | fuel + 1, inKey, level, unique, sofar, item :: items =>
    match item with
    | mapping _ [(k, n)] =>
      match value v fuel inKey level k with
      | .error e => .error e
      | .ok key =>
        if unique && isTaken key sofar then .error ⟨level, .repeatedPair⟩
        else match value v fuel inKey level n with
          | .error e => .error e
          | .ok x => singlePairs v fuel inKey level unique (sofar ++ [(key, x)]) items
    | _ => .error ⟨level, .content⟩

end

end Node

end Conform.Yaml
