import Conform.Yaml.Content

/-!
Reading YAML documents. A text holds one document; an empty one stands for nothing.
-/

namespace Conform.Yaml

/-- Whether a character may stand in a document. -/
def isPrintable (c : Char) : Bool :=
  let n := c.toNat
  c = '\t' || c = '\n' || c = '\r' || (0x20 ≤ n && n ≤ 0x7E) || n = 0x85 ||
    (0xA0 ≤ n && n ≤ 0xFFFD) || 0x10000 ≤ n

mutual

/-- Whether a node contains itself. -/
def Node.isEndless : Node → Bool
  | .scalar .. => false
  | .sequence _ items => Node.anyEndless items
  | .mapping _ pairs => Node.anyPairEndless pairs
  | .cycle => true

def Node.anyEndless : List Node → Bool
  | [] => false
  | n :: items => n.isEndless || Node.anyEndless items

def Node.anyPairEndless : List (Node × Node) → Bool
  | [] => false
  | (k, v) :: pairs => k.isEndless || v.isEndless || Node.anyPairEndless pairs

end

/-- The value of the document in a text. -/
def read (text : String) : Except Failure Value :=
  match text.toList.find? fun c => !isPrintable c with
  | some c => .error (.unprintable c)
  | none => do
    match ← Node.ofText? text with
    | none => pure .null
    | some (n, version) =>
      let v ← (n.value version (4 * text.length + 16) false 0).mapError (·.failure)
      if n.isEndless then throw .endless
      pure v

end Conform.Yaml
