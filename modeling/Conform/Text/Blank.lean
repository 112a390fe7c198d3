/-!
Blank characters and trimming. Blanks separate tokens, are cut off the ends of names, and are what
an address may not contain.
-/

namespace Conform

/-- The white space of Unicode's bidirectional classes WS, B and S, with the space separators. -/
def isBlank (c : Char) : Bool :=
  let n := c.toNat
  (0x09 ≤ n && n ≤ 0x0D) || (0x1C ≤ n && n ≤ 0x20) || n == 0x85 || n == 0xA0 || n == 0x1680 ||
    (0x2000 ≤ n && n ≤ 0x200A) || n == 0x2028 || n == 0x2029 || n == 0x202F || n == 0x205F ||
    n == 0x3000

/-- Drops the blanks at both ends. -/
def trim (cs : List Char) : List Char :=
  ((cs.dropWhile isBlank).reverse.dropWhile isBlank).reverse

/-- A text with nothing at either end to trim. -/
def Trimmed (cs : List Char) : Prop := trim cs = cs

instance (cs : List Char) : Decidable (Trimmed cs) := inferInstanceAs (Decidable (trim cs = cs))

end Conform
