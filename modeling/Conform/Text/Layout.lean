/-!
Texts in a row and texts of a width.
-/

namespace Conform

/-- Parts separated by commas. -/
def commaSeparated (parts : List String) : String := ", ".intercalate parts

/-- Zeros before a number up to the given width. -/
def padZeros (width : Nat) (s : String) : String :=
  String.ofList (List.replicate (width - s.length) '0') ++ s

/-- Blanks after a text up to the given width. -/
def padRight (width : Nat) (s : String) : String :=
  s ++ String.ofList (List.replicate (width - s.length) ' ')

end Conform
