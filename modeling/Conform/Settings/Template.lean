import Conform.Settings.Marker

/-!
Filling in templates. A field in braces names a variable of the environment or a setting; braces
that are text are written twice.
-/

namespace Conform.Settings

/-- What the fields of templates can name. -/
structure Names where
  environment : List (String × String)
  settings : Setting.Entries

/-- The setting at a path. -/
def settingAt? : List String → Setting → Option Value
  | [], .plain v => some v
  | name :: path, .group es =>
    ((Setting.matchingKey? (.text name) es).bind (Setting.get? · es)).bind (settingAt? path)
  | _, _ => none

/-- What a field stands for: `env[NAME]` or `this.name`. -/
def Names.field (n : Names) (name : String) : Except TextFault String :=
  let cs := name.toList
  let variableLead := "env[".toList
  let settingLead := "this.".toList
  if variableLead.isPrefixOf cs && cs.getLast? = some ']' then
    let key := String.ofList (cs.drop variableLead.length).dropLast
    match n.environment.find? (·.1 = key) with
    | some (_, v) => .ok v
    | none => .error (.missingName key)
  else if settingLead.isPrefixOf cs then
    let path := ((cs.drop settingLead.length).splitOn '.').map String.ofList
    match settingAt? path (.group n.settings) with
    | some v => .ok v.plain
    | none => .error (.missingName name)
  else .error (.missingName name)

/-- Fills in the fields of a text. `field` holds the characters of a field that is open. -/
def Names.fill (n : Names) : Option (List Char) → List Char → Except TextFault String
  | some _, [] => .error (.badTemplate "expected '\x7d' before end of string")
  | some field, '\x7d' :: cs => do
    let s ← n.field (String.ofList field.reverse)
    pure (s ++ (← n.fill none cs))
  | some field, c :: cs => n.fill (some (c :: field)) cs
  | none, [] => .ok ""
  | none, '\x7b' :: '\x7b' :: cs => (n.fill none cs).map ("\x7b" ++ ·)
  | none, '\x7d' :: '\x7d' :: cs => (n.fill none cs).map ("\x7d" ++ ·)
  | none, ['\x7b'] => .error (.badTemplate "Single '\x7b' encountered in format string")
  | none, '\x7b' :: cs => n.fill (some []) cs
  | none, '\x7d' :: _ => .error (.badTemplate "Single '\x7d' encountered in format string")
  | none, c :: cs => (n.fill none cs).map (String.singleton c ++ ·)

/-- The value of a template. -/
def Names.evaluate (n : Names) (t : Template) (cast : Option Cast) : Except TextFault Value := do
  match t with
  | .program _ => throw .noPrograms
  | .fields text =>
    let s ← n.fill none text.toList
    match cast with
    | none => pure (.text s)
    | some .json => castText .json (s.replace "'" "\"")
    | some c => castText c s

mutual

/-- The value of a setting, with all names in small letters. -/
def Names.value (n : Names) : Setting → Except TextFault Value
  | .plain v => .ok v
  | .group es => (n.entries es).map Value.mapOf
  | .items xs => (n.values xs).map .list
  | .template t cast => n.evaluate t cast
  | .removal | .replacement _ | .addition _ | .other => .ok .opaqueObject

def Names.entries (n : Names) : Setting.Entries → Except TextFault (List (Value × Value))
  | [] => .ok []
  | (k, s) :: es => do
    let v ← n.value s
    let rest ← n.entries es
    pure ((.text (Setting.lower k.plain), v) :: rest)

def Names.values (n : Names) : List Setting → Except TextFault (List Value)
  | [] => .ok []
  | s :: xs => do
    let v ← n.value s
    let vs ← n.values xs
    pure (v :: vs)

end

end Conform.Settings
