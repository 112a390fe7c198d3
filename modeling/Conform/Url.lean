import Conform.Url.Host

/-!
Absolute URLs: a scheme, and what it allows after it. Schemes of the web have a host; elsewhere a
host is only looked for after two slashes.
-/

namespace Conform.Url

inductive SchemeKind where
  | web
  | file
  | other
deriving DecidableEq, Repr

def schemeKind (scheme : String) : SchemeKind :=
  if ["http", "https", "ws", "wss", "ftp"].contains scheme then .web
  else if scheme = "file" then .file
  else .other

/-- Controls and blanks at the ends, and tabs and line ends anywhere, do not count. -/
def clean (cs : List Char) : List Char :=
  let edge := fun (c : Char) => c.toNat ≤ 0x20
  (((cs.dropWhile edge).reverse.dropWhile edge).reverse).filter
    fun c => !(c = '\t' || c = '\n' || c = '\r')

def isSchemeChar (c : Char) : Bool := c.isAlphanum || c = '+' || c = '-' || c = '.'

/-- A scheme, in small letters, and what follows its colon. -/
def splitScheme (cs : List Char) : Option (String × List Char) :=
  let (scheme, rest) := cs.span isSchemeChar
  match scheme, rest with
  | c :: _, ':' :: rest =>
    if c.isAlpha then some (String.ofList (scheme.map Char.toLower), rest) else none
  | _, _ => none

/-- A slash; on the web a backslash counts as one. -/
def isSlash (web : Bool) (c : Char) : Bool := c = '/' || (web && c = '\\')

/-- What ends the part that names the host. -/
def endsAuthority (web : Bool) (c : Char) : Bool := isSlash web c || c = '?' || c = '#'

/-- Digits up to 65535. -/
def isPort (cs : List Char) : Bool :=
  let (digits, rest) := spanDigits cs
  digitsValue digits ≤ 65535 && (rest.isEmpty || rest.head? = some '\\')

/-- Splits a host from its port at the first colon outside brackets. -/
def splitPort : Bool → List Char → List Char × List Char
  | _, [] => ([], [])
  | inside, c :: cs =>
    if c = ':' && !inside then ([], c :: cs)
    else
      let (host, port) := splitPort (c = '[' || (inside && c ≠ ']')) cs
      (c :: host, port)

/-- Splits the name of a user from what follows the last at sign, if there is one. -/
def splitUser (cs : List Char) : Option (List Char × List Char) :=
  if cs.contains '@' then
    let after := (cs.reverse.takeWhile (· ≠ '@')).reverse
    some (cs.take (cs.length - after.length - 1), after)
  else none

/-- A host with an optional port. Without a host there is no port and no user. -/
def isHostPort (web hasUser : Bool) (cs : List Char) : Bool :=
  let (host, port) := splitPort false cs
  let sound := if web then isHost host else isOpaqueHost host
  if host.isEmpty then !web && port.isEmpty && !hasUser
  else sound && (port.isEmpty || isPort (port.drop 1))

/-- What follows the two slashes. -/
def isAuthority (web : Bool) (cs : List Char) : Bool :=
  let area := cs.takeWhile fun c => !endsAuthority web c
  match splitUser area with
  | none => isHostPort web false area
  | some ([], host) => !(host.isEmpty && area.length < cs.length) && isHostPort web false host
  | some (user, host) => isHostPort web (user ≠ [':']) host

def isDriveLetter : List Char → Bool
  | [c, d] => c.isAlpha && (d = ':' || d = '|')
  | _ => false

/-- What follows the scheme of a file: a host after two slashes, or any path. -/
def isFilePart : List Char → Bool
  | a :: b :: cs =>
    if isSlash true a && isSlash true b then
      let host := cs.takeWhile fun c => !endsAuthority true c
      host.isEmpty || isDriveLetter host || isHost host
    else true
  | _ => true

def accepts (cs : List Char) : Bool :=
  match splitScheme (clean cs) with
  | none => false
  | some (scheme, rest) =>
    match schemeKind scheme with
    | .web => isAuthority true (rest.dropWhile (isSlash true))
    | .file => isFilePart rest
    | .other =>
      match rest with
      | '/' :: '/' :: cs => isAuthority false cs
      | _ => true

end Conform.Url

namespace Conform

/-- An absolute URL. -/
def isUrl (s : String) : Bool := Url.accepts s.toList

end Conform
