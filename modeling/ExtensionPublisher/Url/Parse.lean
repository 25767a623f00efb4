import ExtensionPublisher.Url.Basic

/-!
# Reading addresses

An address is read without the controls and blanks around it and without the tabs and line
breaks in it. The schemes of the web need a host; any number of slashes may stand in front of
it, and a backslash is a slash. Whatever stands in front of the last `@` of the authority is
the user. The faults of the parts are found from the left to the right.
-/
namespace ExtensionPublisher.Url

/-- Characters of a scheme behind its first letter, which has to be one. -/
def isSchemeCharacter (c : Char) : Bool := c.isAlphanum || c == '+' || c == '-' || c == '.'

/-- The usual port of a scheme of the web. A scheme that has one is of a known kind.
-/
def usualPort? (scheme : List Char) : Option Nat :=
  match String.ofList scheme with
  | "http" | "ws" => some 80
  | "https" | "wss" => some 443
  | "ftp" => some 21
  | _ => none

/-- Divide a text behind its scheme, which is made lower-case. Without a colon there
is none. -/
def atScheme? (cs : List Char) : Option (List Char × List Char) :=
  match cs with
  | [] => none
  | c :: rest =>
    if c.isAlpha then
      match rest.dropWhile isSchemeCharacter with
      | ':' :: behind => some ((c :: rest.takeWhile isSchemeCharacter).map Char.toLower, behind)
      | _ => none
    else none

/-- Divide a text where a character is met. The character stays with the second part. -/
def before (p : Char → Bool) (cs : List Char) : List Char × List Char :=
  (cs.takeWhile (!p ·), cs.dropWhile (!p ·))

/-- Divide an authority behind its last `@`. Any in front of that belong to the
user. -/
def atUser? (authority : List Char) : Option (List Char × List Char) :=
  if authority.contains '@' then
    let host := (authority.reverse.takeWhile (· ≠ '@')).reverse
    some (authority.take (authority.length - host.length - 1), host)
  else none

/-- Read the user in front of an `@`. The first colon divides the name from the
password. -/
def readUser (cs : List Char) : List Char × List Char :=
  let (name, password) := before (· == ':') cs
  (percentEncode isEscapedInUser name, percentEncode isEscapedInUser (password.drop 1))

/-- Divide a host from its port: at the first colon outside brackets. Inside them
there is an address of version 6, which has colons of its own. -/
def atPort : Bool → List Char → List Char × List Char
  | _, [] => ([], [])
  | inside, c :: rest =>
    if c = ':' ∧ inside = false then ([], c :: rest)
    else
      let (host, port) := atPort (if c = '[' then true else if c = ']' then false else inside) rest
      (c :: host, port)

/-- Read a port behind its colon. The usual port counts as none, and so does an
empty one. -/
def readPort (usual? : Option Nat) (cs : List Char) : Except UrlFault (Option Nat) :=
  match cs with
  | [] => .ok none
  | cs =>
    match Text.digits 10 65535 cs with
    | .ok port => .ok (if some port = usual? then none else some port)
    | .error _ => .error .invalidPort

/-- Divide what stands behind the authority into path, query and fragment. A
question mark in a fragment divides nothing. -/
def divideTail (cs : List Char) : List Char × Option (List Char) × Option (List Char) :=
  let (front, fragment) := before (· == '#') cs
  let (path, query) := before (· == '?') front
  (path, query.tail?, fragment.tail?)

/-- Give an address its query and fragment, as they are written in it. An apostrophe
is escaped only in the query of a known kind of address. -/
def finish (address : Address) (special : Bool) (query fragment : Option (List Char)) : Address :=
  let escapedInQuery c := isEscapedInQuery c && (special || c != '\'')
  { address with
    query := query.map (percentEncode escapedInQuery)
    fragment := fragment.map (percentEncode isEscapedInFragment) }

/-- Read what stands behind the two slashes of an address. A backslash is a slash in
addresses of a known kind. -/
def readAuthority (scheme : List Char) (special : Bool) (cs : List Char) :
    Except UrlFault Address := do
  let ends c := c == '/' || c == '?' || c == '#' || (special && c == '\\')
  let (authority, tail) := before ends cs
  let (user, server) := (atUser? authority).getD ([], authority)
  if authority.contains '@' ∧ server = [] ∧ (user ≠ [] ∨ tail ≠ []) then throw .emptyHost
  let (hostText, portText) := atPort false server
  if special ∧ hostText = [] then throw .emptyHost
  let host ← if special then Host.read hostText else Host.readForeign hostText
  if hostText = [] ∧ portText ≠ [] then throw .emptyHost
  let port ← readPort (usualPort? scheme) (portText.drop 1)
  let (pathText, query, fragment) := divideTail tail
  let place :=
    if special ∨ pathText ≠ [] then Place.path (Path.read special (pathText.drop 1))
    else .path []
  return finish { scheme, user := readUser user, host := some host, port, place } special query fragment

/-- Read what stands behind the scheme of an address of a file. It may have a host,
but neither a user nor a port. -/
def readFile (scheme : List Char) (cs : List Char) : Except UrlFault Address := do
  let isSlash c := c == '/' || c == '\\'
  let (hostText, tail) :=
    match cs with
    | a :: b :: rest =>
      if isSlash a && isSlash b then before (fun c => isSlash c || c == '?' || c == '#') rest
      else ([], cs)
    | cs => ([], cs)
  let host ← if hostText = [] then pure (Host.domain []) else Host.read hostText
  let host := if host = .domain "localhost".toList then .domain [] else host
  let (pathText, query, fragment) := divideTail tail
  let behind := match pathText with
    | c :: rest => if isSlash c then rest else pathText
    | [] => []
  return finish { scheme, host := some host, place := .path (Path.read true behind) } true query fragment

/-- Read what stands behind the scheme of an address of an unknown kind. Without
slashes there is no host, and perhaps no path. -/
def readUnknown (scheme : List Char) (cs : List Char) : Except UrlFault Address :=
  match cs with
  | '/' :: '/' :: rest => readAuthority scheme false rest
  | cs =>
    let (pathText, query, fragment) := divideTail cs
    let place :=
      match pathText with
      | '/' :: rest => Place.path (Path.read false rest)
      | text => .flat (percentEncode isUnprintable text)
    .ok (finish { scheme, host := none, place } false query fragment)

/-- Controls and blanks, which are dropped from both ends of an address before
anything else is done. -/
def isOuter (c : Char) : Bool := c.toNat ≤ 0x20

/-- Read an absolute address. Characters that are skipped are dropped wherever they
stand, and the scheme decides how the rest is read. -/
def parse (cs : List Char) : Except UrlFault Address :=
  let outer := (cs.dropWhile isOuter).reverse.dropWhile isOuter
  match atScheme? (outer.reverse.filter (!isSkipped ·)) with
  | none => .error .relativeWithoutBase
  | some (scheme, rest) =>
    if scheme = "file".toList then readFile scheme rest
    else if (usualPort? scheme).isSome then
      readAuthority scheme true (rest.dropWhile fun c => c == '/' || c == '\\')
    else readUnknown scheme rest

end ExtensionPublisher.Url
