import ExtensionPublisher.Url.Host
import ExtensionPublisher.Url.Path

/-!
# Addresses

An address has a scheme, and in the schemes of the web a host and a path; it may name a user,
a port, a query and a fragment. Parts are kept as they are written, with escapes. The port is
kept only where it is not the usual one of the scheme.
-/
namespace ExtensionPublisher.Url

/-- What stands behind the scheme and the host: the segments of a path, or a text
that is not divided. -/
inductive Place where
  | path (segments : Path)
  /-- A text without structure, in schemes that have none. -/
  | flat (text : List Char)
  deriving DecidableEq, Repr

/-- An absolute address, by its parts. Each part is kept as it is written, with its
escapes. -/
structure Address where
  scheme : List Char
  /-- A user's name and password, empty where there is none. -/
  user : List Char × List Char := ([], [])
  /-- The host; there is none in schemes that need none. -/
  host : Option Host
  port : Option Nat := none
  place : Place
  query : Option (List Char) := none
  fragment : Option (List Char) := none
  deriving DecidableEq, Repr

namespace Address

/-- The user, and the mark behind, as they are written in front of a host. -/
def userText (address : Address) : List Char :=
  match address.user with
  | ([], []) => []
  | (name, []) => name ++ ['@']
  | (name, password) => name ++ ':' :: password ++ ['@']

/-- Whom the address leads to: user, host and port, as they are written. The usual
port of a scheme is not written. -/
def authorityText (address : Address) : List Char :=
  match address.host with
  | none => []
  | some host =>
    address.userText ++ host.text ++
      (address.port.map fun port => ':' :: Nat.toDigits 10 port).getD []

/-- The path and the query, as they are asked for. This is all of an address that
its server is told. -/
def target (address : Address) : List Char :=
  let path := match address.place with
    | .path segments => segments.text
    | .flat text => text
  path ++ (address.query.map ('?' :: ·)).getD []

/-- The whole address as it is written, from its scheme to its fragment. -/
def text (address : Address) : List Char :=
  let authority := match address.host with
    | none => []
    | some _ => ['/', '/'] ++ address.authorityText
  address.scheme ++ ':' :: authority ++ address.target ++
    (address.fragment.map ('#' :: ·)).getD []

/-- The segments of the path. An address whose place is a flat text has none. -/
def path (address : Address) : Path :=
  match address.place with
  | .path segments => segments
  | .flat _ => []

/-- The address with its path changed, where it has one. -/
def mapPath (change : Path → Path) (address : Address) : Address :=
  match address.place with
  | .path segments => { address with place := .path (change segments) }
  | .flat _ => address

/-- The address with more pairs in its query, behind those that it has. Names and
values are escaped as those of a form. -/
def withPairs (address : Address) (pairs : List (String × String)) : Address :=
  match pairs with
  | [] => address
  | pairs =>
    let written := pairs.map fun pair => formEncode pair.1.toList ++ '=' :: formEncode pair.2.toList
    let query := match address.query with
      | none | some [] => Text.join '&' written
      | some query => query ++ '&' :: Text.join '&' written
    { address with query := some query }

/-- The address without the user. The name and the password are sent in another
place, or not at all. -/
def withoutUser (address : Address) : Address := { address with user := ([], []) }

end Address

end ExtensionPublisher.Url
