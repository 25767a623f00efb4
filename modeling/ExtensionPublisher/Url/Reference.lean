import ExtensionPublisher.Url.Host

/-!
# References

A reference says where to go from an address. It is an address itself, or leaves out the
scheme, or also the host, or also the beginning of the path, and what it leaves out is that of
the address it is read at. The syntax is the strict one: characters that have to be escaped
are refused, and so is a percent sign without two hexadecimal digits behind it. Segments of
dots are resolved only where they are written as dots.
-/
namespace ExtensionPublisher.Url

/-- The parts of a reference, as written. Parts that are missing are told apart from
empty ones. -/
structure Reference where
  scheme? : Option (List Char) := none
  authority? : Option (List Char) := none
  path : List Char
  query? : Option (List Char) := none
  fragment? : Option (List Char) := none
  deriving DecidableEq, Repr

namespace Reference

/-- Characters that stand for themselves everywhere. -/
def isUnreserved (c : Char) : Bool := c.isAlphanum || ['-', '.', '_', '~'].contains c

/-- Characters that may separate parts within a part. What they separate is up to
whoever reads the part. -/
def isSeparator (c : Char) : Bool :=
  ['!', '$', '&', '\'', '(', ')', '*', '+', ',', ';', '='].contains c

/-- Characters of a name. -/
def isNameCharacter (c : Char) : Bool := isUnreserved c || isSeparator c

/-- Characters of a segment. -/
def isSegmentCharacter (c : Char) : Bool := isNameCharacter c || c == ':' || c == '@'

/-- Characters of a query or a fragment. -/
def isQueryCharacter (c : Char) : Bool := isSegmentCharacter c || c == '/' || c == '?'

/-- Whether a text has only some characters, and whole escapes. A percent sign alone
is no character of any part. -/
def hasOnly (allowed : Char → Bool) : List Char → Bool
  | '%' :: high :: low :: rest =>
    (Text.digitValue? 16 high).isSome && (Text.digitValue? 16 low).isSome && hasOnly allowed rest
  | c :: rest => c != '%' && allowed c && hasOnly allowed rest
  | [] => true

/-- Divide a text at the first character of a kind, which is left out. Without one
there is no second part. -/
def divide (separator : Char) (cs : List Char) : List Char × Option (List Char) :=
  match cs.dropWhile (· ≠ separator) with
  | [] => (cs, none)
  | _ :: behind => (cs.takeWhile (· ≠ separator), some behind)

/-- Whether a text is a scheme: a letter, and letters, digits and three signs behind
it. -/
def isScheme (cs : List Char) : Bool :=
  match cs with
  | [] => false
  | first :: rest =>
    first.isAlpha && rest.all fun c => c.isAlphanum || c == '+' || c == '-' || c == '.'

/-- The user, with the mark behind, and the rest of an authority. -/
def splitUser (authority : List Char) : List Char × List Char :=
  match divide '@' authority with
  | (user, some rest) => (user ++ ['@'], rest)
  | (all, none) => ([], all)

/-- The host and the text of the port of an authority without a user. -/
def splitPort (hostAndPort : List Char) : List Char × Option (List Char) :=
  match hostAndPort with
  | '[' :: _ =>
    let host := hostAndPort.takeWhile (· ≠ ']') ++ [']']
    match hostAndPort.drop host.length with
    | [] => (host, none)
    | ':' :: port => (host, some port)
    | rest => (host ++ rest, none)
  | _ => divide ':' hostAndPort

/-- Whether a text is a host: an address in brackets or a name, which may be empty.
-/
def isHost (host : List Char) : Bool :=
  match host with
  | '[' :: rest =>
    let inner := rest.dropLast
    rest.getLast? == some ']' &&
      match inner with
      | 'v' :: future | 'V' :: future =>
        let (version, rest?) := divide '.' future
        !version.isEmpty && version.all (fun c => (Text.digitValue? 16 c).isSome) &&
          rest?.any fun rest => !rest.isEmpty && rest.all fun c => isNameCharacter c || c == ':'
      | inner => (ipv6? inner).isSome
  | host => hasOnly isNameCharacter host

/-- Whether a text is an authority. Each of its parts is looked at by itself. -/
def isAuthority (authority : List Char) : Bool :=
  let (user, rest) := splitUser authority
  let (host, port?) := splitPort rest
  hasOnly (fun c => isNameCharacter c || c == ':') (user.take (user.length - 1)) &&
    isHost host && port?.all (·.all Char.isDigit)

/-- Divide a text into the parts of a reference. This never fails; whether the parts
are what they should be is asked afterwards. -/
def split (cs : List Char) : Reference :=
  let (cs, fragment?) := divide '#' cs
  let (cs, query?) := divide '?' cs
  let head := cs.takeWhile fun c => c ≠ ':' && c ≠ '/'
  let (scheme?, cs) := if isScheme head && (cs.drop head.length).head? == some ':' then
    (some head, cs.drop (head.length + 1)) else (none, cs)
  let (authority?, path) := match cs with
    | '/' :: '/' :: rest => (some (rest.takeWhile (· ≠ '/')), rest.dropWhile (· ≠ '/'))
    | path => (none, path)
  { scheme?, authority?, path, query?, fragment? }

/-- Whether the parts are written as they have to be. Without a scheme or a host, the first
segment has no colon. -/
def isStrict (reference : Reference) : Bool :=
  let first := reference.path.takeWhile (· ≠ '/')
  hasOnly (fun c => isSegmentCharacter c || c == '/') reference.path &&
    reference.authority?.all isAuthority &&
    (reference.scheme?.isSome || reference.authority?.isSome || !first.contains ':') &&
    reference.query?.all (hasOnly isQueryCharacter) &&
    reference.fragment?.all (hasOnly isQueryCharacter)

/-- Read a reference. Its parts have to be what they should be already, and nothing
is put right. -/
def read? (cs : List Char) : Option Reference :=
  if (split cs).isStrict then some (split cs) else none

/-- A path without segments of dots. Each part of what is found is a segment with the slash in
front of it, if there is one. -/
def withoutDots (path : List Char) : List Char :=
  let step (found : List (List Char)) (isLast : Bool) (segment : List Char) : List (List Char) :=
    if segment = ['.'] then if isLast then found ++ [['/']] else found
    else if segment = ['.', '.'] then if isLast then found.dropLast ++ [['/']] else found.dropLast
    else found ++ ['/' :: segment]
  let rec resolve (found : List (List Char)) : List (List Char) → List (List Char)
    | [] => found
    | [segment] => step found true segment
    | segment :: rest => resolve (step found false segment) rest
  let plain := (Text.parts '/' path).dropWhile fun segment => segment == ['.'] || segment == ['.', '.']
  match Text.parts '/' path, plain with
  | [] :: rest, _ => (resolve [] rest).flatten
  | _, first :: rest => (resolve [first] rest).flatten
  | _, [] => []

/-- Where a reference leads from an address, which is a reference with a scheme.
What the reference does not say is taken from the address, up to the first part that
it says. -/
def resolve (reference base : Reference) : Reference :=
  match reference.scheme?, reference.authority? with
  | some _, _ => { reference with path := withoutDots reference.path }
  | none, some _ =>
    { reference with scheme? := base.scheme?, path := withoutDots reference.path }
  | none, none =>
    let path :=
      match reference.path with
      | [] => base.path
      | '/' :: _ => withoutDots reference.path
      | relative =>
        if base.authority?.isSome && base.path.isEmpty then withoutDots ('/' :: relative)
        else
          let kept := (base.path.reverse.dropWhile (· ≠ '/')).reverse
          withoutDots (kept ++ relative)
    let query? := if reference.path.isEmpty then reference.query? <|> base.query? else reference.query?
    { base with path, query?, fragment? := reference.fragment? }

/-- A reference as it is written. -/
def text (reference : Reference) : List Char :=
  (reference.scheme?.map (· ++ [':'])).getD [] ++
    (reference.authority?.map fun authority => '/' :: '/' :: authority).getD [] ++
    reference.path ++ (reference.query?.map ('?' :: ·)).getD [] ++
    (reference.fragment?.map ('#' :: ·)).getD []

/-- The path and the query, as they are asked for. There is always a path. -/
def target (reference : Reference) : List Char :=
  (if reference.path.isEmpty then ['/'] else reference.path) ++
    (reference.query?.map ('?' :: ·)).getD []

end Reference

end ExtensionPublisher.Url
