import ExtensionPublisher.Http.Exchange
import ExtensionPublisher.Url.Parse

/-!
# Redirects

An answer may lead on to another address. Where it does so with a status that only says so,
the same request is sent there; where the status says that the answer is to be found there, it
is asked for without a body. An answer that says nothing of the address, or names one that
cannot be read strictly from where the request was sent, is the answer. At most ten are
followed; a request never leaves the web. The name and password of a user are told to no other
server than the one before.
-/
namespace ExtensionPublisher.Http

/-- A request on its way: where it is sent, and what. An answer may lead on, and
then another one sets out. -/
structure Hop where
  address : Url.Reference
  method : Method
  headers : List (String × String)
  body : Option (List UInt8)
  deriving DecidableEq, Repr

/-- What became of a request and of the requests that it led to, taken together. -/
structure Trip (σ : Type) where
  result : Except ExchangeFault Received
  took : Nat
  calledOff : Bool
  network : σ

/-- How many redirects are followed. One more is a fault. -/
def greatestRedirects : Nat := 10

namespace Hop

/-- Whether a scheme is one of the web. -/
def isWeb (scheme : List Char) : Bool := scheme == "http".toList || scheme == "https".toList

/-- The number of a port, which the scheme tells if it is not written. -/
def portNumber (secure : Bool) (port? : Option (List Char)) : Nat :=
  let usual := if secure then 443 else 80
  match port? with
  | none => usual
  | some digits => ((Text.digits 10 65535 digits).toOption).getD usual

/-- The request as it is sent, if the address has a host. The host and the length of
the body are told in headers of their own. -/
def sent? (hop : Hop) : Option Sent := do
  let scheme ← hop.address.scheme?
  let authority ← hop.address.authority?
  let (host, port?) := Url.Reference.splitPort (Url.Reference.splitUser authority).2
  let secure := scheme == "https".toList
  let length := hop.body.toList.map fun body => ("content-length", toString body.length)
  return {
    secure, host, port := portNumber secure port?, method := hop.method
    target := hop.address.target, headers := hop.headers ++ length, body := hop.body.getD [] }

/-- Whether a status leads on, with the same request or with another. Other statuses
of that kind lead nowhere. -/
def leadsOn (status : Nat) : Bool :=
  status == 301 || status == 302 || status == 303 || status == 307 || status == 308

/-- Whether requests can be addressed to what a reference leads to. It has a host that has no
escapes, and something behind the user; or it is a scheme and a few characters, which is taken
for a host. -/
def isAddressable (reference : Url.Reference) : Bool :=
  match reference.authority? with
  | some authority =>
    let host := (Url.Reference.splitUser authority).2
    !host.isEmpty && !host.contains '%'
  | none =>
    let text := reference.text
    let behind := (Url.Reference.splitUser text).2
    !text.contains '/' && reference.query?.isNone && !behind.isEmpty && !behind.contains '%' &&
      behind.count ':' ≤ 1

/-- Where an answer leads on to. A reference is resolved at the address that was
asked, and one that cannot be asked leads nowhere. -/
def location? (hop : Hop) (received : Received) : Option Url.Reference := do
  let value ← received.header? "location"
  let reference ← Url.Reference.read? (← Text.Utf8.decode? value)
  let base ← Url.Reference.read? hop.address.text
  let next := { reference.resolve base with fragment? := none }
  guard (isAddressable next)
  return next

/-- Headers that describe a body, and are left out with it. -/
def bodyHeaders : List String := ["content-type", "content-length"]

/-- The server that a request goes to: its host and its port. Two requests go to one
server if these are the same. -/
def server? (hop : Hop) : Option (Url.Host × Nat) := do
  let address ← (Url.parse hop.address.text).toOption
  let host ← address.host
  return (host, address.port.getD (if address.scheme == "https".toList then 443 else 80))

/-- The request without some of its headers, by their names. -/
def withoutHeaders (names : List String) (hop : Hop) : Hop :=
  { hop with headers := hop.headers.filter fun header => !names.contains header.1 }

/-- The request that an answer leads to. A status of 303 makes it one that only
asks, and another server is not told who asks. -/
def next? (hop : Hop) (received : Received) : Option Hop := do
  guard (leadsOn received.status)
  let address ← hop.location? received
  let same := { hop with address }
  let next : Hop :=
    if received.status = 303 then { same.withoutHeaders bodyHeaders with method := .get, body := none }
    else same
  if next.server? = hop.server? then return next
  else return next.withoutHeaders ["authorization"]

/-- Send a request, and those that it leads to. The address at which it began is named in
faults. -/
def travel {σ : Type} (network : Network σ) (origin : List Char) (left : Nat) (hop : Hop)
    (state : σ) : Trip σ :=
  match hop.sent? with
  | none => ⟨.error (.unsent origin), 0, false, state⟩
  | some sent =>
    let (encounter, state) := network sent state
    let ended (result : Except ExchangeFault Received) : Trip σ :=
      ⟨result, encounter.took, encounter.calledOff, state⟩
    match encounter.reaction with
    | .unreachable => ended (.error (.unreachable origin))
    | .closed => ended (.error (.unsent origin))
    | .silent => ended (.error (.late origin))
    | .answered received =>
      if !received.isReadable then ended (.error (.unsent origin))
      else
        match hop.next? received with
        | none => ended (.ok received)
        | some next =>
          match Url.parse next.address.text with
          | .error _ => ended (.error (.unusable origin))
          | .ok address =>
            match left with
            | 0 =>
              let here := (Url.parse hop.address.text).toOption.map Url.Address.text
              ended (.error (.astray (here.getD hop.address.text)))
            | left + 1 =>
              if isWeb address.scheme then
                let trip := travel network origin left next state
                { trip with
                  took := encounter.took + trip.took
                  calledOff := encounter.calledOff || trip.calledOff }
              else ended (.error (.unusable address.text))

end Hop

end ExtensionPublisher.Http
