import ExtensionPublisher.Exchange.Request
import ExtensionPublisher.Exchange.Response
import ExtensionPublisher.Text.Utf8
import ExtensionPublisher.Url.Reference

/-!
# Exchanges

A request that goes out, and what comes back for it. Whoever is at the other end answers,
closes the connection without an answer, or says nothing; or nobody is there. An answer tells
how many bytes its body has; fewer bytes than told are no body at all.
-/
namespace ExtensionPublisher.Http

/-- A request as it is sent. -/
structure Sent where
  /-- Whether the connection is encrypted. -/
  secure : Bool
  host : List Char
  port : Nat
  method : Method
  target : List Char
  headers : List (String × String)
  body : List UInt8
  deriving DecidableEq, Repr

/-- An answer as it is received, before anything is made of it. -/
structure Received where
  status : Nat
  headers : List (String × List UInt8) := []
  body : List UInt8 := []
  /-- How many bytes the body has, if that is not how many there are. -/
  announced : Option Nat := none
  deriving DecidableEq, Repr

/-- What happens to a request: there is an answer, or there is none for one of three
reasons. -/
inductive Reaction where
  | answered (received : Received)
  /-- The connection ended without an answer. -/
  | closed
  /-- Nothing came back in time. -/
  | silent
  /-- There is no connection. -/
  | unreachable
  deriving DecidableEq, Repr

/-- What happens to a request, and to whoever waits for it. Both are up to the
network. -/
structure Encounter where
  reaction : Reaction
  /-- How long it took, apart from the silence that is waited for. -/
  took : Nat := 0
  /-- Whether the caller lost interest while the request was under way. -/
  calledOff : Bool := false
  deriving DecidableEq, Repr

/-- Everyone to whom requests can be sent: what happens to a request, and how that changes what
happens to later ones. -/
abbrev Network (σ : Type) := Sent → σ → Encounter × σ

/-- A network as a process reaches it that an interruption kills. Behind a request during which the
caller lost interest there is no process left, so nothing else goes out, and nothing is heard. -/
def Network.untilInterrupted {σ : Type} (network : Network σ) : Network (σ × Bool) :=
  fun sent (state, interrupted) =>
    if interrupted then ({ reaction := .closed }, state, true)
    else
      let (encounter, next) := network sent state
      (encounter, next, encounter.calledOff)

/-- Why no answer was received. Each is told with the address that was asked. -/
inductive ExchangeFault where
  /-- The request to an address came to nothing. -/
  | unsent (address : List Char)
  | late (address : List Char)
  | unreachable (address : List Char)
  /-- Nothing can be asked of an address. -/
  | unusable (address : List Char)
  /-- The answer of an address leads on, after too many others. -/
  | astray (address : List Char)
  | cutOff
  deriving DecidableEq, Repr

/-- The reason in words. -/
def ExchangeFault.message : ExchangeFault → String
  | .unsent address => "error sending request for url (" ++ String.ofList address ++ ")"
  | .late address =>
    "request timed out: error sending request for url (" ++ String.ofList address ++ ")"
  | .unreachable address =>
    "connection failed: error sending request for url (" ++ String.ofList address ++ ")"
  | .unusable address => "builder error for url (" ++ String.ofList address ++ ")"
  | .astray address => "error following redirect for url (" ++ String.ofList address ++ ")"
  | .cutOff => "error decoding response body"

namespace Received

/-- Blanks around the value of a header. -/
def isBlank (b : UInt8) : Bool := b == 0x20 || b == 0x09

/-- Bytes without blanks around them. The blanks belong to the way a header is
written, not to its value. -/
def trimmed (bytes : List UInt8) : List UInt8 :=
  ((bytes.dropWhile isBlank).reverse.dropWhile isBlank).reverse

/-- Whether the head of the answer can be read: a status of three digits, and no controls in
headers. An answer that announces another one is none. -/
def isReadable (received : Received) : Bool :=
  100 ≤ received.status && received.status ≤ 999 &&
    (200 ≤ received.status || received.status == 101) &&
    received.headers.all fun header =>
      header.2.all fun b => (0x20 ≤ b && b != 0x7F) || b == 0x09

/-- The first value of a header. Names are compared without regard to case. -/
def header? (received : Received) (name : String) : Option (List UInt8) :=
  (received.headers.find? fun header => Text.sameWord header.1 name).map (trimmed ·.2)

/-- The body. Some answers have none, whatever follows them, and a body that is
shorter than was told is none either. -/
def content? (received : Received) : Option (List UInt8) :=
  if received.status < 200 || received.status == 204 || received.status == 304 then some []
  else
    match received.announced with
    | none => some received.body
    | some count => if count ≤ received.body.length then some (received.body.take count) else none

/-- The text of a header, if every character of it is visible. Any other header is
passed over. -/
def text? (value : List UInt8) : Option String :=
  if value.all fun b => (0x20 ≤ b && b < 0x7F) || b == 0x09 then
    some (String.ofList (value.map fun b => Char.ofNat b.toNat))
  else none

/-- The answer as a response: headers that are text, and a body that is made one.
Only an answer that broke off has no response. -/
def response (received : Received) : Except ExchangeFault Response :=
  match received.content? with
  | none => .error .cutOff
  | some content =>
    let empty : Response :=
      { status := received.status, body := String.ofList (Text.Utf8.decodeLossy content) }
    .ok (received.headers.foldl (fun response (name, value) =>
      match text? (trimmed value) with
      | none => response
      | some value => response.withHeader name value) empty)

end Received

end ExtensionPublisher.Http
