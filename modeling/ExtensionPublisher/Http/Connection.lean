import ExtensionPublisher.Client.Question
import ExtensionPublisher.Credentials
import ExtensionPublisher.Http.Redirect
import ExtensionPublisher.Release
import ExtensionPublisher.Settings

/-!
# Connections to the service

A connection belongs to a subscription: every request is about a resource below it, and tells
the version of the interface. It is made of credentials and settings, which are checked when
it is opened. What is sent over it goes to a network and comes back as a response.
-/
namespace ExtensionPublisher.Http

/-- A connection to the service. It is no more than what every request has in
common; nothing is sent to open it. -/
structure Connection where
  credentials : Credentials
  settings : Settings
  /-- The address of the subscription. -/
  base : Url.Address
  deriving DecidableEq, Repr

namespace Connection

/-- Whether a text can be the value of a header: it has no controls but tabs. -/
def isHeaderValue (text : String) : Bool :=
  text.toList.all fun c => (0x20 ≤ c.toNat && c.toNat ≠ 0x7F) || c == '\t'

/-- Open a connection. Everything that all requests depend on is checked here, so
that no request fails for it. -/
def establish (credentials : Credentials) (settings : Settings) : Except Fault Connection := do
  settings.validate
  let address ← settings.address
  if !isHeaderValue settings.apiVersion then
    throw (.invalidArgument "invalid api version: failed to parse header value")
  if !credentials.isPresentable then
    throw (.unusableCertificate "cannot build TLS client: builder error")
  let subscription := credentials.subscription.toList
  return {
    credentials, settings
    base := address.mapPath fun path => path.withoutTrailing.push subscription }

/-- The address of what a request is about. The segments are added behind the
subscription, and the pairs to the query. -/
def address (connection : Connection) (request : Request) : Url.Address :=
  let segments := request.segments.map String.toList
  (connection.base.mapPath (·.pushAll segments)).withPairs request.query

/-- Characters that the authority of an address must not have where it is sent. The
parser of addresses lets them through. -/
def isUnsendable (c : Char) : Bool := ['"', '\x60', '\x7b', '\x7d'].contains c

/-- The headers of every request. They do not depend on what is asked. -/
def headers (connection : Connection) : List (String × String) :=
  [("accept", "*/*"), ("content-type", "application/xml"), ("user-agent", Release.agent),
    ("x-ms-version", connection.settings.apiVersion)]

/-- The user of an address, as a header. Bytes that are no text are no user, and a
password needs no name. -/
def userHeader? (address : Url.Address) : Option (String × String) := do
  let name ← Text.Utf8.decode? (Url.percentDecode address.user.1)
  let password := (Text.Utf8.decode? (Url.percentDecode address.user.2)).getD []
  guard (!name.isEmpty || !password.isEmpty)
  let text := Certificate.Base64.encode (Text.Utf8.encode (name ++ ':' :: password))
  return ("authorization", "Basic " ++ String.ofList text)

/-- Send a request, and those that it leads to. A user in the address is sent as a
header instead. -/
def send {σ : Type} (network : Network σ) (connection : Connection) (request : Request) (state : σ) :
    Trip σ :=
  let address := connection.address request
  let user? := userHeader? address
  let address := if user?.isSome then address.withoutUser else address
  if address.authorityText.any isUnsendable then
    ⟨.error (.unusable address.text), 0, false, state⟩
  else
    Hop.travel network address.text greatestRedirects {
      address := { Url.Reference.split address.text with fragment? := none }
      method := request.method, headers := connection.headers ++ user?.toList, body := request.body }
      state

/-- Whether nothing came back in time. -/
def isLate : Except ExchangeFault Received → Bool
  | .error (.late _) => true
  | _ => false

/-- What a connection delivers over a network. Silence takes as much time as is
allowed, and faults on the way are told in words. -/
def transport {σ : Type} (network : Network σ) (connection : Connection) : Transport σ :=
  fun request state =>
    let trip := connection.send network request state
    let response := (trip.result.bind Received.response).mapError fun fault =>
      Fault.transportFailed fault.message
    let took := if isLate trip.result then connection.settings.requestTimeout else trip.took
    (⟨response, took, trip.calledOff⟩, trip.network)

/-- A connection is for usable settings, and it keeps them and the credentials as
they are. -/
theorem settings_of_establish {credentials : Credentials} {settings : Settings}
    {connection : Connection} (opened : establish credentials settings = .ok connection) :
    connection.settings = settings ∧ connection.credentials = credentials ∧
      settings.validate = .ok () := by
  unfold establish at opened
  cases valid : settings.validate with
  | error fault => simp [valid, bind, Except.bind] at opened
  | ok _ =>
    cases known : settings.address with
    | error fault => simp [valid, known, bind, Except.bind] at opened
    | ok address =>
      simp only [valid, known, bind, Except.bind, pure, Except.pure] at opened
      split at opened
      · cases opened
      · split at opened
        · cases opened
        · cases opened
          exact ⟨rfl, rfl, rfl⟩

end Connection

end ExtensionPublisher.Http
