import ExtensionPublisher.Text.Blank
import ExtensionPublisher.Url.Parse
import ExtensionPublisher.Wait.Settings

/-!
# Settings

Where the service is, which version of its interface is spoken, and how patient a client is.
Settings are checked once, in a fixed order, and the first unusable one is named.
-/
namespace ExtensionPublisher

/-- The settings of a client, with what is usual for each of them. -/
structure Settings where
  endpoint : String := "https://management.core.windows.net"
  apiVersion : String := "2014-08-01"
  /-- How long one request may take. -/
  requestTimeout : Nat := Duration.ofSeconds 60
  wait : WaitSettings := {}
  deriving DecidableEq, Repr

namespace Settings

/-- The address of the service. It has to be one of the web, whatever else can be
read as an address. -/
def address (settings : Settings) : Except Fault Url.Address :=
  match Url.parse settings.endpoint.toList with
  | .error fault =>
    .error (.invalidArgument ("invalid endpoint " ++ settings.endpoint ++ ": " ++ fault.message))
  | .ok address =>
    if address.scheme = "http".toList ∨ address.scheme = "https".toList then .ok address
    else
      .error (.invalidArgument ("endpoint must be an http(s) base URL, got " ++ settings.endpoint))

/-- Whether the settings are usable. They are looked at in a fixed order, and the
first thing that is wrong is told. -/
def validate (settings : Settings) : Except Fault Unit := do
  let _ ← settings.address
  if Text.blank settings.apiVersion then throw (.invalidArgument "api version must not be empty")
  if settings.requestTimeout = 0 then
    throw (.invalidArgument "request timeout must be greater than zero")
  settings.wait.validate

end Settings

end ExtensionPublisher
