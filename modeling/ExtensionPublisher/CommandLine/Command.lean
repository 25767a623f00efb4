import ExtensionPublisher.CommandLine.Arguments
import ExtensionPublisher.Manifest
import ExtensionPublisher.Settings

/-!
# Commands

The first argument names a command, and the rest are its flags. All commands but the one that
prints a manifest are about a subscription, and share the flags that describe it. The number
of failures that a wait puts up with is not for the command line to say.
-/
namespace ExtensionPublisher.CommandLine

/-- A subscription: its id, the file with its certificate and key, and how to reach the
service. -/
structure Subscription where
  id : String
  certificate : String
  settings : Settings
  deriving DecidableEq, Repr

/-- What the command line asks for, with all that is needed to carry it out. -/
inductive Command where
  | newManifest (details : Manifest.Details)
  | listVersions (subscription : Subscription)
  | replicationStatus (subscription : Subscription) (name : VersionName)
  | updateVersion (subscription : Subscription) (manifest : String)
  | unpublishVersion (subscription : Subscription) (name : VersionName)
  | deleteVersion (subscription : Subscription) (name : VersionName)
  deriving DecidableEq, Repr

/-- The subscription that a command is about. A manifest can be written without one.
-/
def Command.subscription? : Command → Option Subscription
  | .newManifest _ => none
  | .listVersions subscription | .replicationStatus subscription _
  | .updateVersion subscription _ | .unpublishVersion subscription _
  | .deleteVersion subscription _ => some subscription

/-- The files that a command reads, by their paths. -/
def Command.paths (command : Command) : List String :=
  let manifest :=
    match command with
    | .updateVersion _ path => [path]
    | _ => []
  manifest ++ command.subscription?.toList.map (·.certificate)

/-- The id of the subscription. -/
def idFlag : Flag :=
  { name := "subscription-id", label := "SUBSCRIPTION_ID", environment? := "AZEXT_SUBSCRIPTION_ID" }

/-- The file with the certificate of the subscription and its key. -/
def certificateFlag : Flag :=
  { name := "subscription-cert", label := "SUBSCRIPTION_CERT"
    environment? := "AZEXT_SUBSCRIPTION_CERT" }

/-- Where the service is. -/
def endpointFlag : Flag :=
  { name := "endpoint", label := "ENDPOINT", kind := .anything
    environment? := "AZEXT_ENDPOINT", usual? := "https://management.core.windows.net" }

/-- The version of the interface of the service. -/
def apiVersionFlag : Flag :=
  { name := "api-version", label := "API_VERSION", kind := .anything
    environment? := "AZEXT_API_VERSION", usual? := "2014-08-01" }

/-- How long a wait pauses between two queries. -/
def intervalFlag : Flag :=
  { name := "poll-interval", label := "POLL_INTERVAL_SECS", kind := .seconds
    environment? := "AZEXT_POLL_INTERVAL_SECS", usual? := "5" }

/-- How long a wait lasts at most. -/
def deadlineFlag : Flag :=
  { name := "poll-deadline", label := "POLL_DEADLINE_SECS", kind := .seconds
    environment? := "AZEXT_POLL_DEADLINE_SECS", usual? := "600" }

/-- How long one request may take. -/
def timeoutFlag : Flag :=
  { name := "request-timeout", label := "REQUEST_TIMEOUT_SECS", kind := .seconds
    environment? := "AZEXT_REQUEST_TIMEOUT_SECS", usual? := "60" }

/-- The first part of the name of a version. -/
def providerFlag : Flag := { name := "namespace", label := "NAMESPACE" }

/-- The second part of the name of a version. -/
def nameFlag : Flag := { name := "name", label := "NAME" }

/-- The last part of the name of a version. -/
def versionFlag : Flag := { name := "version", label := "VERSION" }

/-- The file with the manifest to submit. -/
def manifestFlag : Flag := { name := "manifest", label := "MANIFEST" }

/-- The title of an extension. -/
def labelFlag : Flag := { name := "label", label := "LABEL" }

/-- What an extension does. -/
def descriptionFlag : Flag := { name := "description", label := "DESCRIPTION" }

/-- Where the licence of an extension is. -/
def eulaFlag : Flag := { name := "eula-url", label := "EULA_URL" }

/-- Where the privacy statement of an extension is. -/
def privacyFlag : Flag := { name := "privacy-url", label := "PRIVACY_URL" }

/-- Where the homepage of an extension is. -/
def homepageFlag : Flag := { name := "homepage-url", label := "HOMEPAGE_URL" }

/-- Who makes an extension. -/
def companyFlag : Flag := { name := "company", label := "COMPANY" }

/-- The system that an extension is for. -/
def systemFlag : Flag := { name := "supported-os", label := "SUPPORTED_OS" }

/-- The flags that describe a subscription. -/
def subscriptionFlags : List Flag :=
  [idFlag, certificateFlag, endpointFlag, apiVersionFlag, intervalFlag, deadlineFlag, timeoutFlag]

/-- The flags that name a version. -/
def versionFlags : List Flag := [providerFlag, nameFlag, versionFlag]

/-- The flags that describe a manifest, apart from the name of the version. -/
def detailFlags : List Flag :=
  [labelFlag, descriptionFlag, eulaFlag, privacyFlag, homepageFlag, companyFlag, systemFlag]

/-- The length of time that the value of a flag gives, which was examined before. -/
def Flag.duration (flag : Flag) (values : Values) : Nat :=
  Duration.ofSeconds ((seconds? (flag.value values)).getD 0)

/-- The subscription that values describe. -/
def subscriptionOf (values : Values) : Subscription where
  id := idFlag.value values
  certificate := certificateFlag.value values
  settings := {
    endpoint := endpointFlag.value values
    apiVersion := apiVersionFlag.value values
    requestTimeout := timeoutFlag.duration values
    wait := { interval := intervalFlag.duration values, deadline := deadlineFlag.duration values } }

/-- The version that values name. -/
def versionOf (values : Values) : VersionName :=
  ⟨providerFlag.value values, nameFlag.value values, versionFlag.value values⟩

/-- The details that values describe. -/
def detailsOf (values : Values) : Manifest.Details where
  name := versionOf values
  label := labelFlag.value values
  description := descriptionFlag.value values
  eulaUrl := eulaFlag.value values
  privacyUrl := privacyFlag.value values
  homepageUrl := homepageFlag.value values
  company := companyFlag.value values
  supportedOs := systemFlag.value values

/-- A command: its word, its flags, and what their values ask for. All commands are
read alike from their forms. -/
structure Form where
  word : String
  flags : List Flag
  command : Values → Command

/-- All commands. -/
def forms : List Form := [
  { word := "new-extension-manifest"
    flags := versionFlags ++ detailFlags
    command := fun values => .newManifest (detailsOf values) },
  { word := "list-versions"
    flags := subscriptionFlags
    command := fun values => .listVersions (subscriptionOf values) },
  { word := "replication-status"
    flags := subscriptionFlags ++ versionFlags
    command := fun values => .replicationStatus (subscriptionOf values) (versionOf values) },
  { word := "update-version"
    flags := subscriptionFlags ++ [manifestFlag]
    command := fun values => .updateVersion (subscriptionOf values) (manifestFlag.value values) },
  { word := "unpublish-version"
    flags := subscriptionFlags ++ versionFlags
    command := fun values => .unpublishVersion (subscriptionOf values) (versionOf values) },
  { word := "delete-version"
    flags := subscriptionFlags ++ versionFlags
    command := fun values => .deleteVersion (subscriptionOf values) (versionOf values) }]

/-- Whether an argument is the word of a command or asks for help. -/
def isWord (argument : String) : Bool :=
  argument == "help" || forms.any (·.word == argument)

/-- What a request for help about something leads to: at most one command can be
named. -/
def helpAbout : List String → Refusal
  | [] => .helpAsked
  | [word] => if isWord word then .helpAsked else .unknownCommand
  | _ => .unknownCommand

/-- Read a command line. The first argument has to be the word of a command, or ask
for something about the program. -/
def read (environment : Values) : List String → Except Refusal Command
  | [] => .error .helpNeeded
  | argument :: rest =>
    match Argument.of argument with
    | .divider =>
      match rest with
      | [] => .error .helpNeeded
      | next :: _ => .error (if isWord next then .unknownArgument next else .unknownCommand)
    | .long "help" none | .short 'h' => .error .helpAsked
    | .long "version" none | .short 'V' => .error .versionAsked
    | .long "help" (some _) => .error (.unexpectedValue "--help")
    | .long "version" (some _) => .error (.unexpectedValue "--version")
    | .long name _ => .error (.unknownArgument ("--" ++ name))
    | .short letter => .error (.unknownArgument ("-" ++ letter.toString))
    | .plain =>
      if argument = "help" then .error (helpAbout rest)
      else
        match forms.find? (·.word == argument) with
        | none => .error .unknownCommand
        | some form => (resolve form.flags environment rest).map form.command

end ExtensionPublisher.CommandLine
