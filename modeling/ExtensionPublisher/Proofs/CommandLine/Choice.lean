import ExtensionPublisher.CommandLine.Command
import ExtensionPublisher.Proofs.CommandLine.Given

/-!
# Settings on the command line

Every command about a subscription asks for it by the same seven flags. What it asks for is said here
from the value that counts for each flag, whatever the command line looks like: `orders`. A command line
on which the flags are given, in any order and in either spelling, asks for just that,
`settings_are_resolved`. So a setting depends on nothing but its own flag, its own variable and its own
usual value, and the number of failures that a wait puts up with is always the usual one.
-/
namespace ExtensionPublisher.CommandLine

/-- The subscription that values of flags describe. -/
def describedBy (value : Flag → String) : Subscription where
  id := value idFlag
  certificate := value certificateFlag
  settings := {
    endpoint := value endpointFlag
    apiVersion := value apiVersionFlag
    requestTimeout := Duration.ofSeconds (number (value timeoutFlag))
    wait := {
      interval := Duration.ofSeconds (number (value intervalFlag))
      deadline := Duration.ofSeconds (number (value deadlineFlag))
      failureBound := 3 } }

/-- The version that values of flags name. -/
def namedBy (value : Flag → String) : VersionName :=
  ⟨value providerFlag, value nameFlag, value versionFlag⟩

/-- A command about a subscription: its word, the flags that it has besides those of the subscription,
and what it asks for. -/
structure Order where
  word : String
  own : List Flag
  command : Command

/-- The commands about a subscription, when flags have values. The command that only
writes a manifest asks no service, and is none of them. -/
def orders (value : Flag → String) : List Order := [
  ⟨"list-versions", [], .listVersions (describedBy value)⟩,
  ⟨"replication-status", versionFlags, .replicationStatus (describedBy value) (namedBy value)⟩,
  ⟨"update-version", [manifestFlag], .updateVersion (describedBy value) (value manifestFlag)⟩,
  ⟨"unpublish-version", versionFlags, .unpublishVersion (describedBy value) (namedBy value)⟩,
  ⟨"delete-version", versionFlags, .deleteVersion (describedBy value) (namedBy value)⟩]

variable {environment values : Values} {given : List Given} {value : Flag → String}

/-- A command line with the word of a command resolves the flags of the command. The
words are different, so each is looked up in turn. -/
theorem read_word {form : Form} (member : form ∈ forms) (arguments : List String) :
    read environment (form.word :: arguments) =
      (resolve form.flags environment arguments).map form.command := by
  simp only [forms, List.mem_cons, List.not_mem_nil, or_false] at member
  rcases member with rfl | rfl | rfl | rfl | rfl | rfl <;> rfl

/-- The flags of the commands about a subscription can be told from each other. They
are fixed, and there are three lists of them. -/
theorem named_of_order {order : Order} (member : order ∈ orders value) :
    AreNamed (subscriptionFlags ++ order.own) := by
  have bare : AreNamed (subscriptionFlags ++ []) := by decide
  have versions : AreNamed (subscriptionFlags ++ versionFlags) := by decide
  have manifest : AreNamed (subscriptionFlags ++ [manifestFlag]) := by decide
  simp only [orders, List.mem_cons, List.not_mem_nil, or_false] at member
  rcases member with rfl | rfl | rfl | rfl | rfl
  · exact bare
  · exact versions
  · exact manifest
  · exact versions
  · exact versions

/-- Where a flag takes a number, one counts. On the command line and in the
environment it had to be one, and what is usual is one. -/
theorem is_number_of_counts {flag : Flag} {text : String} (seconds : flag.kind = .seconds)
    (usual : ∀ given, flag.usual? = some given → IsNumber given)
    (counts : Counts environment given flag text) : IsNumber text := by
  cases counts with
  | onCommandLine _ _ suits | inEnvironment _ _ _ suits => exact suits.number seconds
  | usual _ _ known => exact usual text known

/-- The length of time that counts for a flag. A value that is a number is read as
so many seconds. -/
theorem duration_of_counts {flag : Flag} (counts : Counts environment given flag (value flag))
    (same : flag.value values = value flag) (seconds : flag.kind = .seconds)
    (usual : ∀ text, flag.usual? = some text → IsNumber text) :
    flag.duration values = Duration.ofSeconds (number (value flag)) := by
  rw [Flag.duration, same, seconds_of_number (is_number_of_counts seconds usual counts),
    Option.getD_some]

/-- The values that count describe the subscription. Three of them are lengths of
time, which need a number each; the others are taken as they are. -/
theorem subscription_of_counts
    (counts : ∀ flag ∈ subscriptionFlags, Counts environment given flag (value flag))
    (same : ∀ flag ∈ subscriptionFlags, flag.value values = value flag) :
    subscriptionOf values = describedBy value := by
  have interval := duration_of_counts (counts intervalFlag (by decide)) (same _ (by decide)) rfl
    (by rintro _ ⟨⟩; decide)
  have deadline := duration_of_counts (counts deadlineFlag (by decide)) (same _ (by decide)) rfl
    (by rintro _ ⟨⟩; decide)
  have timeout := duration_of_counts (counts timeoutFlag (by decide)) (same _ (by decide)) rfl
    (by rintro _ ⟨⟩; decide)
  simp only [subscriptionOf, describedBy, interval, deadline, timeout, same idFlag (by decide),
    same certificateFlag (by decide), same endpointFlag (by decide), same apiVersionFlag (by decide)]

/-- The values that count name the version. -/
theorem version_of_counts (same : ∀ flag ∈ versionFlags, flag.value values = value flag) :
    versionOf values = namedBy value := by
  simp only [versionOf, namedBy, same providerFlag (by decide), same nameFlag (by decide),
    same versionFlag (by decide)]

/-- A command about a subscription has the flags of a subscription and its own, and
asks for what their values say. The forms of the program and the orders here are
compared one by one. -/
theorem form_of_order {order : Order} (member : order ∈ orders value) :
    ∃ form ∈ forms, form.word = order.word ∧ form.flags = subscriptionFlags ++ order.own ∧
      ∀ values, subscriptionOf values = describedBy value →
        (∀ flag ∈ order.own, flag.value values = value flag) → form.command values = order.command := by
  simp only [orders, List.mem_cons, List.not_mem_nil, or_false] at member
  rcases member with rfl | rfl | rfl | rfl | rfl
  · exact ⟨forms[1], List.getElem_mem _, rfl, rfl, fun _ subscription _ =>
      congrArg Command.listVersions subscription⟩
  · exact ⟨forms[2], List.getElem_mem _, rfl, rfl, fun _ subscription same =>
      congrArg₂ Command.replicationStatus subscription (version_of_counts same)⟩
  · exact ⟨forms[3], List.getElem_mem _, rfl, rfl, fun _ subscription same =>
      congrArg₂ Command.updateVersion subscription (same manifestFlag List.mem_cons_self)⟩
  · exact ⟨forms[4], List.getElem_mem _, rfl, rfl, fun _ subscription same =>
      congrArg₂ Command.unpublishVersion subscription (version_of_counts same)⟩
  · exact ⟨forms[5], List.getElem_mem _, rfl, rfl, fun _ subscription same =>
      congrArg₂ Command.deleteVersion subscription (version_of_counts same)⟩

/-- A command line asks for what the values say that count for its flags. The flags
are resolved by the general rule, and the form makes a command of the values. -/
theorem read_of_said {order : Order} (member : order ∈ orders value)
    (said : IsSaid (subscriptionFlags ++ order.own) environment given value) :
    read environment (order.word :: given.flatMap Given.arguments) = .ok order.command := by
  obtain ⟨form, known, word, flags, asked⟩ := form_of_order member
  obtain ⟨values, resolved, same⟩ := resolve_of_said (named_of_order member) said
  have subscription : subscriptionOf values = describedBy value :=
    subscription_of_counts (fun flag inside => said.counts flag (List.mem_append_left _ inside))
      fun flag inside => same flag (List.mem_append_left _ inside)
  rw [← word, read_word known, flags, resolved]
  exact congrArg Except.ok
    (asked values subscription fun flag inside => same flag (List.mem_append_right _ inside))

/-- Settings are taken from the command line, or else from the environment, or else they are as usual,
each on its own: a command line on which flags are given, each at most once, in any order, in either
spelling and with suitable values, is accepted, and asks for the command of its word with the value that
counts for each flag. The first part says which flags there are, which variables they have and what is
usual. -/
theorem settings_are_resolved :
    (subscriptionFlags ++ versionFlags ++ [manifestFlag]).map
        (fun flag => (flag.name, flag.environment?, flag.usual?)) =
      [("subscription-id", some "AZEXT_SUBSCRIPTION_ID", none),
        ("subscription-cert", some "AZEXT_SUBSCRIPTION_CERT", none),
        ("endpoint", some "AZEXT_ENDPOINT", some "https://management.core.windows.net"),
        ("api-version", some "AZEXT_API_VERSION", some "2014-08-01"),
        ("poll-interval", some "AZEXT_POLL_INTERVAL_SECS", some "5"),
        ("poll-deadline", some "AZEXT_POLL_DEADLINE_SECS", some "600"),
        ("request-timeout", some "AZEXT_REQUEST_TIMEOUT_SECS", some "60"),
        ("namespace", none, none), ("name", none, none), ("version", none, none),
        ("manifest", none, none)] ∧
    ∀ (environment : Values) (given : List Given) (value : Flag → String),
      ∀ order ∈ orders value, IsSaid (subscriptionFlags ++ order.own) environment given value →
        read environment (order.word :: given.flatMap Given.arguments) = .ok order.command :=
  ⟨rfl, fun _ _ _ _ member said => read_of_said member said⟩

/-- What is given for flags in the environment: some of it counts, and some does not. -/
def ownEnvironment : Values := [("AZEXT_POLL_INTERVAL_SECS", "7"), ("AZEXT_ENDPOINT", "http://elsewhere"),
  ("AZEXT_POLL_DEADLINE_SECS", "90"), ("AZEXT_SUBSCRIPTION_CERT", "own.pem")]

/-- What is given for flags on the command line, in both spellings. -/
def ownFlags : List Given := [⟨versionFlag, "-1=x", true⟩, ⟨intervalFlag, "002", false⟩,
  ⟨nameFlag, "Agent", false⟩, ⟨idFlag, "sub-1", true⟩, ⟨endpointFlag, "http://localhost", false⟩,
  ⟨providerFlag, "Contoso", true⟩]

/-- The values that count. -/
def ownValue (flag : Flag) : String :=
  ([(versionFlag, "-1=x"), (intervalFlag, "002"), (nameFlag, "Agent"), (idFlag, "sub-1"),
    (endpointFlag, "http://localhost"), (providerFlag, "Contoso"), (certificateFlag, "own.pem"),
    (deadlineFlag, "90"), (apiVersionFlag, "2014-08-01"), (timeoutFlag, "60")].lookup flag).getD ""

/-- One of those flags counts with its value, as it is on the command line. -/
theorem own_flag_counts {own : Given} (member : own ∈ ownFlags) :
    Counts ownEnvironment ownFlags own.flag own.value := by
  have suits : ∀ own ∈ ownFlags, own.value ≠ "" ∧ (own.flag.kind = .seconds → IsNumber own.value) := by
    decide +kernel
  exact .onCommandLine member rfl ⟨(suits own member).1, (suits own member).2⟩

/-- For every flag of the command some value counts: six are on the command line, two in the environment,
and two are as usual. -/
theorem own_flags_are_said :
    IsSaid (subscriptionFlags ++ versionFlags) ownEnvironment ownFlags ownValue where
  known := by decide
  once := by decide
  plain := by decide
  counts := by
    have given : ∀ own ∈ ownFlags, Counts ownEnvironment ownFlags own.flag own.value :=
      fun _ => own_flag_counts
    simp only [ownFlags, List.forall_mem_cons] at given
    obtain ⟨version, interval, name, id, endpoint, provider, _⟩ := given
    have certificate : Counts ownEnvironment ownFlags certificateFlag "own.pem" :=
      .inEnvironment (by decide) rfl (by decide) ⟨by decide, nofun⟩
    have deadline : Counts ownEnvironment ownFlags deadlineFlag "90" :=
      .inEnvironment (by decide) rfl (by decide) ⟨by decide, fun _ => by decide⟩
    have apiVersion : Counts ownEnvironment ownFlags apiVersionFlag "2014-08-01" :=
      .usual (by decide) (by rintro _ ⟨⟩; decide) rfl
    have timeout : Counts ownEnvironment ownFlags timeoutFlag "60" :=
      .usual (by decide) (by rintro _ ⟨⟩; decide) rfl
    simp only [subscriptionFlags, versionFlags, List.cons_append, List.nil_append, List.forall_mem_cons]
    exact ⟨id, certificate, endpoint, apiVersion, interval, deadline, timeout, provider, name, version,
      nofun⟩

/-- Settings from all three places and in both spellings are resolved. The endpoint and the interval are
in two places, and those on the command line count. -/
theorem own_settings_are_resolved :
    IsSaid (subscriptionFlags ++ versionFlags) ownEnvironment ownFlags ownValue ∧
      read ownEnvironment ("delete-version" :: ["--version=-1=x", "--poll-interval", "002", "--name",
        "Agent", "--subscription-id=sub-1", "--endpoint", "http://localhost", "--namespace=Contoso"]) =
      .ok (.deleteVersion
        ⟨"sub-1", "own.pem", {
          endpoint := "http://localhost"
          wait := { interval := Duration.ofSeconds 2, deadline := Duration.ofSeconds 90 } }⟩
        ⟨"Contoso", "Agent", "-1=x"⟩) := by
  have member : (⟨"delete-version", versionFlags,
      .deleteVersion (describedBy ownValue) (namedBy ownValue)⟩ : Order) ∈ orders ownValue :=
    List.mem_of_getElem? (i := 4) rfl
  have asked := settings_are_resolved.2 ownEnvironment ownFlags ownValue _ member own_flags_are_said
  exact ⟨own_flags_are_said, asked⟩

end ExtensionPublisher.CommandLine
