import ExtensionPublisher.Http.Message
import ExtensionPublisher.Proofs.Client.Direct
import ExtensionPublisher.Proofs.Client.Questions
import ExtensionPublisher.Proofs.Manifest.Placeholder
import ExtensionPublisher.Proofs.Program.Ending
import ExtensionPublisher.Proofs.Text.Utf8

/-!
# How a manifest is submitted

A file may be submitted if its bytes are a text that says something and has no placeholder. Any other
file ends the run before the certificate is read, and nothing is sent. The client has a check of its own,
which knows fewer blanks than the program's; so it never refuses what the program lets through,
`manifest_body_of_submittable`.

What is let through is sent as it stands. The first request of the run is the one that submits it, and
behind it the run only asks how the operation stands, so nothing is submitted twice:
`manifest_is_submitted_once`. Where answers lead on to other addresses, a record has more requests than
these; a direct record has no others.
-/
namespace ExtensionPublisher

open Http

/-! ## Files -/

/-- A file may be submitted: its bytes are a text that has something but blanks and no placeholder. -/
def Manifest.Submittable (bytes : List UInt8) : Prop :=
  ∃ text : String, Text.Utf8.encode text.toList = bytes ∧ Text.blank text = false ∧
    ¬ placeholder <:+: text.toList

/-- A character whose bytes all count as blank for the client is blank. It has one byte, as none of
several bytes is that small. -/
theorem Text.is_blank_of_bytes {c : Char}
    (small : ∀ b ∈ String.utf8EncodeChar c, (b < 128 && isPlainBlank (Char.ofNat b.toNat)) = true) :
    isBlank c = true := by
  by_cases single : c.val.toNat ≤ 0x7F
  · have bytes : String.utf8EncodeChar c = [UInt8.ofNat c.val.toNat] := by
      rw [String.utf8EncodeChar, if_pos single]
    rw [bytes, List.forall_mem_singleton, Bool.and_eq_true, Utf8.to_nat_of_nat (by omega)] at small
    have code : Char.ofNat c.val.toNat = c := Char.ofNat_toNat c
    rw [code] at small
    exact blank_of_plain small.2
  · have first : ∃ b ∈ String.utf8EncodeChar c, 128 ≤ b.toNat := by
      rw [String.utf8EncodeChar, if_neg single]
      repeat' split
      all_goals
        refine ⟨_, List.mem_cons_self, ?_⟩
        rw [Utf8.to_nat_of_nat (by omega)]
        omega
    obtain ⟨b, member, large⟩ := first
    have low := small b member
    simp only [Bool.and_eq_true, decide_eq_true_eq, UInt8.lt_iff_toNat_lt, UInt8.reduceToNat] at low
    omega

/-- What may be submitted is not refused by the client. It looks at bytes and the
program at characters, but bytes that are all blank to the client are a blank text.
-/
theorem Manifest.manifest_body_of_submittable {bytes : List UInt8} (submittable : Submittable bytes) :
    Question.manifestBody bytes = .ok bytes := by
  obtain ⟨text, rfl, spoken, _⟩ := submittable
  rw [Question.manifestBody, if_neg]
  intro small
  rw [Text.Utf8.encode, List.all_flatMap, List.all_eq_true] at small
  refine Bool.eq_false_iff.mp spoken (List.all_eq_true.mpr fun c member => ?_)
  exact Text.is_blank_of_bytes (List.all_eq_true.mp (small c member))

namespace Program

/-- A file that may be submitted is read as the text whose bytes it holds. So the
bytes that are sent are those of the file. -/
theorem read_manifest_of_submittable {files : Files} {path : String} {bytes : List UInt8}
    (held : files path = .ok bytes) (submittable : Manifest.Submittable bytes) :
    ∃ manifest, readManifest files path = .ok manifest ∧ Text.Utf8.encode manifest.toList = bytes := by
  obtain ⟨text, same, spoken, filled⟩ := submittable
  have decoded : Text.Utf8.decode? bytes = some text.toList := Text.Utf8.decode_eq_some_iff.mpr same
  have checked : Manifest.check text = .ok () := (Manifest.check_eq_ok_iff text).mpr ⟨spoken, filled⟩
  refine ⟨text, ?_, same⟩
  simp [readManifest, held, decoded, checked, bind, Except.bind, pure, Except.pure]

/-- Any other file is a failure that is no fault of the client, and the same one
wherever it is: it is no text, it is blank, or a placeholder is left in it. -/
theorem read_manifest_of_not_submittable {bytes : List UInt8} (path : String)
    (unfit : ¬ Manifest.Submittable bytes) :
    ∃ failure : Failure, failure.fault? = none ∧
      ∀ files : Files, files path = .ok bytes → readManifest files path = .error failure := by
  cases decoded : Text.Utf8.decode? bytes with
  | none =>
    refine ⟨.unreadable "manifest" path "stream did not contain valid UTF-8", rfl, ?_⟩
    intro files held
    simp [readManifest, held, decoded, bind, Except.bind, throw, throwThe, MonadExceptOf.throw]
  | some text =>
    cases checked : Manifest.check (String.ofList text) with
    | ok _ =>
      obtain ⟨spoken, filled⟩ := (Manifest.check_eq_ok_iff _).mp checked
      have same := Text.Utf8.decode_eq_some_iff.mp decoded
      exact absurd ⟨String.ofList text, by rwa [String.toList_ofList], spoken, filled⟩ unfit
    | error flaw =>
      refine ⟨.unsubmittable flaw, rfl, ?_⟩
      intro files held
      simp [readManifest, held, decoded, checked, bind, Except.bind]

/-! ## Changes -/

section Changes

variable {σ : Type} {question : Question String} {request : Request}
  (made : question.request = .ok request) (operation : String) (warnings : List Log.Entry)
  (surroundings : Surroundings σ) (connection : Connection) (state : σ)

include made

/-- All that a change does to the network. It sends its request, and if the answer names an operation it
waits, unless it is interrupted before. What the client asks for meanwhile is told apart from the
instants. -/
theorem change_cases :
    let transport := connection.transport surroundings.network
    let heard := connection.transport surroundings.network.untilInterrupted request (state, false)
    let report := change surroundings connection operation warnings question state
    (report.network = heard.2.1 ∧ report.requests.map (·.2) = [request]) ∨
    ∃ id, heard.1.calledOff = false ∧ question.conclude heard.1.result = .ok id ∧
      report.network = (connection.settings.wait.wait none (statusSource transport)
        surroundings.interruptedAt? id heard.2.1).source ∧
      ∃ queries, report.requests.map (·.2) = request :: queries ∧
        ∀ query ∈ queries, query = reportRequest id := by
  simp only [change, Question.ask, made]
  generalize connection.transport surroundings.network.untilInterrupted request (state, false) = heard
  cases calledOff : heard.1.calledOff with
  | true => exact .inl ⟨rfl, rfl⟩
  | false =>
    cases concluded : question.conclude heard.1.result with
    | error fault => exact .inl ⟨rfl, rfl⟩
    | ok id =>
      refine .inr ⟨id, rfl, rfl, rfl, ?_⟩
      simp only [Bool.false_eq_true, if_false, await, Option.toList_some, List.map_cons, List.map_nil,
        List.singleton_append]
      refine ⟨_, rfl, ?_⟩
      intro query member
      simp only [List.mem_map, List.mem_flatMap, Option.mem_toList] at member
      obtain ⟨_, ⟨start, _, sent, known, rfl⟩, rfl⟩ := member
      simp only [Question.report, Question.require] at known
      split at known
      · cases known
      · exact (Option.some.inj known).symm

/-- The record of a change begins with the request, unless it cannot be sent; then nothing is. If the
record is direct, there are only requests for the report behind that. -/
theorem change_direct {credentials : Credentials} {settings : Settings} {connection : Connection}
    (opened : Connection.establish credentials settings = .ok connection)
    (accepted : connection.settings.wait.validate = .ok ())
    (reads : question.read = Response.operationId) :
    let left := (change surroundings.recorded connection operation warnings question
      (state, [])).network.2
    ((connection.reached request).authorityText.any Connection.isUnsendable = true ∧ left = []) ∨
    ∃ exchange later, left = exchange :: later ∧ connection.Carries request exchange.1 ∧
      (Record.IsDirect left → ∀ query ∈ later, ∃ id, connection.Carries (reportRequest id) query.1) := by
  intro left
  have course := change_cases made operation warnings surroundings.recorded connection (state, [])
  have submitted := Connection.transport_direct opened request surroundings.network state []
  have network : surroundings.recorded.network = surroundings.network.recorded := rfl
  rw [network] at course
  dsimp only at course submitted
  rcases connection.transport_until_interrupted request surroundings.network state [] with
    ⟨heard, _⟩ | ⟨loud, more, rest, cutOff, whole, interrupted⟩
  · rw [heard] at course
    generalize connection.transport surroundings.network.recorded request (state, []) = delivered
      at course submitted
    obtain ⟨delivery, standing, record⟩ := delivered
    simp only [List.nil_append] at submitted
    rcases course with ⟨unbegun, _⟩ | ⟨id, _, named, awaited, _⟩
    · have known : left = record := congrArg Prod.snd unbegun
      rw [known]
      rcases submitted with ⟨unsendable, nothing, _⟩ | ⟨exchange, more, begins, carries, once⟩
      · exact .inl ⟨unsendable, nothing⟩
      · refine .inr ⟨exchange, more, begins, carries, ?_⟩
        intro direct
        rw [once (Record.is_direct_cons.mp (begins ▸ direct)).1]
        exact fun _ member => absurd member List.not_mem_nil
    · obtain ⟨response, answered, _, read⟩ := Question.of_conclude named
      have spoken : Text.blank id = false := Response.blank_of_operation_id (reads ▸ read)
      rcases submitted with ⟨_, _, message, fails⟩ | ⟨exchange, more, begins, carries, once⟩
      · cases answered.symm.trans fails
      · obtain ⟨waited, behind, asks⟩ := wait_direct opened surroundings.network spoken accepted none
          surroundings.interruptedAt? standing record
        have known : left = exchange :: (more ++ waited) := by
          rw [← List.cons_append, ← begins, ← behind]
          exact congrArg Prod.snd awaited
        refine .inr ⟨exchange, more ++ waited, known, carries, ?_⟩
        intro direct
        rw [known, ← List.cons_append, Record.is_direct_append, Record.is_direct_cons] at direct
        rw [once direct.1.1, List.nil_append]
        exact fun query member => ⟨id, asks direct.2 query member⟩
  · -- The change ends with the interruption, so there is no wait.
    have known : left = more := by
      rcases course with ⟨unbegun, _⟩ | ⟨_, quiet, _⟩
      · exact (congrArg Prod.snd unbegun).trans cutOff
      · cases loud.symm.trans quiet
    rw [known]
    rw [List.nil_append] at whole
    rcases submitted with ⟨_, nothing, _⟩ | ⟨exchange, others, begins, carries, once⟩
    · obtain rfl : rest = [] := whole.symm.trans nothing
      exact absurd (List.prefix_nil.mp interrupted.begins) interrupted.ne_nil
    · obtain ⟨later, cut, alone⟩ := Record.direct_of_interrupted interrupted
        (whole.symm.trans begins) once
      refine .inr ⟨exchange, later, cut, carries, ?_⟩
      intro direct
      rw [alone direct]
      exact fun _ member => absurd member List.not_mem_nil

end Changes

/-! ## Runs -/

variable {σ : Type} {environment : CommandLine.Values} {arguments : List String}
  {subscription : CommandLine.Subscription} {path : String}

/-- What a run leaves in the record is what its command leaves there. Writing the
log sends nothing. -/
theorem exchanges_of_read {command : CommandLine.Command}
    (parsed : CommandLine.read environment arguments = .ok command) (surroundings : Surroundings σ)
    (network : σ) :
    exchanges environment arguments surroundings network =
      (perform surroundings.recorded (network, []) command).network.2 := by
  simp only [exchanges, run, parsed, Report.ending]

/-- A connection for a subscription is made of credentials that were read, and of
the settings. What is known of every connection is so known of this one. -/
theorem establish_of_connect {files : Files} {connection : Connection}
    (connected : connect files subscription = .ok connection) :
    ∃ credentials, Connection.establish credentials subscription.settings = .ok connection := by
  obtain ⟨text, _, connected⟩ := ok_of_bind connected
  obtain ⟨credentials, _, connected⟩ := ok_of_bind connected
  exact ⟨credentials, ok_of_map_error connected⟩

/-- A manifest that may not be submitted ends every run at once, and all alike. It
is read in front of the certificate, so nothing of the other files matters. -/
theorem perform_of_not_submittable {bytes : List UInt8} (subscription : CommandLine.Subscription)
    (path : String) (unfit : ¬ Manifest.Submittable bytes) :
    ∃ failure : Failure, failure.exitCode = 1 ∧
      ∀ (τ : Type) (surroundings : Surroundings τ) (network : τ),
        surroundings.files path = .ok bytes →
          perform surroundings network (.updateVersion subscription path) =
            { conclusion := .failed failure, network } := by
  obtain ⟨failure, blameless, unread⟩ := read_manifest_of_not_submittable path unfit
  refine ⟨failure, by simp only [Failure.exitCode, blameless], ?_⟩
  intro τ surroundings network held
  simp only [perform, unread surroundings.files held]

/-- A manifest that may be submitted is a change over the connection of the
subscription, with no warnings in front of it. -/
theorem perform_of_submittable (surroundings : Surroundings σ) {bytes : List UInt8}
    (held : surroundings.files path = .ok bytes) (submittable : Manifest.Submittable bytes)
    {connection : Connection} (connected : connect surroundings.files subscription = .ok connection)
    (network : σ) :
    perform surroundings network (.updateVersion subscription path) =
      change surroundings connection "UpdateExtension" [] (Question.update bytes) network := by
  obtain ⟨manifest, read, same⟩ := read_manifest_of_submittable held submittable
  simp only [perform, read, connected, same]

/-- A manifest that may be submitted is submitted once, as its bytes stand; any other file ends the run
with nothing sent.

The run that ends at once is the same with any other files in the place of the certificate. A connection
sends the submission first, unless its endpoint is none that can be written in a request. Behind that
the client asks only for reports, and a record in which no answer leads on has nothing else in it,
whatever the answers are. No manifest for publishing may be submitted before its placeholder is filled
in, and a manifest for unpublishing has one only if a part of the name does. -/
theorem manifest_is_submitted_once
    (parsed : CommandLine.read environment arguments = .ok (.updateVersion subscription path))
    (surroundings : Surroundings σ) (network : σ) {bytes : List UInt8}
    (held : surroundings.files path = .ok bytes) (details : Manifest.Details) (name : VersionName) :
    let ending (files : Files) := run environment arguments { surroundings with files } network
    let exchanges := exchanges environment arguments surroundings network
    let submission : Request := {
      method := .put, segments := ["services", "extensions"], query := [("action", "update")],
      body := some bytes }
    (¬ Manifest.Submittable bytes →
      exchanges = [] ∧ (ending surroundings.files).exitCode = some 1 ∧
        ∀ files : Files, files path = .ok bytes → ending files = ending surroundings.files) ∧
    (Manifest.Submittable bytes → Question.manifestBody bytes = .ok bytes ∧
      ∀ connection, connect surroundings.files subscription = .ok connection →
        (∃ queries,
          (perform surroundings network (.updateVersion subscription path)).requests.map (·.2) =
            submission :: queries ∧
          ∀ query ∈ queries, ∃ id, query = reportRequest id) ∧
        ((connection.reached submission).authorityText.any Connection.isUnsendable = true ∧
            exchanges = [] ∨
          ∃ first later, exchanges = first :: later ∧ connection.Carries submission first.1 ∧
            (exchanges.IsDirect →
              ∀ query ∈ later, ∃ id, connection.Carries (reportRequest id) query.1))) ∧
    Manifest.check (Manifest.publish details) = .error .unfilled ∧
    (Manifest.check (Manifest.unpublish name) = .ok () ↔
      ∀ part ∈ [name.provider, name.type, name.version],
        ¬ Manifest.packagePlaceholder.toList <:+: part.toList) := by
  intro ending exchanged submission
  have record : exchanged = _ := exchanges_of_read parsed surroundings network
  refine ⟨?_, ?_, Manifest.check_publish details, Manifest.check_unpublish_iff name⟩
  · intro unfit
    obtain ⟨failure, code, performed⟩ := perform_of_not_submittable subscription path unfit
    have ended (files : Files) (same : files path = .ok bytes) :
        ending files = Report.ending { conclusion := .failed failure, network }
          (Log.Filter.ofSetting (environment.lookup logVariable)) := by
      simp only [ending, run, parsed, performed σ { surroundings with files } network same]
    refine ⟨?_, ?_, ?_⟩
    · rw [record, performed _ surroundings.recorded (network, []) held]
    · rw [ended surroundings.files held]
      exact congrArg some code
    · intro files same
      rw [ended files same, ended surroundings.files held]
  · intro submittable
    have body := Manifest.manifest_body_of_submittable submittable
    refine ⟨body, ?_⟩
    intro connection connected
    have made : (Question.update bytes).request = .ok submission := by
      simp only [Question.update, body]
      rfl
    refine ⟨?_, ?_⟩
    · rw [perform_of_submittable surroundings held submittable connected]
      rcases change_cases made "UpdateExtension" [] surroundings connection network with
        ⟨_, requests⟩ | ⟨id, _, _, _, queries, requests, reports⟩
      · exact ⟨[], requests, fun _ member => absurd member List.not_mem_nil⟩
      · exact ⟨queries, requests, fun query member => ⟨id, reports query member⟩⟩
    · obtain ⟨credentials, opened⟩ := establish_of_connect connected
      rw [record, perform_of_submittable surroundings.recorded held submittable connected]
      exact change_direct made "UpdateExtension" [] surroundings network opened
        (wait_of_connect connected) rfl

/-- A small manifest, which has no placeholder. -/
def smallManifest : List UInt8 := ascii "<a/>"

/-- The small manifest in one file, and credentials in all others. -/
def publisherFiles : Files := fun path =>
  .ok (if path = "new.xml" then smallManifest else armoredCredentials)

/-- The request that submits the small manifest. -/
def smallSubmission : Request where
  method := .put
  segments := ["services", "extensions"]
  query := [("action", "update")]
  body := some smallManifest

/-- With these files there is a connection to the usual service, and the request can
be sent there. This is evaluated once, and not for each network. -/
theorem publisher_connects :
    ∃ connection, connect publisherFiles ⟨"sub-1", "own.pem", {}⟩ = .ok connection ∧
      (connection.reached smallSubmission).authorityText.any Connection.isUnsendable = false := by
  have checked : ((connect publisherFiles ⟨"sub-1", "own.pem", {}⟩).toOption.any fun connection =>
      !(connection.reached smallSubmission).authorityText.any Connection.isUnsendable) = true := by
    decide +kernel
  cases connected : connect publisherFiles ⟨"sub-1", "own.pem", {}⟩ with
  | error failure =>
    rw [connected] at checked
    cases checked
  | ok connection =>
    rw [connected] at checked
    exact ⟨connection, rfl, (Bool.not_eq_true' _).mp checked⟩

/-- The small manifest is submitted to the usual service, though that is silent. -/
theorem small_manifest_is_submitted :
    let arguments := ["update-version", "--subscription-id", "sub-1", "--subscription-cert", "own.pem",
      "--manifest", "new.xml"]
    let surroundings : Surroundings Unit :=
      { files := publisherFiles, network := fun _ state => ({ reaction := .silent }, state) }
    CommandLine.read [] arguments = .ok (.updateVersion ⟨"sub-1", "own.pem", {}⟩ "new.xml") ∧
      publisherFiles "new.xml" = .ok smallManifest ∧
      ∃ first later, exchanges [] arguments surroundings () = first :: later ∧
        first.1.method = .put ∧ first.1.body = smallManifest := by
  intro arguments surroundings
  have parsed : CommandLine.read [] arguments =
      .ok (.updateVersion ⟨"sub-1", "own.pem", {}⟩ "new.xml") := rfl
  have held : surroundings.files "new.xml" = .ok smallManifest := rfl
  refine ⟨parsed, held, ?_⟩
  have submittable : Manifest.Submittable smallManifest := ⟨"<a/>", rfl, by decide, by decide⟩
  obtain ⟨_, submitted, _⟩ := manifest_is_submitted_once parsed surroundings () held
    ⟨⟨"", "", ""⟩, "", "", "", "", "", "", ""⟩ ⟨"", "", ""⟩
  obtain ⟨connection, connected, sendable⟩ := publisher_connects
  rcases ((submitted submittable).2 connection connected).2 with ⟨unsendable, _⟩ |
    ⟨first, later, begins, carries, _⟩
  · exact absurd (unsendable.symm.trans sendable) (by decide)
  · exact ⟨first, later, begins, carries.method, carries.body⟩

end Program

end ExtensionPublisher
