import ExtensionPublisher.Proofs.Client.Recorded
import ExtensionPublisher.Proofs.Http.First
import ExtensionPublisher.Http.Message
import ExtensionPublisher.Http.Transcript

/-!
# One question, one exchange

Every call but a wait asks one question. It sends its request once, and the answer decides: a
refusal of whatever status is the result of the call, and what the call brings was read in that
answer. This holds for every answer but those that lead on to another address,
`refusal_decides_iff`. Behind such an answer the call goes on there, with the same request or with
another, and what it brings is what is found at the end, `redirected_update_is_repeated`.
-/
namespace ExtensionPublisher

open Http

variable {α β σ : Type}

/-- A question of which the answer is made something else. -/
def Question.map (change : α → β) (question : Question α) : Question β where
  request := question.request
  read response := (question.read response).map change

/-- The answer that is found is made something else. How a response is received and
accepted does not depend on what its answer is made of. -/
theorem Question.conclude_map (change : α → β) (question : Question α)
    (received : Except Fault Response) :
    (question.map change).conclude received = (question.conclude received).map change := by
  unfold conclude
  cases received >>= Response.accepted <;> rfl

namespace Call

/-- The question of a call. A wait has none of its own. -/
def question? : Call → Option (Question Outcome)
  | .versions => some (Question.versions.map .versions)
  | .replications name => some ((Question.replications name).map .replications)
  | .update manifest => some ((Question.update manifest).map .operation)
  | .delete name => some ((Question.delete name).map .operation)
  | .report operation => some ((Question.report operation).map .report)
  | .wait _ _ => none

/-- A call asks its question and does nothing else, so what is shown of questions
holds of calls. -/
theorem perform_of_question {call : Call} {question : Question Outcome}
    (asks : call.question? = some question) (settings : WaitSettings) (transport : Transport σ)
    (now : Nat) (state : σ) :
    (call.perform settings transport now state).result = (question.ask transport state).result ∧
      (call.perform settings transport now state).transport =
        (question.ask transport state).transport := by
  have asked {α : Type} (outcome : α → Outcome) (inner : Question α) :
      (ofAsked outcome now (inner.ask transport state)).result =
          ((inner.map outcome).ask transport state).result ∧
        (ofAsked outcome now (inner.ask transport state)).transport =
          ((inner.map outcome).ask transport state).transport := by
    cases made : inner.request with
    | error fault => simp [ofAsked, Question.ask, Question.map, made, Except.map]
    | ok request =>
      simp only [ofAsked, Question.ask, made, Question.conclude_map]
      simp [Question.map, made]
  cases call with
  | versions | replications | update | delete | report =>
    obtain rfl := Option.some.inj asks
    exact asked _ _
  | wait => cases asks

variable {credentials : Credentials} {settings : Settings} {connection : Connection} {call : Call}
  {question : Question Outcome} {request : Request}

/-- A call sends its request once, unless nothing can be sent to the address of the service. Nothing
follows unless the first answer leads on, and what the call brings was read in that answer.

An answer that is a refusal decides exactly if it does not lead on and its reasons are not divided:
then it is the only one, and the call ends with a rejection of its status. A refusal with divided
reasons is the only one just as well, but the program breaks down over it before it has a fault to
report. -/
theorem refusal_decides_iff (opened : Connection.establish credentials settings = .ok connection)
    (asks : call.question? = some question) (made : question.request = .ok request)
    (network : Network σ) (now : Nat) (state : σ) :
    let performed := call.perform settings.wait (connection.transport network.recorded) now (state, [])
    ((connection.reached request).authorityText.any Connection.isUnsendable = true ∧
      performed.transport.2 = [] ∧ ∃ message, performed.result = .error (.transportFailed message)) ∨
    ∃ sent encounter more, performed.transport.2 = (sent, encounter) :: more ∧
      connection.Carries request sent ∧ encounter = (network sent state).1 ∧
      (¬ (connection.hop request).LeadsOn encounter → more = [] ∧
        ∀ outcome, performed.result = .ok outcome →
          ∃ received response, encounter.reaction = .answered received ∧
            received.response = .ok response ∧ response.isSuccess = true ∧
            question.read response = .ok outcome) ∧
      ∀ received response, encounter.reaction = .answered received → received.isReadable = true →
        received.response = .ok response → response.isSuccess = false →
        ((more = [] ∧ ∃ code message,
            performed.result = .error (.rejected received.status code message)) ↔
          ¬ (connection.hop request).LeadsOn encounter ∧
            Rejection.read response.body ≠ .error (.record .dividedText)) ∧
        (¬ (connection.hop request).LeadsOn encounter →
          Rejection.read response.body = .error (.record .dividedText) →
          performed.result = .error (.brokenDown .unreachable)) := by
  intro performed
  obtain ⟨result, transport⟩ := perform_of_question asks settings.wait
    (connection.transport network.recorded) now (state, [])
  have concluded : performed.result =
      question.conclude (connection.transport network.recorded request (state, [])).1.result := by
    simp only [performed, result, Question.ask, made]
  have left : performed.transport =
      (connection.transport network.recorded request (state, [])).2 := by
    simp only [performed, transport, Question.ask, made]
  -- A fault on the way is the result of the call.
  have failed (fails : Connection.Fails
      (connection.transport network.recorded request (state, [])).1.result) :
      ∃ message, performed.result = .error (.transportFailed message) := by
    obtain ⟨message, fault⟩ := fails
    exact ⟨message, by rw [concluded, fault]; rfl⟩
  rw [left]
  rcases connection.transport_first opened request network state [] with
    ⟨unsendable, nothing, fails⟩ | ⟨sent, more, record, carries, stays, leads⟩
  · exact .inl ⟨unsendable, nothing, failed fails⟩
  refine .inr ⟨sent, _, more, record, carries, rfl, ?_, ?_⟩
  · intro quiet
    obtain ⟨none, delivered⟩ := stays quiet
    refine ⟨none, ?_⟩
    intro outcome brought
    rw [concluded, delivered] at brought
    obtain ⟨response, told, success, read⟩ := Question.of_conclude brought
    obtain ⟨received, answered, _, response_of⟩ := Connection.told_answer_iff.mp told
    exact ⟨received, response, answered, response_of, success, read⟩
  · intro received response answered readable response_of refused
    have status : response.status = received.status := (Received.of_response response_of).1
    -- An answer that does not lead on is all there is to be had.
    have decided (quiet : ¬ (connection.hop request).LeadsOn (network sent state).1) :
        more = [] ∧ performed.result = .error response.rejection := by
      obtain ⟨none, delivered⟩ := stays quiet
      refine ⟨none, ?_⟩
      rw [concluded, delivered,
        Connection.told_answer_iff.mpr ⟨received, answered, readable, response_of⟩,
        Question.conclude_of_refused question refused]
    refine ⟨⟨?rejected, ?decides⟩, ?broken⟩
    case rejected =>
      rintro ⟨none, code, message, rejected⟩
      have quiet : ¬ (connection.hop request).LeadsOn (network sent state).1 := by
        intro loud
        obtain ⟨other, fault⟩ := failed (leads loud none)
        cases fault.symm.trans rejected
      refine ⟨quiet, fun divided => ?_⟩
      rw [(decided quiet).2, response.rejection_of_divided divided] at rejected
      cases rejected
    case decides =>
      rintro ⟨quiet, whole⟩
      obtain ⟨none, result⟩ := decided quiet
      rcases response.rejection_cases with ⟨reasons, _, rejection⟩ | ⟨divided, _⟩
      · exact ⟨none, reasons.code, reasons.message, by rw [result, rejection, status]⟩
      · exact absurd divided whole
    case broken =>
      intro quiet divided
      rw [(decided quiet).2, response.rejection_of_divided divided]

/-- A list of versions that is refused is asked for once, and the refusal is the
result. An answer with status 404 does not lead on. -/
theorem refused_listing_is_rejected :
    let refusal : Encounter := { reaction := .answered { status := 404 } }
    let performed := Call.versions.perform {}
      (Connection.bare.transport Transcript.network.recorded) 0 ({ encounters := [refusal] }, [])
    ∃ sent code message, performed.transport.2 = [(sent, refusal)] ∧ sent.method = .get ∧
      sent.target = "/sub-1/services/publisherextensions".toList ∧
      performed.result = .error (.rejected 404 code message) := by
  intro refusal performed
  have asks : Call.versions.question? = some (Question.versions.map .versions) := rfl
  rcases refusal_decides_iff Connection.establish_bare asks rfl Transcript.network 0
      { encounters := [refusal] } with
    ⟨unsendable, _⟩ | ⟨sent, encounter, more, record, carries, rfl, _, decides⟩
  · exact absurd unsendable (by decide)
  · have quiet {hop : Hop} : ¬ hop.LeadsOn refusal := by
      rintro ⟨received, known, _, leads, _⟩
      obtain rfl := Reaction.answered.inj known
      exact absurd leads (by decide)
    obtain ⟨rfl, code, message, rejected⟩ :=
      (decides _ _ rfl (by decide) rfl rfl).1.mpr ⟨quiet, nofun⟩
    exact ⟨sent, code, message, record, carries.method, carries.target, rejected⟩

/-! ## A manifest that is sent twice -/

/-- An answer that leads on to another path. -/
def redirect : Received := { status := 307, headers := [("location", ascii "/elsewhere")] }

/-- An answer that names an operation. -/
def acceptance : Received := { status := 202, headers := [("x-ms-request-id", ascii "op-1")] }

/-- The request about a manifest. -/
def manifestRequest : Request where
  method := .put
  segments := ["services", "extensions"]
  query := [("action", "update")]
  body := some (ascii "<a/>")

/-- The manifest on its way to a path of the usual service. -/
def manifestHop (path : String) (query? : Option String) : Hop where
  address := {
    scheme? := some "https".toList, authority? := some "management.core.windows.net".toList
    path := path.toList, query? := query?.map String.toList }
  method := .put
  headers := Connection.bare.headers
  body := some (ascii "<a/>")

/-- The manifest sets out for the extensions of the subscription, with the wish for
an update in the query. -/
theorem hop_of_manifest : Connection.bare.hop manifestRequest =
    manifestHop "/sub-1/services/extensions" (some "action=update") := by
  decide +kernel

/-- The answer sends the manifest elsewhere, to the path that it names and without
the query. Method and body stay. -/
theorem next_of_redirect (origin : List Char) :
    (manifestHop "/sub-1/services/extensions" (some "action=update")).verdict origin 10
      { reaction := .answered redirect } = .inr (manifestHop "/elsewhere" none) := by
  have readable : redirect.isReadable = true := by decide
  have next : (manifestHop "/sub-1/services/extensions" (some "action=update")).next? redirect =
      some (manifestHop "/elsewhere" none) := by decide +kernel
  have parsed : Url.parse (manifestHop "/elsewhere" none).address.text =
      .ok { Connection.bare.base with place := .path ["elsewhere".toList] } := rfl
  simp only [Hop.verdict, readable, next, parsed]
  rfl

/-- The manifest is sent two times, and the second answer is the result of the trip.
Nothing of the first one is left but the record. -/
theorem trip_of_manifest :
    ∃ first second : Sent,
      (first.method = .put ∧ first.target = "/sub-1/services/extensions?action=update".toList) ∧
      (second.method = .put ∧ second.target = "/elsewhere".toList) ∧
      Connection.bare.send Transcript.network.recorded manifestRequest
          ({ encounters :=
              [{ reaction := .answered redirect }, { reaction := .answered acceptance }] }, []) =
        ⟨.ok acceptance, 0, false, { encounters := [] },
          [(first, { reaction := .answered redirect }),
            (second, { reaction := .answered acceptance })]⟩ := by
  obtain ⟨first, sendsFirst, put, target⟩ :
      ∃ sent, (manifestHop "/sub-1/services/extensions" (some "action=update")).sent? = some sent ∧
        sent.method = .put ∧ sent.target = "/sub-1/services/extensions?action=update".toList :=
    ⟨_, rfl, rfl, by decide⟩
  obtain ⟨second, sendsSecond, putAgain, elsewhere⟩ :
      ∃ sent, (manifestHop "/elsewhere" none).sent? = some sent ∧
        sent.method = .put ∧ sent.target = "/elsewhere".toList :=
    ⟨_, rfl, rfl, by decide⟩
  refine ⟨first, second, ⟨put, target⟩, ⟨putAgain, elsewhere⟩, ?_⟩
  have sendable :
      ¬ (Connection.bare.reached manifestRequest).authorityText.any Connection.isUnsendable := by
    decide
  rw [Connection.send_eq, if_neg sendable, hop_of_manifest,
    Hop.travel_of_next _ sendsFirst (next_of_redirect _), Hop.travel_of_result _ sendsSecond rfl]
  rfl

/-- The answer to a manifest leads on, so the manifest is sent a second time to somewhere else, and
the operation is the one that the other answer names. -/
theorem redirected_update_is_repeated :
    let encounters : List Encounter :=
      [{ reaction := .answered redirect }, { reaction := .answered acceptance }]
    let performed := (Call.update (ascii "<a/>")).perform {}
      (Connection.bare.transport Transcript.network.recorded) 0 ({ encounters }, [])
    Connection.establish (.bare "sub-1") {} = .ok Connection.bare ∧
      performed.transport.2.map
          (fun (sent, encounter) => (sent.method, sent.target, encounter.reaction)) =
        [(.put, "/sub-1/services/extensions?action=update".toList, .answered redirect),
          (.put, "/elsewhere".toList, .answered acceptance)] ∧
      performed.result = .ok (.operation "op-1") := by
  intro encounters performed
  have asked : (Question.update (ascii "<a/>")).request = .ok manifestRequest := rfl
  obtain ⟨first, second, ⟨put, target⟩, ⟨putAgain, elsewhere⟩, trip⟩ := trip_of_manifest
  simp only [performed, encounters, perform, ofAsked, Question.ask, asked, Connection.transport, trip]
  exact ⟨Connection.establish_bare, by simp [put, putAgain, target, elsewhere], rfl⟩

end Call

end ExtensionPublisher
