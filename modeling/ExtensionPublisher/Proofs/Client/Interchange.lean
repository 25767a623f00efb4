import ExtensionPublisher.Proofs.Client.Questions
import ExtensionPublisher.Proofs.Client.Single
import ExtensionPublisher.Proofs.Http.Delivered

/-!
# Connections in place of scripts

A client may be tried with a script, which delivers a response whatever is requested. It does the same
with a connection to a server that answers so: `connection_interchanges`. The result of a call depends
on what is delivered alone, and of an answer that spells a response that response is delivered. Where
there is no whole answer, the call ends with a fault on the way, whatever the status was.
-/
namespace ExtensionPublisher.Call

open Http

variable {σ τ : Type} {call : Call}

/-- A call that asks one question has one, with the request of the call. A wait is
the only call without. -/
theorem question_of_is_question (asks : call.IsQuestion) :
    ∃ question, call.question? = some question ∧ question.request = call.request := by
  cases call with
  | versions | replications | update | delete | report => exact ⟨_, rfl, rfl⟩
  | wait => exact asks.elim

/-- The result of a call that is given no blank part is what its question makes of the delivery for
its request. -/
theorem perform_of_delivery (asks : call.IsQuestion) (spoken : call.blankPart? = none) :
    ∃ question : Question Outcome, ∀ {σ : Type} (settings : WaitSettings) (transport : Transport σ)
      (now : Nat) (state : σ),
      (call.perform settings transport now state).result =
          question.conclude (transport call.sends state).1.result ∧
        (call.perform settings transport now state).transport = (transport call.sends state).2 := by
  obtain ⟨question, known, same⟩ := question_of_is_question asks
  have made : question.request = .ok call.sends := by rw [same, request_eq, spoken]
  refine ⟨question, fun settings transport now state => ?_⟩
  obtain ⟨result, left⟩ := perform_of_question known settings transport now state
  rw [result, left]
  simp only [Question.ask, made]
  exact ⟨trivial, trivial⟩

/-- A call goes over a connection as it goes over a script, for any credentials and settings with
which a connection can be opened, and over any network.

A call that is given a blank part is refused over both, and nothing is sent. Any other call sends its
request, unless the address of the service is none that can be asked. If the answer spells a response,
nothing else is sent, and the result is that of the call over a script that delivers the response. If
the connection ends without an answer, or within the body of one, nothing else is sent either, and the
result is a fault on the way. -/
theorem connection_interchanges {credentials : Credentials} {settings : Settings}
    {connection : Connection} (opened : Connection.establish credentials settings = .ok connection)
    (asks : call.IsQuestion) (network : Network σ) (state : σ) (scripted : Transport τ) (script : τ)
    (now : Nat) :
    let performed := call.perform settings.wait (connection.transport network.recorded) now (state, [])
    let rehearsed := call.perform settings.wait scripted now script
    ((∃ part, call.blankPart? = some part) ∧ performed.transport.2 = [] ∧
      performed.result = rehearsed.result) ∨
    ((connection.reached call.sends).authorityText.any Connection.isUnsendable = true ∧
      performed.transport.2 = [] ∧ ∃ message, performed.result = .error (.transportFailed message)) ∨
    ∃ sent encounter more, performed.transport.2 = (sent, encounter) :: more ∧
      connection.Carries call.sends sent ∧ encounter = (network sent state).1 ∧
      (∀ received response, encounter.reaction = .answered received → received.Spells response →
        more = [] ∧ ((∀ request, (scripted request script).1.result = .ok response) →
          performed.result = rehearsed.result)) ∧
      (encounter.reaction = .closed ∨
          (∃ received, encounter.reaction = .answered received ∧ received.IsCutShort) →
        more = [] ∧ ∃ message, performed.result = .error (.transportFailed message)) := by
  intro performed rehearsed
  cases blank : call.blankPart? with
  | some part =>
    have refused : performed = ⟨_, _, _, _⟩ := perform_of_blank _ _ now (state, []) asks blank
    have same : rehearsed = ⟨_, _, _, _⟩ := perform_of_blank _ scripted now script asks blank
    rw [refused, same]
    exact .inl ⟨⟨part, rfl⟩, rfl, rfl⟩
  | none =>
    obtain ⟨question, concludes⟩ := perform_of_delivery asks blank
    obtain ⟨result, left⟩ :=
      concludes settings.wait (connection.transport network.recorded) now (state, [])
    have script_result : rehearsed.result = question.conclude (scripted call.sends script).1.result :=
      (concludes settings.wait scripted now script).1
    -- A fault on the way is the result of the call.
    have failed (fails : Connection.Fails
        (connection.transport network.recorded call.sends (state, [])).1.result) :
        ∃ message, performed.result = .error (.transportFailed message) := by
      obtain ⟨message, fault⟩ := fails
      exact ⟨message, by rw [result, fault]; rfl⟩
    rw [left]
    rcases connection.transport_first opened call.sends network state [] with
      ⟨unsendable, nothing, fails⟩ | ⟨sent, more, record, carries, stays, _⟩
    · exact .inr (.inl ⟨unsendable, nothing, failed fails⟩)
    refine .inr (.inr ⟨sent, _, more, record, carries, rfl, ?_, ?_⟩)
    · intro received response answered spells
      have quiet : ¬ (connection.hop call.sends).LeadsOn (network sent state).1 := by
        refine Hop.stays_of_status fun other same => ?_
        obtain rfl := Reaction.answered.inj (answered.symm.trans same)
        rw [spells.status]
        exact spells.deciding.leads_nowhere
      obtain ⟨none, delivered⟩ := stays quiet
      refine ⟨none, fun delivers => ?_⟩
      rw [result, script_result, delivered, delivers, Connection.told_of_spells answered spells]
    · intro broken
      have quiet : ¬ (connection.hop call.sends).LeadsOn (network sent state).1 := by
        refine Hop.stays_of_status fun other same => ?_
        rcases broken with closed | ⟨received, answered, short⟩
        · cases closed.symm.trans same
        · obtain rfl := Reaction.answered.inj (answered.symm.trans same)
          exact short.deciding.leads_nowhere
      obtain ⟨none, delivered⟩ := stays quiet
      refine ⟨none, failed ?_⟩
      rw [delivered]
      rcases broken with closed | ⟨received, answered, short⟩
      · rw [Hop.answer, closed]
        exact Connection.fails_of_fault _
      · exact Connection.fails_of_cut_short answered short

/-- A rejection with headers under mixed names, one of them twice. -/
def busyAnswer : Received where
  status := 503
  headers := [("X-Ms-Request-Id", ascii "op-1"), ("x-ms-request-ID", ascii "op 2"),
    ("Server", ascii "Service/1.0")]
  body := ascii "<Error><Code>Busy</Code><Message>Später</Message></Error>"
  announced := some 58

/-- The response that it spells: names in lower case, values without what they are
padded with, and the body as text. -/
def busyResponse : Response where
  status := 503
  headers := [("x-ms-request-id", "op-1"), ("x-ms-request-id", "op 2"), ("server", "Service/1.0")]
  body := "<Error><Code>Busy</Code><Message>Später</Message></Error>"

/-- A deletion that the server is too busy for ends as over a script that says so,
with the reasons in its body. -/
theorem busy_deletion_is_rehearsed :
    let call := Call.delete ⟨"Contoso", "Agent", "1.0"⟩
    let encounter : Encounter := { reaction := .answered busyAnswer }
    let performed := call.perform {} (Connection.bare.transport Transcript.network.recorded) 0
      ({ encounters := [encounter] }, [])
    call.IsQuestion ∧ Connection.establish (.bare "sub-1") {} = .ok Connection.bare ∧
      busyAnswer.Spells busyResponse ∧
      (∃ sent, performed.transport.2 = [(sent, encounter)]) ∧
      performed.result =
        (call.perform {} rehearsed 0 [{ result := .ok busyResponse }]).result := by
  intro call encounter performed
  have asks : call.IsQuestion := trivial
  have plain {value : String}
      (visible : value.toList.all (fun c => c = '\t' ∨ 0x20 ≤ c.toNat ∧ c.toNat < 0x7F) = true)
      (tight : Text.isTight (fun c => c == ' ' || c == '\t') value.toList = true) :
      IsPlainValue value := ⟨by simpa using visible, tight⟩
  have spells : busyAnswer.Spells busyResponse := by
    refine ⟨rfl, by decide, ?_, rfl, ?_⟩
    · exact .cons ⟨by decide, rfl, plain (by decide) (by decide)⟩
        (.cons ⟨by decide, rfl, plain (by decide) (by decide)⟩
          (.cons ⟨by decide, rfl, plain (by decide) (by decide)⟩ .nil))
    · rintro count ⟨⟩
      decide
  refine ⟨asks, Connection.establish_bare, spells, ?_⟩
  rcases connection_interchanges Connection.establish_bare asks Transcript.network
      { encounters := [encounter] } rehearsed [{ result := .ok busyResponse }] 0 with
    ⟨⟨part, blank⟩, _⟩ | ⟨unsendable, _⟩ | ⟨sent, _, more, record, _, rfl, same, _⟩
  · have spoken : call.blankPart? = none := by decide
    rw [spoken] at blank
    cases blank
  · exact absurd unsendable (by decide)
  · obtain ⟨rfl, rehearsed⟩ := same _ _ rfl spells
    exact ⟨⟨sent, record⟩, rehearsed fun _ => rfl⟩

end ExtensionPublisher.Call
