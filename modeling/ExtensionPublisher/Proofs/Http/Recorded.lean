import ExtensionPublisher.Http.Connection
import ExtensionPublisher.Proofs.Result

/-!
# Recorded networks

A recorded network writes down every request that reaches it, with what happens to it. What is
sent over it fares as it would over the network itself, so the record of a call tells exactly
what the call sent and what it was told.

A request that ends in an answer was answered by the last exchange of its record: the answers in
front of it only led on to another address. That holds for a single request, `travel_recorded`,
and for what a connection delivers, `transport_recorded`.
-/
namespace ExtensionPublisher.Http

/-- Requests, each with what happened to it, in order. -/
abbrev Record := List (Sent × Encounter)

/-- The network that writes down what happens over another one. The record is kept
beside the state, so nothing that is sent can depend on it. -/
def Network.recorded {σ : Type} (network : Network σ) : Network (σ × Record) := fun sent state =>
  let (encounter, next) := network sent state.1
  (encounter, next, state.2 ++ [(sent, encounter)])

/-- A record ends with an answer. -/
def Record.EndsWith (record : Record) (received : Received) : Prop :=
  ∃ sent encounter, record.getLast? = some (sent, encounter) ∧
    encounter.reaction = .answered received

/-- A record that ends with an answer does so behind any other record, as it is not
empty. -/
theorem Record.ends_with_append {record : Record} {received : Received}
    (ends : record.EndsWith received) (earlier : Record) :
    Record.EndsWith (earlier ++ record) received := by
  obtain ⟨sent, encounter, last, answered⟩ := ends
  refine ⟨sent, encounter, ?_, answered⟩
  rw [List.getLast?_append, last, Option.some_or]

/-- A trip whose network has a record. -/
def Trip.withRecord {σ : Type} (trip : Trip σ) (record : Record) : Trip (σ × Record) where
  result := trip.result
  took := trip.took
  calledOff := trip.calledOff
  network := (trip.network, record)

variable {σ : Type} {network : Network σ}

namespace Hop

/-- What an encounter makes of a request on its way: its result, or the request that it leads to.
The origin is named in faults, and so many redirects are left over. -/
def verdict (origin : List Char) (left : Nat) (hop : Hop) (encounter : Encounter) :
    Except ExchangeFault Received ⊕ Hop :=
  match encounter.reaction with
  | .unreachable => .inl (.error (.unreachable origin))
  | .closed => .inl (.error (.unsent origin))
  | .silent => .inl (.error (.late origin))
  | .answered received =>
    if !received.isReadable then .inl (.error (.unsent origin))
    else
      match hop.next? received with
      | none => .inl (.ok received)
      | some next =>
        match Url.parse next.address.text with
        | .error _ => .inl (.error (.unusable origin))
        | .ok address =>
          match left with
          | 0 =>
            let here := (Url.parse hop.address.text).toOption.map Url.Address.text
            .inl (.error (.astray (here.getD hop.address.text)))
          | _ + 1 =>
            if isWeb address.scheme then .inr next else .inl (.error (.unusable address.text))

/-- A trip behind an encounter that led on to it. The time of the encounter is
added, and losing interest in either counts. -/
def follow (encounter : Encounter) (trip : Trip σ) : Trip σ :=
  { trip with
    took := encounter.took + trip.took
    calledOff := encounter.calledOff || trip.calledOff }

/-- A request that can be sent ends with the verdict on its encounter, or goes on from there with
a redirect less. -/
theorem travel_eq (network : Network σ) (origin : List Char) (left : Nat) (hop : Hop) (state : σ) :
    travel network origin left hop state =
      match hop.sent? with
      | none => ⟨.error (.unsent origin), 0, false, state⟩
      | some sent =>
        match hop.verdict origin left (network sent state).1 with
        | .inl result =>
          ⟨result, (network sent state).1.took, (network sent state).1.calledOff,
            (network sent state).2⟩
        | .inr next =>
          follow (network sent state).1
            (travel network origin (left - 1) next (network sent state).2) := by
  rw [travel.eq_def]
  cases hop.sent? with
  | none => rfl
  | some sent =>
    simp only [verdict]
    cases (network sent state).1.reaction with
    | unreachable | closed | silent => rfl
    | answered received =>
      simp only
      split
      · rfl
      · cases hop.next? received with
        | none => rfl
        | some next =>
          simp only
          cases Url.parse next.address.text with
          | error fault => rfl
          | ok address =>
            cases left with
            | zero => rfl
            | succ left =>
              simp only
              split <;> rfl

/-- A verdict that is an answer is what the encounter brought. Every other verdict
is a fault or another request. -/
theorem reaction_of_verdict {origin : List Char} {left : Nat} {hop : Hop} {encounter : Encounter}
    {received : Received} (ended : hop.verdict origin left encounter = .inl (.ok received)) :
    encounter.reaction = .answered received := by
  unfold verdict at ended
  repeat' split at ended
  all_goals simp_all

/-- An encounter leads on only where a redirect is left over, so that the redirects
count down. -/
theorem pos_of_verdict {origin : List Char} {left : Nat} {hop next : Hop} {encounter : Encounter}
    (goesOn : hop.verdict origin left encounter = .inr next) : 0 < left := by
  unfold verdict at goesOn
  repeat' split at goesOn
  all_goals simp_all

/-- A request over a recorded network fares as over the network itself. If it ends in an answer,
that is what the last exchange brought.

Proof: induction on the redirects left over. The first exchange ends the trip, or leads on to a
request whose record follows it. -/
theorem travel_recorded (network : Network σ) (origin : List Char) (left : Nat) (hop : Hop)
    (state : σ) (record : Record) :
    ∃ more : Record,
      travel network.recorded origin left hop (state, record) =
        (travel network origin left hop state).withRecord (record ++ more) ∧
      ∀ received, (travel network origin left hop state).result = .ok received →
        more.EndsWith received := by
  induction left using Nat.strongRecOn generalizing hop state record with
  | ind left inductionHypothesis =>
    rw [travel_eq, travel_eq network]
    cases hop.sent? with
    | none => exact ⟨[], by simp [Trip.withRecord], nofun⟩
    | some sent =>
      simp only [Network.recorded]
      cases ended : hop.verdict origin left (network sent state).1 with
      | inl result =>
        refine ⟨[(sent, (network sent state).1)], rfl, ?_⟩
        rintro received rfl
        exact ⟨sent, _, rfl, reaction_of_verdict ended⟩
      | inr next =>
        have fewer : left - 1 < left := Nat.sub_lt (pos_of_verdict ended) Nat.one_pos
        obtain ⟨more, same, ends⟩ := inductionHypothesis (left - 1) fewer next
          (network sent state).2 (record ++ [(sent, (network sent state).1)])
        refine ⟨(sent, (network sent state).1) :: more, ?_, ?_⟩
        · simp only [same, List.append_assoc, List.cons_append, List.nil_append]
          rfl
        · intro received answered
          exact Record.ends_with_append (ends received answered) [_]

end Hop

/-- A response has the status of the answer that it was made of, and the text of its
content. Where the content is missing there is no response. -/
theorem Received.of_response {received : Received} {response : Response}
    (made : received.response = .ok response) :
    response.status = received.status ∧ ∃ content, received.content? = some content ∧
      response.body = String.ofList (Text.Utf8.decodeLossy content) := by
  unfold Received.response at made
  cases known : received.content? with
  | none => simp [known] at made
  | some content =>
    rw [known] at made
    injection made with made
    -- Headers are all that is added to the response as it is begun.
    have kept : response.status = received.status ∧
        response.body = String.ofList (Text.Utf8.decodeLossy content) := by
      rw [← made]
      refine List.foldlRecOn received.headers _ (motive := fun (response : Response) =>
        response.status = received.status ∧
          response.body = String.ofList (Text.Utf8.decodeLossy content)) ⟨rfl, rfl⟩ ?_
      rintro begun same ⟨name, value⟩ _
      dsimp only
      split
      · exact same
      · exact same
    exact ⟨kept.1, content, rfl, kept.2⟩

namespace Connection

/-- What is sent over a recorded network fares as over the network itself. A request
that cannot be sent leaves no record at all. -/
theorem send_recorded (network : Network σ) (connection : Connection) (request : Request)
    (state : σ) (record : Record) :
    ∃ more : Record,
      connection.send network.recorded request (state, record) =
        (connection.send network request state).withRecord (record ++ more) ∧
      ∀ received, (connection.send network request state).result = .ok received →
        more.EndsWith received := by
  unfold send
  extract_lets address user address
  by_cases unsendable : address.authorityText.any isUnsendable = true
  · rw [if_pos unsendable, if_pos unsendable]
    exact ⟨[], by simp [Trip.withRecord], nofun⟩
  · rw [if_neg unsendable, if_neg unsendable]
    exact Hop.travel_recorded network _ _ _ state record

/-- A connection delivers over a recorded network what it delivers over the network itself. A
response that is delivered was made of what the last exchange brought. -/
theorem transport_recorded (network : Network σ) (connection : Connection) (request : Request)
    (state : σ) (record : Record) :
    ∃ more : Record,
      connection.transport network.recorded request (state, record) =
        ((connection.transport network request state).1,
          (connection.transport network request state).2, record ++ more) ∧
      ∀ response, (connection.transport network request state).1.result = .ok response →
        ∃ received, more.EndsWith received ∧ received.response = .ok response := by
  obtain ⟨more, same, ends⟩ := send_recorded network connection request state record
  refine ⟨more, ?_, ?_⟩
  · simp only [transport, same, Trip.withRecord]
  · intro response delivered
    obtain ⟨received, answered, made⟩ := ok_of_bind (ok_of_map_error delivered)
    exact ⟨received, ends received answered, made⟩

end Connection

end ExtensionPublisher.Http
