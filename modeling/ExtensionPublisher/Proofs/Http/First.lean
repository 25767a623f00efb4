import ExtensionPublisher.Proofs.Http.Recorded
import ExtensionPublisher.Proofs.Http.Resource
import ExtensionPublisher.Proofs.Url.Division

/-!
# The first exchange of a request

A request of a client is sent once, as it is: with its method, to the path and the query of its
address, and with its body, `carries_of_sent`. What comes back for that is what is delivered, and
nothing else is sent, unless an answer leads on to another address, `transport_first`. Then there is
another exchange, or nothing is delivered at all.

Nothing is sent where the address names a host that cannot be asked.
-/
namespace ExtensionPublisher.Http

variable {σ : Type}

namespace Hop

/-- What came back in an encounter. -/
def answer (origin : List Char) (encounter : Encounter) : Except ExchangeFault Received :=
  match encounter.reaction with
  | .unreachable => .error (.unreachable origin)
  | .closed => .error (.unsent origin)
  | .silent => .error (.late origin)
  | .answered received => if received.isReadable then .ok received else .error (.unsent origin)

/-- An encounter leads on: an answer says so, and says where. Without a place to go
the answer itself is the result. -/
def LeadsOn (hop : Hop) (encounter : Encounter) : Prop :=
  ∃ received, encounter.reaction = .answered received ∧ received.isReadable = true ∧
    leadsOn received.status = true ∧ (hop.location? received).isSome = true

/-- There is a next request exactly if an answer says so, and says where. -/
theorem next_is_some_iff (hop : Hop) (received : Received) :
    (hop.next? received).isSome = true ↔
      leadsOn received.status = true ∧ (hop.location? received).isSome = true := by
  have guarded (said : Bool) : (guard (said = true) : Option Unit) = if said then some () else none := by
    cases said <;> rfl
  rw [next?, guarded]
  cases leadsOn received.status with
  | false => simp
  | true =>
    cases hop.location? received with
    | none => simp
    | some address =>
      simp only [if_true, Option.pure_def, Option.bind_eq_bind, Option.bind_some]
      repeat' split
      all_goals simp

/-- An encounter that does not lead on ends the trip with what came back. -/
theorem verdict_of_not_leads_on {hop : Hop} {encounter : Encounter}
    (stays : ¬ hop.LeadsOn encounter) (origin : List Char) (left : Nat) :
    hop.verdict origin left encounter = .inl (answer origin encounter) := by
  cases known : encounter.reaction with
  | unreachable | closed | silent => simp only [verdict, answer, known]
  | answered received =>
    simp only [verdict, answer, known]
    cases readable : received.isReadable with
    | false => simp
    | true =>
      have none : hop.next? received = none := by
        rw [← Option.not_isSome_iff_eq_none, next_is_some_iff]
        rintro ⟨said, where_⟩
        exact stays ⟨received, known, readable, said, where_⟩
      simp [none]

/-- An encounter that leads on brings no answer by itself. Either no redirect is
left over and there is a fault, or there is another request. -/
theorem verdict_of_leads_on {hop : Hop} {encounter : Encounter} (leads : hop.LeadsOn encounter)
    (origin : List Char) (left : Nat) :
    (∃ fault, hop.verdict origin left encounter = .inl (.error fault)) ∨
      ∃ next, hop.verdict origin left encounter = .inr next := by
  obtain ⟨received, known, readable, leadsSomewhere⟩ := leads
  obtain ⟨next, some_⟩ :=
    Option.isSome_iff_exists.mp ((next_is_some_iff hop received).mpr leadsSomewhere)
  simp only [verdict, known, readable, some_, Bool.not_true, Bool.false_eq_true, if_false]
  repeat' split
  all_goals first
    | exact .inl ⟨_, rfl⟩
    | exact .inr ⟨_, rfl⟩

section Trip

variable (network : Network σ) {origin : List Char} {left : Nat} {hop : Hop} {sent : Sent} {state : σ}

/-- A trip ends with the verdict on the first encounter, if that is a result. -/
theorem travel_of_result {result : Except ExchangeFault Received} (sendable : hop.sent? = some sent)
    (ended : hop.verdict origin left (network sent state).1 = .inl result) :
    travel network origin left hop state =
      ⟨result, (network sent state).1.took, (network sent state).1.calledOff,
        (network sent state).2⟩ := by
  rw [travel_eq, sendable]
  simp only [ended]

/-- A trip goes on with another request, if that is the verdict on the first
encounter. It has one redirect less, and what it takes is added. -/
theorem travel_of_next {next : Hop} (sendable : hop.sent? = some sent)
    (goesOn : hop.verdict origin left (network sent state).1 = .inr next) :
    travel network origin left hop state =
      follow (network sent state).1
        (travel network origin (left - 1) next (network sent state).2) := by
  rw [travel_eq, sendable]
  simp only [goesOn]

end Trip

/-- The record of a request that can be sent begins with it. Nothing follows, and what came back is
the result, unless that led on. If nothing follows although it led on, there is no result. -/
theorem travel_first {hop : Hop} {sent : Sent} (sendable : hop.sent? = some sent)
    (network : Network σ) (origin : List Char) (left : Nat) (state : σ) (record : Record) :
    ∃ more : Record,
      travel network.recorded origin left hop (state, record) =
        (travel network origin left hop state).withRecord
          (record ++ (sent, (network sent state).1) :: more) ∧
      (¬ hop.LeadsOn (network sent state).1 → more = [] ∧
        (travel network origin left hop state).result = answer origin (network sent state).1) ∧
      (hop.LeadsOn (network sent state).1 → more = [] →
        ∃ fault, (travel network origin left hop state).result = .error fault) := by
  cases ended : hop.verdict origin left (network sent state).1 with
  | inl result =>
    rw [travel_of_result network.recorded sendable ended, travel_of_result network sendable ended]
    refine ⟨[], rfl, ?_, ?_⟩
    · intro stays
      rw [verdict_of_not_leads_on stays] at ended
      exact ⟨rfl, (Sum.inl.inj ended).symm⟩
    · intro leads _
      rcases verdict_of_leads_on leads origin left with ⟨fault, failed⟩ | ⟨next, goesOn⟩
      · rw [failed] at ended
        exact ⟨fault, (Sum.inl.inj ended).symm⟩
      · rw [goesOn] at ended
        cases ended
  | inr next =>
    obtain ⟨more, same, ends⟩ := travel_recorded network origin (left - 1) next
      (network sent state).2 (record ++ [(sent, (network sent state).1)])
    rw [travel_of_next network.recorded sendable ended, travel_of_next network sendable ended]
    refine ⟨more, ?_, ?_, ?_⟩
    · simp only [Network.recorded, same, List.append_assoc, List.cons_append, List.nil_append]
      rfl
    · intro stays
      rw [verdict_of_not_leads_on stays] at ended
      cases ended
    · rintro - rfl
      -- Without an exchange there is no answer.
      cases result : (travel network origin (left - 1) next (network sent state).2).result with
      | error fault => exact ⟨fault, result⟩
      | ok received =>
        obtain ⟨_, _, last, _⟩ := ends received result
        cases last

end Hop

namespace Connection

variable {credentials : Credentials} {settings : Settings} {connection : Connection}

/-- The address that a request is sent to. A user that can be named in a header is
not named in it, so that the name and the password stand in one place only. -/
def reached (connection : Connection) (request : Request) : Url.Address :=
  let address := connection.address request
  if (userHeader? address).isSome then address.withoutUser else address

/-- A request as it sets out, before any answer has led it elsewhere. A fragment is
never sent. -/
def hop (connection : Connection) (request : Request) : Hop where
  address := { Url.Reference.split (connection.reached request).text with fragment? := none }
  method := request.method
  headers := connection.headers ++ (userHeader? (connection.address request)).toList
  body := request.body

/-- What is sent is the request: its method, the path and the query of its address, its body, and
the headers of every request. -/
structure Carries (connection : Connection) (request : Request) (sent : Sent) : Prop where
  method : sent.method = request.method
  target : sent.target = (connection.address request).target
  body : sent.body = request.body.getD []
  headers : connection.headers ⊆ sent.headers

/-- A request is sent where it sets out for, unless it cannot be sent there. This is
all that stands between a connection and a trip. -/
theorem send_eq (network : Network σ) (connection : Connection) (request : Request) (state : σ) :
    connection.send network request state =
      if (connection.reached request).authorityText.any isUnsendable then
        ⟨.error (.unusable (connection.reached request).text), 0, false, state⟩
      else
        Hop.travel network (connection.reached request).text greatestRedirects
          (connection.hop request) state := rfl

/-- The address of a request can be told from its text. The address of the service
can, and escaping the segments keeps it so. -/
theorem is_whole_of_establish (opened : establish credentials settings = .ok connection)
    (request : Request) : (connection.address request).IsWhole := by
  obtain ⟨endpoint, located⟩ : ∃ endpoint, settings.address = .ok endpoint := by
    obtain ⟨_, _, located⟩ := ok_of_bind opened
    obtain ⟨endpoint, located, _⟩ := ok_of_bind located
    exact ⟨endpoint, located⟩
  have whole := whole_of_settings located
  have shorter : endpoint.path.withoutTrailing ≠ [] ∧ endpoint.path.withoutTrailing.IsDivided := by
    rw [Url.Path.without_trailing_eq whole.filled]
    refine ⟨?_, Url.Path.of_segments_divided (Url.Path.body_divided whole.divided)⟩
    unfold Url.Path.ofSegments
    split
    · exact List.cons_ne_nil _ _
    · assumption
  have base : connection.base.IsWhole := by
    rw [base_of_establish located opened]
    exact whole.map_path _ (Url.Path.push_ne_nil shorter.1 _) (Url.Path.push_divided shorter.2 _)
  have longer := base.map_path (·.pushAll (request.segments.map String.toList))
    (Url.Path.push_all_ne_nil base.filled _) (Url.Path.push_all_divided base.divided _)
  exact longer.with_pairs request.query

/-- A request is sent as it is. The address that is split from its text is the one
that was put together, so the target is its path and query. -/
theorem carries_of_sent (opened : establish credentials settings = .ok connection)
    (request : Request) :
    ∃ sent, (connection.hop request).sent? = some sent ∧ connection.Carries request sent := by
  have whole := is_whole_of_establish opened request
  have reachedWhole : (connection.reached request).IsWhole := by
    unfold reached
    dsimp only
    split
    · exact whole.without_user
    · exact whole
  have target : (connection.reached request).target = (connection.address request).target := by
    unfold reached
    dsimp only
    split
    · rfl
    · rfl
  have asked := (Url.Reference.target_of_text reachedWhole).trans target
  rw [Hop.sent?, hop, Url.Reference.split_text reachedWhole]
  refine ⟨_, rfl, rfl, ?_, rfl, ?_⟩
  · rw [Url.Reference.split_text reachedWhole] at asked
    exact asked
  · intro header member
    simp [member]

/-- What is delivered of what a request came to. Faults on the way are told by their
messages only. -/
def told (result : Except ExchangeFault Received) : Except Fault Response :=
  (result.bind Received.response).mapError fun fault => .transportFailed fault.message

/-- Nothing was delivered but a fault on the way. -/
def Fails (result : Except Fault Response) : Prop :=
  ∃ message, result = .error (.transportFailed message)

/-- Of a fault on the way a fault is told. -/
theorem fails_of_fault (fault : ExchangeFault) : Fails (told (.error fault)) := ⟨_, rfl⟩

/-- A response that is delivered as it came back was made of an answer that can be
read, and the other way round. -/
theorem told_answer_iff {origin : List Char} {encounter : Encounter} {response : Response} :
    told (Hop.answer origin encounter) = .ok response ↔
      ∃ received, encounter.reaction = .answered received ∧ received.isReadable = true ∧
        received.response = .ok response := by
  constructor
  · intro delivered
    obtain ⟨received, answer, made⟩ := ok_of_bind (ok_of_map_error delivered)
    unfold Hop.answer at answer
    split at answer
    · cases answer
    · cases answer
    · cases answer
    · next received known =>
      split at answer
      · next readable =>
        obtain rfl := Except.ok.inj answer
        exact ⟨received, known, readable, made⟩
      · cases answer
  · rintro ⟨received, known, readable, made⟩
    simp [told, Hop.answer, known, readable, made, Except.bind]

/-- The record of a request begins with the request, unless it cannot be sent. Nothing follows, and
what came back is delivered, unless that led on. If nothing follows although it led on, there is only
a fault. -/
theorem transport_first (opened : establish credentials settings = .ok connection)
    (request : Request) (network : Network σ) (state : σ) (record : Record) :
    let delivered := connection.transport network.recorded request (state, record)
    ((connection.reached request).authorityText.any isUnsendable = true ∧ delivered.2.2 = record ∧
      Fails delivered.1.result) ∨
    ∃ sent more, delivered.2.2 = record ++ (sent, (network sent state).1) :: more ∧
      connection.Carries request sent ∧
      (¬ (connection.hop request).LeadsOn (network sent state).1 → more = [] ∧
        delivered.1.result =
          told (Hop.answer (connection.reached request).text (network sent state).1)) ∧
      ((connection.hop request).LeadsOn (network sent state).1 → more = [] →
        Fails delivered.1.result) := by
  intro delivered
  have result : delivered.1.result =
      told (connection.send network.recorded request (state, record)).result := rfl
  have left : delivered.2.2 =
      (connection.send network.recorded request (state, record)).network.2 := rfl
  rw [result, left, send_eq]
  by_cases unsendable : (connection.reached request).authorityText.any isUnsendable = true
  · rw [if_pos unsendable]
    exact .inl ⟨unsendable, rfl, fails_of_fault _⟩
  · obtain ⟨sent, sendable, carries⟩ := carries_of_sent opened request
    obtain ⟨more, same, stays, leads⟩ := Hop.travel_first sendable network
      (connection.reached request).text greatestRedirects state record
    simp only [if_neg unsendable, same, Trip.withRecord]
    refine .inr ⟨sent, more, rfl, carries, ?_, ?_⟩
    · intro quiet
      obtain ⟨none, answer⟩ := stays quiet
      rw [answer]
      exact ⟨none, rfl⟩
    · intro loud none
      obtain ⟨fault, failed⟩ := leads loud none
      rw [failed]
      exact fails_of_fault fault

end Connection

end ExtensionPublisher.Http
