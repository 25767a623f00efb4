import ExtensionPublisher.Proofs.Http.Recorded

/-!
# Interrupted networks

A process that an interruption kills sends nothing behind the request during which that happens. As
long as nobody interrupts it, it sends what it would send otherwise. So there are two cases for what
is sent over such a network, and a record tells them apart, `transport_until_interrupted`: all goes as
over the network itself, or the record is the beginning of what it would have been there, up to the
exchange that was interrupted.

Networks that are built on top of others go like these. That is one fact about everything that takes
requests and answers them, `GoesLike`, and it is handed on from a network to all that is sent over it.
-/
namespace ExtensionPublisher

variable {σ τ α β γ : Type}

/-- What takes requests goes like something else that does so, of which it keeps the state: for every
request both give the same, and the states go on corresponding. -/
def GoesLike (kept : τ → σ) (wider : α → τ → β × τ) (narrow : α → σ → β × σ) : Prop :=
  ∀ given state, narrow given (kept state) = ((wider given state).1, kept (wider given state).2)

/-- A question, with another view of the transport that is left. Everything but the
transport is the same. -/
def Asked.view (kept : τ → σ) (asked : Asked γ τ) : Asked γ σ where
  result := asked.result
  request? := asked.request?
  took := asked.took
  calledOff := asked.calledOff
  transport := kept asked.transport

/-- A question fares alike over transports that go alike. It makes one request at
most, so one use of the correspondence is enough. -/
theorem Question.ask_view {kept : τ → σ} {wider : Transport τ} {narrow : Transport σ}
    (alike : GoesLike kept wider narrow) (question : Question γ) (state : τ) :
    question.ask narrow (kept state) = (question.ask wider state).view kept := by
  unfold ask
  cases question.request with
  | error fault => rfl
  | ok request => simp [alike request state, Asked.view]

namespace Http

/-- A recorded network goes like the network itself, if its record is not looked at.
-/
theorem Network.recorded_goes_like (network : Network σ) :
    GoesLike Prod.fst network.recorded network := fun _ _ => rfl

/-- Networks that go alike do so until they are interrupted. Whether they are is
part of the encounter, and so the same on both sides. -/
theorem Network.until_interrupted_goes_like {kept : τ → σ} {wider : Network τ} {narrow : Network σ}
    (alike : GoesLike kept wider narrow) :
    GoesLike (Prod.map kept id) wider.untilInterrupted narrow.untilInterrupted := by
  rintro sent ⟨state, interrupted⟩
  cases interrupted with
  | true => rfl
  | false => simp [untilInterrupted, alike sent state]

/-- A trip, with another view of the network that is left. Everything but the
network is the same. -/
def Trip.view (kept : τ → σ) (trip : Trip τ) : Trip σ where
  result := trip.result
  took := trip.took
  calledOff := trip.calledOff
  network := kept trip.network

/-- A request on its way fares alike over networks that go alike.

Proof: induction on the redirects left over. The encounters are the same, so the verdicts are. -/
theorem Hop.travel_view {kept : τ → σ} {wider : Network τ} {narrow : Network σ}
    (alike : GoesLike kept wider narrow) (origin : List Char) (left : Nat) (hop : Hop) (state : τ) :
    travel narrow origin left hop (kept state) = (travel wider origin left hop state).view kept := by
  induction left using Nat.strongRecOn generalizing hop state with
  | ind left inductionHypothesis =>
    rw [travel_eq, travel_eq wider]
    cases hop.sent? with
    | none => rfl
    | some sent =>
      simp only [alike sent state]
      cases ended : hop.verdict origin left (wider sent state).1 with
      | inl result => rfl
      | inr next =>
        have fewer : left - 1 < left := Nat.sub_lt (pos_of_verdict ended) Nat.one_pos
        simp only [inductionHypothesis (left - 1) fewer]
        rfl

/-- A connection delivers alike over networks that go alike. What is delivered is
made of the result of a trip, which is the same. -/
theorem Connection.transport_view {kept : τ → σ} {wider : Network τ} {narrow : Network σ}
    (alike : GoesLike kept wider narrow) (connection : Connection) :
    GoesLike kept (connection.transport wider) (connection.transport narrow) := by
  intro request state
  have sent : connection.send narrow request (kept state) =
      (connection.send wider request state).view kept := by
    unfold send
    extract_lets address user address
    split
    · rfl
    · exact Hop.travel_view alike _ _ _ state
  simp only [transport, sent, Trip.view]

/-! ## What is sent until an interruption -/

/-- A record ends with an exchange during which the caller lost interest. -/
def Record.EndsInterrupted (record : Record) : Prop :=
  ∃ sent encounter, record.getLast? = some (sent, encounter) ∧ encounter.calledOff = true

/-- A record that was cut off by an interruption: it ends with the exchange that was interrupted, and
the whole record goes on from there. -/
structure Record.IsInterrupted (record whole : Record) : Prop where
  ends : record.EndsInterrupted
  begins : record <+: whole

/-- What was cut off is so behind any other record, since neither its end nor what
goes on from there is moved. -/
theorem Record.is_interrupted_append {record whole : Record} (cut : record.IsInterrupted whole)
    (earlier : Record) : Record.IsInterrupted (earlier ++ record) (earlier ++ whole) := by
  obtain ⟨⟨sent, encounter, last, calledOff⟩, begins⟩ := cut
  refine ⟨⟨sent, encounter, ?_, calledOff⟩, (List.prefix_append_right_inj earlier).mpr begins⟩
  rw [List.getLast?_append, last, Option.some_or]

/-- How a trip over an interrupted network goes that began behind a record, compared with the whole
trip: there is no interruption and it is the same, or there is one and the record is cut off by it. -/
inductive Trip.IsHeard (record : Record) (whole : Trip (σ × Record))
    (trip : Trip ((σ × Record) × Bool)) : Prop where
  | whole (same : trip = ⟨whole.result, whole.took, false, whole.network, false⟩)
      (quiet : whole.calledOff = false)
  | interrupted (calledOff : trip.calledOff = true) {more rest : Record}
      (left : trip.network.1.2 = record ++ more) (wholly : whole.network.2 = record ++ rest)
      (cut : more.IsInterrupted rest)

namespace Hop

/-- Behind an interruption nothing is sent, and the network is left as it was. -/
theorem travel_of_interrupted (network : Network σ) (origin : List Char) (left : Nat) (hop : Hop)
    (state : σ) :
    (travel network.untilInterrupted origin left hop (state, true)).network = (state, true) := by
  rw [travel_eq]
  cases hop.sent? with
  | none => rfl
  | some sent => rfl

/-- A request on its way fares as it would without interruptions, or one of its exchanges is
interrupted, and it gets no further.

Proof: induction on the redirects left over. An exchange that is not interrupted leaves the rest of the
way to the induction hypothesis, and behind one that is interrupted nothing is sent. -/
theorem travel_until_interrupted (network : Network σ) (origin : List Char) (left : Nat) (hop : Hop)
    (state : σ) (record : Record) :
    Trip.IsHeard record (travel network.recorded origin left hop (state, record))
      (travel network.recorded.untilInterrupted origin left hop ((state, record), false)) := by
  induction left using Nat.strongRecOn generalizing hop state record with
  | ind left inductionHypothesis =>
    rw [travel_eq network.recorded, travel_eq network.recorded.untilInterrupted]
    cases hop.sent? with
    | none => exact .whole rfl rfl
    | some sent =>
      let exchange := (sent, (network sent state).1)
      have cut (rest : Record) (calledOff : (network sent state).1.calledOff = true) :
          Record.IsInterrupted [exchange] (exchange :: rest) := ⟨⟨sent, _, rfl, calledOff⟩, by simp⟩
      simp only [Network.untilInterrupted, Network.recorded, Bool.false_eq_true, if_false]
      cases ended : hop.verdict origin left (network sent state).1 with
      | inl result =>
        cases calledOff : (network sent state).1.calledOff with
        | false => exact .whole rfl rfl
        | true => exact .interrupted rfl rfl rfl (cut [] calledOff)
      | inr next =>
        have fewer : left - 1 < left := Nat.sub_lt (pos_of_verdict ended) Nat.one_pos
        cases calledOff : (network sent state).1.calledOff with
        | true =>
          obtain ⟨later, same, _⟩ := travel_recorded network origin (left - 1) next
            (network sent state).2 (record ++ [exchange])
          refine .interrupted (by simp [follow, calledOff]) ?_ ?_ (cut later calledOff)
          · simp only [follow, travel_of_interrupted, exchange]
          · simp only [follow, exchange] at same ⊢
            simp only [same, Trip.withRecord, List.append_assoc, List.singleton_append]
        | false =>
          cases inductionHypothesis (left - 1) fewer next (network sent state).2
            (record ++ [exchange]) with
          | whole same quiet =>
            refine .whole ?_ ?_
            · simp only [follow, exchange] at same ⊢
              simp [same, calledOff]
            · simp only [follow, exchange] at quiet ⊢
              simp [quiet, calledOff]
          | interrupted loud short long interrupted =>
            refine .interrupted (by simpa [follow] using .inr loud) ?_ ?_
              (Record.is_interrupted_append interrupted [exchange])
            · simpa [follow] using short
            · simpa [follow] using long

end Hop

/-- What a connection delivers until an interruption is what it would deliver without any, or there was
one and the record is cut off there. -/
theorem Connection.transport_until_interrupted (connection : Connection) (request : Request)
    (network : Network σ) (state : σ) (record : Record) :
    let whole := connection.transport network.recorded request (state, record)
    let heard := connection.transport network.recorded.untilInterrupted request ((state, record), false)
    (heard = (whole.1, whole.2, false) ∧ whole.1.calledOff = false) ∨
    heard.1.calledOff = true ∧ ∃ more rest : Record, heard.2.1.2 = record ++ more ∧
      whole.2.2 = record ++ rest ∧ more.IsInterrupted rest := by
  intro whole heard
  have sent : Trip.IsHeard record (connection.send network.recorded request (state, record))
      (connection.send network.recorded.untilInterrupted request ((state, record), false)) := by
    unfold send
    extract_lets address user address
    split
    · exact .whole rfl rfl
    · exact Hop.travel_until_interrupted network _ _ _ state record
  cases sent with
  | whole same quiet =>
    refine .inl ⟨?_, quiet⟩
    simp only [heard, whole, transport, same, quiet]
  | interrupted calledOff left wholly cut => exact .inr ⟨calledOff, _, _, left, wholly, cut⟩

end Http

end ExtensionPublisher
