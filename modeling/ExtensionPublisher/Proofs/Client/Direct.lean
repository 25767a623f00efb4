import ExtensionPublisher.Proofs.Client.Polling
import ExtensionPublisher.Proofs.Client.Recorded
import ExtensionPublisher.Proofs.Http.First

/-!
# Requests that are answered directly

An answer that leads on makes more requests out of one. Without such answers a record shows nothing but
what the client asks for: a request is in it once, `transport_direct`, and a wait leaves there nothing
but requests for the report, however often it asks and whatever it is told, `wait_direct`.
-/
namespace ExtensionPublisher

open Http

/-- No answer in a record leads on, so every exchange in it is the first one of its
request. -/
def Http.Record.IsDirect (record : Record) : Prop :=
  ∀ exchange ∈ record, ∀ received, exchange.2.reaction = .answered received →
    Hop.leadsOn received.status = false

/-- A record is direct if its parts are, since each exchange is looked at by itself.
-/
theorem Http.Record.is_direct_append {record more : Record} :
    Record.IsDirect (record ++ more) ↔ record.IsDirect ∧ more.IsDirect :=
  List.forall_mem_append

/-- A record is direct if its first exchange is and the others are. Where the first
one leads on, nothing is said of the others. -/
theorem Http.Record.is_direct_cons {exchange : Sent × Encounter} {more : Record} :
    Record.IsDirect (exchange :: more) ↔ Record.IsDirect [exchange] ∧ more.IsDirect := by
  rw [← Record.is_direct_append, List.singleton_append]

/-- A record that was cut off by an interruption is not empty, for the interrupted exchange is in it. -/
theorem Http.Record.IsInterrupted.ne_nil {record whole : Record} (cut : record.IsInterrupted whole) :
    record ≠ [] := by
  rintro rfl
  obtain ⟨_, _, last, _⟩ := cut.ends
  cases last

/-- If a record has nothing behind its first exchange unless that leads on, neither has what an
interruption leaves of it. -/
theorem Http.Record.direct_of_interrupted {record whole : Record} (cut : record.IsInterrupted whole)
    {exchange : Sent × Encounter} {more : Record} (begins : whole = exchange :: more)
    (once : Record.IsDirect [exchange] → more = []) :
    ∃ later, record = exchange :: later ∧ (record.IsDirect → later = []) := by
  cases record with
  | nil => exact absurd rfl cut.ne_nil
  | cons first later =>
    obtain ⟨rfl, behind⟩ := List.cons_prefix_cons.mp (begins ▸ cut.begins)
    refine ⟨later, rfl, fun direct => ?_⟩
    rw [once (Record.is_direct_cons.mp direct).1] at behind
    exact List.prefix_nil.mp behind

variable {σ : Type} {credentials : Credentials} {settings : Settings} {connection : Connection}

/-- The record of a request begins with the request, unless it cannot be sent, and then only a fault is
delivered. If the answer to the request does not lead on, nothing follows. -/
theorem Http.Connection.transport_direct (opened : establish credentials settings = .ok connection)
    (request : Request) (network : Network σ) (state : σ) (record : Record) :
    let delivered := connection.transport network.recorded request (state, record)
    ((connection.reached request).authorityText.any isUnsendable = true ∧ delivered.2.2 = record ∧
      Fails delivered.1.result) ∨
    ∃ exchange more, delivered.2.2 = record ++ exchange :: more ∧
      connection.Carries request exchange.1 ∧ (Record.IsDirect [exchange] → more = []) := by
  intro delivered
  rcases connection.transport_first opened request network state record with
    unsendable | ⟨sent, more, left, carries, stays, _⟩
  · exact .inl unsendable
  · refine .inr ⟨_, more, left, carries, fun direct => (stays ?_).1⟩
    rintro ⟨received, answered, _, leads, _⟩
    rw [direct _ List.mem_cons_self received answered] at leads
    cases leads

section Queries

variable (opened : Connection.establish credentials settings = .ok connection) (network : Network σ)
  {operation : String} (named : Text.blank operation = false)

include opened named

/-- Queries in a row leave nothing but requests for the report in a direct record.

Proof: induction on the queries. Each leaves what it leaves behind the record of those before it. -/
theorem queries_direct (state : σ) (record : Record) (count : Nat) :
    ∃ more : Record,
      ((statusSource (connection.transport network.recorded)).after operation (state, record)
        count).2 = record ++ more ∧
      (more.IsDirect → ∀ exchange ∈ more, connection.Carries (reportRequest operation) exchange.1) := by
  induction count with
  | zero => exact ⟨[], by simp [StatusSource.after], nofun⟩
  | succ count inductionHypothesis =>
    obtain ⟨earlier, before, carried⟩ := inductionHypothesis
    generalize reached : (statusSource (connection.transport network.recorded)).after operation
      (state, record) count = standing at before
    obtain ⟨now, known⟩ := standing
    obtain rfl : known = record ++ earlier := before
    have asked : ((statusSource (connection.transport network.recorded)).after operation
        (state, record) (count + 1)) =
          (connection.transport network.recorded (reportRequest operation)
            (now, record ++ earlier)).2 := by
      rw [StatusSource.after, reached]
      simp only [statusSource, Question.ask, Question.request_of_named named]
      rfl
    rw [asked]
    rcases connection.transport_direct opened (reportRequest operation) network now
        (record ++ earlier) with ⟨_, nothing, _⟩ | ⟨exchange, more, left, carries, once⟩
    · exact ⟨earlier, nothing, carried⟩
    · refine ⟨earlier ++ exchange :: more, by rw [left, List.append_assoc], ?_⟩
      intro direct
      obtain ⟨directBefore, directNow⟩ := Record.is_direct_append.mp direct
      obtain rfl := once (Record.is_direct_cons.mp directNow).1
      rw [List.forall_mem_append]
      exact ⟨carried directBefore, by simpa using carries⟩

/-- A wait leaves nothing but requests for the report in a direct record, because
all that it does over the network is to make its queries. -/
theorem wait_direct {settings : WaitSettings} (accepted : settings.validate = .ok ())
    (deadline? cancelAt : Option Nat) (state : σ) (record : Record) :
    ∃ more : Record,
      (settings.wait deadline? (statusSource (connection.transport network.recorded)) cancelAt
        operation (state, record)).source.2 = record ++ more ∧
      (more.IsDirect → ∀ exchange ∈ more, connection.Carries (reportRequest operation) exchange.1) := by
  have follows := settings.wait_follows accepted named deadline?
    (statusSource (connection.transport network.recorded)) cancelAt (state, record)
  rw [follows.source]
  exact queries_direct opened network named state record _

end Queries

end ExtensionPublisher
