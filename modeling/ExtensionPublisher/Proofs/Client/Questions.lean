import ExtensionPublisher.Proofs.Answer.Truncation
import ExtensionPublisher.Proofs.Client.Polling
import ExtensionPublisher.Proofs.Client.Resource

/-!
# Questions in a row

Every call but a wait asks one question. What becomes of it is told here from the call and from the
one delivery that it takes, with no account of how it is carried out: a call that is given a blank
part is refused and takes no delivery; any other call sends its request, takes what is delivered for
it, and ends with what is found there.

For calls in a row, `questions_take_turns` says where each of them finds the transport: behind the
requests of the calls before it that sent one, and behind nothing else. So no request is sent twice,
and a call bears on a later one by the delivery that it takes away and in no other way.
-/
namespace ExtensionPublisher

variable {α σ : Type}

/-! ## What a call is given -/

/-- The bytes of space, tab, line feed, form feed and carriage return. -/
def blankBytes : List UInt8 := [0x20, 0x09, 0x0A, 0x0C, 0x0D]

namespace Call

/-- A call that asks one question. -/
def IsQuestion : Call → Prop
  | .wait .. => False
  | _ => True

/-- The parts that a call is given, in order, and whether they are blank. -/
def parts : Call → List (String × Bool)
  | .versions => []
  | .replications name | .delete name =>
    [("namespace", Text.blank name.provider), ("name", Text.blank name.type),
      ("version", Text.blank name.version)]
  | .update manifest => [("manifest", manifest.all blankBytes.contains)]
  | .report operation | .wait operation _ => [("operation id", Text.blank operation)]

/-- The first blank part of a call, in the order in which the parts are checked. -/
def blankPart? (call : Call) : Option String := (call.parts.find? (·.2)).map (·.1)

/-- What a call does to its resource. -/
def method : Call → Method
  | .versions | .replications _ | .report _ | .wait .. => .get
  | .update _ => .put
  | .delete _ => .delete

/-- The request of a call that is given no blank part: what it does to which
resource, with a manifest byte for byte. -/
def sends (call : Call) : Request where
  method := call.method
  segments := call.segments
  query := match call with
    | .update _ => [("action", "update")]
    | _ => []
  body := match call with
    | .update manifest => some manifest
    | _ => none

/-- What becomes of a body that is read: the outcome that is read in it, or else a malformed response
in the words of what is wrong with it. Only a body in which a document type divides a text is neither,
and the program breaks down over it. -/
inductive Reads (read : String → Except AnswerFault α) (outcome : α → Outcome) (body : String) :
    Except Fault Outcome → Prop where
  | whole {value : α} (known : read body = .ok value) : Reads read outcome body (.ok (outcome value))
  | malformed {fault : AnswerFault} (known : read body = .error fault)
      (readable : fault ≠ .record .dividedText) :
      Reads read outcome body (.error (.malformedResponse fault.message))
  | divided (known : read body = .error (.record .dividedText)) :
      Reads read outcome body (.error (.brokenDown .unreachable))

/-- What a call finds in a response that was accepted. Lists and reports are in the
body, and the name of an operation is in a header. -/
inductive Finds (response : Response) : Call → Except Fault Outcome → Prop where
  | versions {result : Except Fault Outcome}
      (reads : Reads PublishedVersion.readAll .versions response.body result) :
      Finds response .versions result
  | replications (name : VersionName) {result : Except Fault Outcome}
      (reads : Reads Replication.readAll .replications response.body result) :
      Finds response (.replications name) result
  | update (manifest : List UInt8) : Finds response (.update manifest)
      (response.operationId.map .operation)
  | delete (name : VersionName) : Finds response (.delete name)
      (response.operationId.map .operation)
  | report (operation : String) {result : Except Fault Outcome}
      (reads : Reads OperationReport.read .report response.body result) :
      Finds response (.report operation) result

/-- What a call ends with, by what is delivered for its request. A refusal is a rejection for the
reasons in its body, unless the program breaks down over these. -/
inductive Answers (call : Call) : Except Fault Response → Except Fault Outcome → Prop where
  | broken (fault : Fault) : Answers call (.error fault) (.error fault)
  | refused {response : Response} {reasons : Rejection}
      (outside : ¬(200 ≤ response.status ∧ response.status < 300))
      (explained : Rejection.ofBody response.body = .ok reasons) :
      Answers call (.ok response) (.error (.rejected response.status reasons.code reasons.message))
  | dividedReasons {response : Response}
      (outside : ¬(200 ≤ response.status ∧ response.status < 300))
      (divided : Rejection.read response.body = .error (.record .dividedText)) :
      Answers call (.ok response) (.error (.brokenDown .unreachable))
  | accepted {response : Response} {result : Except Fault Outcome}
      (inside : 200 ≤ response.status ∧ response.status < 300)
      (finds : Finds response call result) : Answers call (.ok response) result

/-- The requests that calls send, in order. A call with a blank part sends none. -/
def sentBy (calls : List Call) : List Request :=
  calls.filterMap fun call => if call.blankPart?.isNone then some call.sends else none

end Call

/-- A transport behind some requests, whatever was delivered for them. -/
def Transport.behind (transport : Transport σ) (state : σ) (requests : List Request) : σ :=
  requests.foldl (fun state request => (transport request state).2) state

/-- Deliveries in order are taken by requests one by one, so behind some requests as
many are gone. -/
theorem behind_rehearsed (deliveries : List Delivery) (requests : List Request) :
    rehearsed.behind deliveries requests = deliveries.drop requests.length := by
  induction requests generalizing deliveries with
  | nil => rfl
  | cons request rest inductionHypothesis =>
    cases deliveries with
    | nil => exact (inductionHypothesis []).trans (by simp)
    | cons delivery others => exact inductionHypothesis others

/-! ## One call -/

/-- A byte that counts as blank is one of five. All bytes are looked at. -/
theorem blank_byte_iff (b : UInt8) :
    (b < 128 && Text.isPlainBlank (Char.ofNat b.toNat)) = blankBytes.contains b := by
  have all : ∀ n : Fin 256, ((UInt8.ofFin n) < 128 &&
      Text.isPlainBlank (Char.ofNat (UInt8.ofFin n).toNat)) = blankBytes.contains (UInt8.ofFin n) := by
    decide +kernel
  exact all b.toFin

namespace Question

/-- A question is refused where a part of a name is blank, and the first such part
is named. Each of the parts is blank or not, which makes eight cases. -/
theorem require_name_eq (name : VersionName) :
    requireName name =
      match (Call.delete name).blankPart? with
      | some part => .error (.invalidArgument (part ++ " must not be empty"))
      | none => .ok () := by
  simp only [requireName, require, Call.blankPart?, Call.parts]
  cases Text.blank name.provider <;> cases Text.blank name.type <;> cases Text.blank name.version <;>
    rfl

end Question

namespace Call

variable {call : Call}

/-- A request is made exactly if no part is blank. Otherwise the first blank part is named. -/
theorem request_eq (call : Call) :
    call.request =
      match call.blankPart? with
      | some part => .error (.invalidArgument (part ++ " must not be empty"))
      | none => .ok call.sends := by
  cases call with
  | versions => rfl
  | replications name | delete name =>
    have same : (Call.replications name).blankPart? = (Call.delete name).blankPart? := rfl
    simp only [request, Question.replications, Question.delete, Question.require_name_eq, same]
    cases (Call.delete name).blankPart? <;> rfl
  | update manifest =>
    simp only [request, Question.update, Question.manifestBody, blankPart?, parts, blank_byte_iff]
    simp only [List.find?_cons, List.find?_nil]
    cases manifest.all blankBytes.contains <;> rfl
  | report operation | wait operation =>
    simp only [request, Question.report, Question.require, blankPart?, parts]
    cases Text.blank operation <;> rfl

/-- A question that makes no request leaves everything as it was. No time passes,
and nothing is taken from the transport. -/
theorem of_asked_refused {question : Question α} {fault : Fault}
    (refused : question.request = .error fault) (outcome : α → Outcome) (now : Nat)
    (transport : Transport σ) (state : σ) :
    ofAsked outcome now (question.ask transport state) = ⟨.error fault, [], now, state⟩ := by
  simp [ofAsked, Question.ask, refused, Except.map]

/-- A question that makes a request sends it once, and ends with what it finds in the delivery. -/
theorem of_asked_sent {question : Question α} {sent : Request} (made : question.request = .ok sent)
    (outcome : α → Outcome) (now : Nat) (transport : Transport σ) (state : σ) (log : List Request) :
    ofAsked outcome now (question.ask transport.logged (state, log)) =
      ⟨(question.conclude (transport sent state).1.result).map outcome, [(now, sent)],
        now + (transport sent state).1.took, ((transport sent state).2, log ++ [sent])⟩ := by
  simp [ofAsked, Question.ask, made, Transport.logged]

/-- What is read in a body is an outcome, a malformed response or a breakdown, and
the fault of reading tells which. -/
theorem reads_of_decode (read : String → Except AnswerFault α) (outcome : α → Outcome)
    (body : String) : Reads read outcome body ((decode read body).map outcome) := by
  unfold decode
  cases known : read body with
  | ok value => exact .whole known
  | error fault =>
    by_cases divided : fault = .record .dividedText
    · obtain rfl := divided
      exact .divided known
    · rw [Except.mapError, Except.map, AnswerFault.to_fault_of_readable divided]
      exact .malformed known divided

/-- What a question finds in a delivery is what its call ends with. A refusal and a
fault of the transport are the same for every question, so only accepted responses
have to be looked at. -/
theorem answers_of_conclude {question : Question α} {outcome : α → Outcome}
    (finds : ∀ response, Finds response call ((question.read response).map outcome))
    (received : Except Fault Response) :
    Answers call received ((question.conclude received).map outcome) := by
  cases received with
  | error fault => exact .broken fault
  | ok response =>
    by_cases inside : 200 ≤ response.status ∧ response.status < 300
    · rw [question.conclude_of_accepted (by simpa [Response.isSuccess] using inside)]
      exact .accepted inside (finds response)
    · rw [question.conclude_of_refused (by simpa [Response.isSuccess] using inside)]
      rcases response.rejection_cases with ⟨reasons, explained, same⟩ | ⟨divided, same⟩ <;> rw [same]
      · exact .refused inside explained
      · exact .dividedReasons inside divided

variable (settings : WaitSettings) (transport : Transport σ) (now : Nat) (state : σ)
  (log : List Request)

/-- A call that is given a blank part ends with the name of the first one. It sends nothing and
takes nothing. -/
theorem perform_of_blank (asks : call.IsQuestion) {part : String}
    (blank : call.blankPart? = some part) :
    call.perform settings transport now state =
      ⟨.error (.invalidArgument (part ++ " must not be empty")), [], now, state⟩ := by
  have refused : call.request = .error (.invalidArgument (part ++ " must not be empty")) := by
    rw [request_eq, blank]
  cases call with
  | versions | replications | update | delete | report => exact of_asked_refused refused _ now _ _
  | wait => exact asks.elim

/-- A call that is given no blank part sends its request once, takes one delivery, and ends with what
is found in it. -/
theorem perform_of_spoken (asks : call.IsQuestion) (spoken : call.blankPart? = none) :
    ∃ result, Answers call (transport call.sends state).1.result result ∧
      call.perform settings transport.logged now (state, log) =
        ⟨result, [(now, call.sends)], now + (transport call.sends state).1.took,
          ((transport call.sends state).2, log ++ [call.sends])⟩ := by
  have made : call.request = .ok call.sends := by rw [request_eq, spoken]
  cases call with
  | versions => exact ⟨_, answers_of_conclude (fun _ => .versions (reads_of_decode _ _ _)) _, of_asked_sent made _ now _ _ _⟩
  | replications name =>
    exact ⟨_, answers_of_conclude (fun _ => .replications name (reads_of_decode _ _ _)) _, of_asked_sent made _ now _ _ _⟩
  | update manifest =>
    exact ⟨_, answers_of_conclude (fun _ => .update manifest) _, of_asked_sent made _ now _ _ _⟩
  | delete name =>
    exact ⟨_, answers_of_conclude (fun _ => .delete name) _, of_asked_sent made _ now _ _ _⟩
  | report operation =>
    exact ⟨_, answers_of_conclude (fun _ => .report operation (reads_of_decode _ _ _)) _, of_asked_sent made _ now _ _ _⟩
  | wait => exact asks.elim

/-! ## Calls in a row -/

/-- How a call goes that finds the transport behind some requests, all of them
written down. It is refused and nothing changes, or it sends one request and takes
what is delivered for it. -/
inductive TakesTurn (transport : Transport σ) (state : σ) (earlier : List Request) (call : Call)
    (performed : Performed (σ × List Request)) : Prop where
  | blank {part : String} (blank : call.blankPart? = some part)
      (result : performed.result = .error (.invalidArgument (part ++ " must not be empty")))
      (requests : performed.requests = [])
      (transport : performed.transport = (transport.behind state earlier, earlier))
  | spoken (spoken : call.blankPart? = none)
      (answers : Answers call (transport call.sends (transport.behind state earlier)).1.result
        performed.result)
      (requests : performed.requests.map (·.2) = [call.sends])
      (transport : performed.transport =
        (transport.behind state (earlier ++ [call.sends]), earlier ++ [call.sends]))

/-- A call takes its turn, and leaves the transport behind what it has sent. So the
next call finds the transport as this one has found it. -/
theorem perform_takes_turn (asks : call.IsQuestion) :
    let performed := call.perform settings transport.logged now (transport.behind state log, log)
    TakesTurn transport state log call performed ∧
      performed.transport =
        (transport.behind state (log ++ sentBy [call]), log ++ sentBy [call]) := by
  intro performed
  cases known : call.blankPart? with
  | some part =>
    have refused : performed = ⟨_, _, _, _⟩ :=
      perform_of_blank settings transport.logged now (transport.behind state log, log) asks known
    have nothing : sentBy [call] = [] := by simp [sentBy, known]
    rw [refused, nothing, List.append_nil]
    exact ⟨.blank known rfl rfl rfl, rfl⟩
  | none =>
    obtain ⟨result, answers, sent⟩ :=
      perform_of_spoken settings transport now (transport.behind state log) log asks known
    have one : sentBy [call] = [call.sends] := by simp [sentBy, known]
    have next : (transport call.sends (transport.behind state log)).2 =
        transport.behind state (log ++ [call.sends]) := by
      simp only [Transport.behind, List.foldl_append, List.foldl_cons, List.foldl_nil]
    rw [show performed = _ from sent, one, next]
    exact ⟨.spoken known answers rfl rfl, rfl⟩

/-- How calls in a row go that find the transport behind some requests. Each of them takes its turn, up
to the first one that the program breaks down over. That one is the last. -/
structure TakeTurns (transport : Transport σ) (state : σ) (earlier : List Request) (calls : List Call)
    (performed : List (Performed (σ × List Request))) : Prop where
  count : performed.length ≤ calls.length
  turns : ∀ index call turn, calls[index]? = some call → performed[index]? = some turn →
    TakesTurn transport state (earlier ++ sentBy (calls.take index)) call turn
  continues : ∀ index < calls.length, (∀ turn ∈ performed.take index, turn.breakdown? = none) →
    index < performed.length
  stops : ∀ index turn breakdown, performed[index]? = some turn → turn.breakdown? = some breakdown →
    performed.length = index + 1

/-- A call that the program breaks down over is the only one, whatever calls should
follow. -/
theorem take_turns_of_broken {transport : Transport σ} {state : σ} {earlier : List Request}
    {first : Call} {turn : Performed (σ × List Request)} {breakdown : Breakdown}
    (takes : TakesTurn transport state earlier first turn) (broken : turn.breakdown? = some breakdown)
    (rest : List Call) : TakeTurns transport state earlier (first :: rest) [turn] := by
  constructor
  case count => simp
  case turns =>
    intro index call other known found
    cases index with
    | zero =>
      obtain rfl := Option.some.inj known
      obtain rfl := Option.some.inj found
      simpa [sentBy] using takes
    | succ index => cases found
  case continues =>
    intro index _ unbroken
    cases index with
    | zero => simp
    | succ index =>
      rw [unbroken turn (by simp)] at broken
      cases broken
  case stops =>
    intro index other _ found _
    cases index with
    | zero => rfl
    | succ index => cases found

/-- A call that the program outlives stands in front of the calls behind its
request. Their numbers are greater by one. -/
theorem take_turns_of_unbroken {transport : Transport σ} {state : σ} {earlier : List Request}
    {first : Call} {rest : List Call} {turn : Performed (σ × List Request)}
    {others : List (Performed (σ × List Request))}
    (takes : TakesTurn transport state earlier first turn) (unbroken : turn.breakdown? = none)
    (later : TakeTurns transport state (earlier ++ sentBy [first]) rest others) :
    TakeTurns transport state earlier (first :: rest) (turn :: others) := by
  constructor
  case count => simpa using later.count
  case turns =>
    intro index call other known found
    cases index with
    | zero =>
      obtain rfl := Option.some.inj known
      obtain rfl := Option.some.inj found
      simpa [sentBy] using takes
    | succ index =>
      have sent : sentBy (first :: rest.take index) = sentBy [first] ++ sentBy (rest.take index) :=
        List.filterMap_append (l := [first])
      rw [List.take_succ_cons, sent, ← List.append_assoc]
      exact later.turns index call other known found
  case continues =>
    intro index inside outlived
    cases index with
    | zero => simp
    | succ index =>
      have before := later.continues index (by simpa using inside) fun other member =>
        outlived other (List.mem_cons_of_mem turn member)
      simpa using before
  case stops =>
    intro index other breakdown found broken
    cases index with
    | zero =>
      obtain rfl := Option.some.inj found
      cases unbroken.symm.trans broken
    | succ index => simpa using later.stops index other breakdown found broken

/-- Calls that begin behind some requests take their turns behind these and behind those that the
calls before them send.

Proof: induction on the calls. Each leaves the transport where the next one finds it, and there is a
next one if the program outlives the call. -/
theorem perform_all_take_turns {calls : List Call} (ask : ∀ call ∈ calls, call.IsQuestion) :
    TakeTurns transport state log calls
      (performAll settings transport.logged now (transport.behind state log, log) calls) := by
  induction calls generalizing now log with
  | nil => exact ⟨Nat.le_refl 0, nofun, nofun, nofun⟩
  | cons first rest inductionHypothesis =>
    obtain ⟨takes, left⟩ :=
      perform_takes_turn settings transport now state log (ask first List.mem_cons_self)
    rw [performAll]
    split
    case h_1 breakdown broken => exact take_turns_of_broken takes broken rest
    case h_2 unbroken =>
      rw [left]
      exact take_turns_of_unbroken takes unbroken
        (inductionHypothesis _ _ fun call member => ask call (List.mem_cons_of_mem first member))

/-- Calls that ask one question each are carried out one after another, over any transport and with
any settings. Each takes its turn behind the requests of the calls before it, up to the first call that
the program breaks down over.

A call with a blank part is refused by the name of the first one; it sends nothing, and the transport
stays as it is. Any other call sends its own request and no other, the transport is one delivery
further, and that delivery decides: a fault is kept, a status that is no acceptance is a rejection for
the reasons in the body, and in an accepted response the call finds what it asks for. The exception is
a delivery in which a document type divides a text, for the program breaks down over it. For deliveries
that are given in order, `behind_rehearsed` says that the call takes the next one. -/
theorem questions_take_turns {calls : List Call} (ask : ∀ call ∈ calls, call.IsQuestion) :
    TakeTurns transport state [] calls
      (performAll settings transport.logged now (state, []) calls) :=
  perform_all_take_turns settings transport now state [] ask

/-- A version whose number is an ideographic space is not asked about, and the deletion behind it
takes the first delivery. The service is busy in it, and the deletion is not tried again. -/
theorem blank_number_takes_nothing :
    let calls : List Call :=
      [.replications ⟨"Contoso", "Agent", "\u3000"⟩, .delete ⟨"Contoso", "Agent", "1.0"⟩]
    let deliveries : List Delivery := [{ result := .ok { status := 503 } }]
    let performed := performAll {} rehearsed.logged 0 (deliveries, []) calls
    (∀ call ∈ calls, call.IsQuestion) ∧ ∃ refused busy,
      performed[0]? = some refused ∧ performed[1]? = some busy ∧
      refused.result = .error (.invalidArgument "version must not be empty") ∧
      refused.requests = [] ∧ refused.transport = (deliveries, []) ∧
      busy.result = .error (.rejected 503 "Unknown" "") ∧
      busy.transport = ([], [(Call.delete ⟨"Contoso", "Agent", "1.0"⟩).sends]) := by
  intro calls deliveries performed
  have ask : ∀ call ∈ calls, call.IsQuestion := by simp [calls, IsQuestion]
  have turns : TakeTurns rehearsed deliveries [] calls performed :=
    questions_take_turns {} rehearsed 0 deliveries ask
  obtain ⟨refused, busy, same⟩ : ∃ refused busy, performed = [refused, busy] := ⟨_, _, rfl⟩
  rw [same] at turns ⊢
  refine ⟨ask, refused, busy, rfl, rfl, ?_⟩
  cases turns.turns 0 _ refused rfl rfl with
  | spoken spoken => exact absurd spoken (by decide)
  | @blank part blank result nothing untouched =>
    obtain rfl : "version" = part := Option.some.inj blank
    cases turns.turns 1 _ busy rfl rfl with
    | blank blank =>
      have spoken : (Call.delete ⟨"Contoso", "Agent", "1.0"⟩).blankPart? = none := by decide
      rw [spoken] at blank
      cases blank
    | spoken spoken answers requests taken =>
      have rejected : busy.result = .error (.rejected 503 "Unknown" "") := by
        generalize busy.result = concluded at answers ⊢
        cases answers with
        | refused outside explained =>
          obtain rfl := Except.ok.inj explained
          rfl
        | dividedReasons outside divided => cases divided
        | accepted inside => exact absurd inside (by decide)
      rw [behind_rehearsed] at untouched taken
      exact ⟨result, nothing, untouched, rejected, taken⟩

/-- A list of which a document type divides a name. -/
def dividedList : Response where
  status := 200
  body := "<ExtensionImages><ExtensionImage><Type>Agent<!DOCTYPE a>2</Type></ExtensionImage></ExtensionImages>"

/-- The program breaks down over the list. So it does not call the list malformed, and the deletion
that should come behind it is never asked for: the delivery that would accept it is left over. -/
theorem divided_list_ends_calls :
    let calls : List Call := [.versions, .delete ⟨"Contoso", "Agent", "1.0"⟩]
    let accepted : Response := { status := 202, headers := [("x-ms-request-id", "op-1")] }
    let performed := performAll {} rehearsed 0 [{ result := .ok dividedList }, { result := .ok accepted }]
      calls
    performed.map (fun turn => (turn.result, turn.requests.length, turn.transport.length)) =
      [(.error (.brokenDown .unreachable), 1, 1)] := by
  decide +kernel

end Call

end ExtensionPublisher
