import ExtensionPublisher.Proofs.Client.Questions
import ExtensionPublisher.Proofs.Text.Trim
import Mathlib.Logic.Relation

/-!
# The names of operations

A change that is accepted is named by a header of the answer. The first header with the right name
counts, in whatever letter case that is written, and its value without the blanks around it is the name:
`operation_id_iff`. So the name stays as it is when anything else about the headers changes,
`header_of_edits`.

A name that is handed out can be given back. It is not empty and no blanks surround it, so it passes the
checks in front of a question and of a wait, and both tell it to the service as it is: `report_of_named`
and `wait_of_named`.
-/
namespace ExtensionPublisher

open Relation (EqvGen)

/-! ## Headers -/

/-- A name of a header that names operations, in any letter case. It is what a
response looks for. -/
def NamesOperation (name : String) : Prop := Text.lowered name = "x-ms-request-id"

/-- The first header that names an operation has a value. -/
def FirstNamed (headers : List (String × String)) (value : String) : Prop :=
  ∃ before name after, headers = before ++ (name, value) :: after ∧ NamesOperation name ∧
    ∀ header ∈ before, ¬ NamesOperation header.1

/-- A change to headers that leaves the first one alone that names an operation, apart from its letter
case. It is read in both directions. -/
inductive Edit : List (String × String) → List (String × String) → Prop where
  /-- Another header is inserted. -/
  | insert {header : String × String} (before after : List (String × String))
      (other : ¬ NamesOperation header.1) : Edit (before ++ after) (before ++ header :: after)
  /-- Neighbours change places, and not both of them name an operation. -/
  | swap {first second : String × String} (before after : List (String × String))
      (other : ¬ NamesOperation first.1 ∨ ¬ NamesOperation second.1) :
      Edit (before ++ first :: second :: after) (before ++ second :: first :: after)
  /-- A header is added behind one that names an operation. -/
  | add {earlier : String × String} (header : String × String) (before after : List (String × String))
      (named : NamesOperation earlier.1) (member : earlier ∈ before) :
      Edit (before ++ after) (before ++ header :: after)
  /-- The name of a header is written in another letter case. -/
  | respell {name spelling : String} (value : String) (before after : List (String × String))
      (same : Text.lowered name = Text.lowered spelling) :
      Edit (before ++ (name, value) :: after) (before ++ (spelling, value) :: after)

/-- Lower case is in lower case, so names that a response has stored are compared as
those it was given. -/
theorem Text.lowered_lowered (text : String) : lowered (lowered text) = lowered text := by
  have lower (c : Char) : c.toLower.toLower = c.toLower := by
    unfold Char.toLower
    grind
  rw [lowered, lowered, String.toList_ofList, List.map_map]
  congr 2
  exact funext lower

/-- Whether a header names an operation is what a response looks for when it
compares names without regard to letter case. -/
theorem same_word_iff (name : String) :
    Text.sameWord name Response.operationHeader = true ↔ NamesOperation name := by
  have lower : Text.lowered Response.operationHeader = "x-ms-request-id" := by decide
  rw [Text.sameWord, beq_iff_eq, lower, NamesOperation]

namespace Response

variable {response other : Response} {id value : String}

/-- The header that names the operation is the first one that names any, whatever
its value says. -/
theorem header_eq_some_iff :
    response.header? operationHeader = some value ↔ FirstNamed response.headers value := by
  simp only [header?, FirstNamed, Option.map_eq_some_iff, List.find?_eq_some_iff_append, same_word_iff,
    Bool.not_eq_true', ← Bool.not_eq_true]
  constructor
  · rintro ⟨⟨name, _⟩, ⟨named, before, after, same, unnamed⟩, rfl⟩
    exact ⟨before, name, after, same, named, unnamed⟩
  · rintro ⟨before, name, after, same, named, unnamed⟩
    exact ⟨(name, value), ⟨named, before, after, same, unnamed⟩, rfl⟩

/-- An edit of the headers changes nothing about the header that names the
operation: what is inserted is another one, and two that name one do not change
places. -/
theorem header_of_edit (edit : Edit response.headers other.headers) :
    response.header? operationHeader = other.header? operationHeader := by
  simp only [header?]
  generalize response.headers = headers at edit
  generalize other.headers = others at edit
  cases edit with
  | insert before after unnamed =>
    rw [← same_word_iff] at unnamed
    simp [List.find?_append, unnamed]
  | swap before after unnamed =>
    simp only [← same_word_iff, Bool.not_eq_true] at unnamed
    rcases unnamed with first | second
    · simp [List.find?_append, List.find?_cons, first]
    · simp [List.find?_append, List.find?_cons, second]
  | @add earlier header before after named member =>
    have found : (before.find? fun header => Text.sameWord header.1 operationHeader).isSome = true :=
      List.find?_isSome.mpr ⟨earlier, member, (same_word_iff _).mpr named⟩
    rw [List.find?_append, List.find?_append, Option.or_of_isSome found, Option.or_of_isSome found]
  | @respell name spelling value before after same =>
    have alike : Text.sameWord name operationHeader = Text.sameWord spelling operationHeader := by
      rw [Text.sameWord, Text.sameWord, same]
    rw [List.find?_append, List.find?_append]
    cases before.find? fun header => Text.sameWord header.1 operationHeader with
    | some header => rfl
    | none => cases known : Text.sameWord spelling operationHeader <;> simp [alike, known]

/-- Edits of the headers change nothing about the header that names the operation.

Proof: induction on the edits. The headers in between are those of a response as well. -/
theorem header_of_edits (edits : EqvGen Edit response.headers other.headers) :
    response.header? operationHeader = other.header? operationHeader := by
  have general {headers others : List (String × String)} (edits : EqvGen Edit headers others) :
      ({ status := 0, headers } : Response).header? operationHeader =
        ({ status := 0, headers := others } : Response).header? operationHeader := by
    induction edits with
    | rel headers others edit => exact header_of_edit edit
    | refl headers => rfl
    | symm headers others _ inductionHypothesis => exact inductionHypothesis.symm
    | trans headers between others _ _ first second => exact first.trans second
  exact general edits

/-- The name of an operation depends on nothing but the header that names it. Edits
of the headers therefore leave it as it is. -/
theorem operation_id_of_edits (edits : EqvGen Edit response.headers other.headers) :
    response.operationId = other.operationId := by
  rw [operationId, operationId, header_of_edits edits]

/-- An operation is named by the value of the first header that names one, without the blanks around
it, unless nothing is left. -/
theorem operation_id_iff :
    response.operationId = .ok id ↔
      ∃ value, FirstNamed response.headers value ∧ id = Text.trimmed value ∧ id ≠ "" := by
  simp only [← header_eq_some_iff]
  unfold operationId
  split
  case h_1 missing => simp_all
  case h_2 empty =>
    obtain ⟨value, first, nothing⟩ := Option.map_eq_some_iff.mp empty
    simp [first, nothing]
  case h_3 name filled named =>
    obtain ⟨value, first, rfl⟩ := Option.map_eq_some_iff.mp named
    simp only [first, Except.ok.injEq, Option.some.injEq, exists_eq_left']
    constructor
    · rintro rfl
      exact ⟨rfl, filled⟩
    · exact fun known => known.1.symm

/-- There is one fault in the name of an operation, namely that there is none. -/
theorem fault_of_operation_id {fault : Fault} (failed : response.operationId = .error fault) :
    fault = .missingOperationId := by
  unfold operationId at failed
  split at failed
  all_goals cases failed
  all_goals rfl

/-- The fault is that the value of the first header leaves nothing, if there is one.
Later headers that name an operation do not help. -/
theorem operation_id_eq_error_iff :
    response.operationId = .error .missingOperationId ↔
      ∀ value, FirstNamed response.headers value → Text.trimmed value = "" := by
  constructor
  · intro missing value first
    by_contra named
    have found := operation_id_iff.mpr ⟨value, first, rfl, named⟩
    rw [missing] at found
    cases found
  · intro nothing
    cases known : response.operationId with
    | ok id =>
      obtain ⟨value, first, rfl, named⟩ := operation_id_iff.mp known
      exact absurd (nothing value first) named
    | error fault => rw [fault_of_operation_id known]

/-- No blanks surround the name of an operation, so it can be given back as a
segment of an address without a change. -/
theorem tight_of_operation_id (named : response.operationId = .ok id) :
    Text.isTight Text.isBlank id.toList = true := by
  obtain ⟨value, _, rfl, _⟩ := operation_id_iff.mp named
  rw [← Text.trim_eq_self_iff, Text.trimmed, String.toList_ofList, Text.trim_trim fun _ blank => blank]

/-- A response that is built header by header. -/
def built (status : Nat) (body : String) (headers : List (String × String)) : Response :=
  headers.foldl (fun response header => response.withHeader header.1 header.2) { status, body }

/-- A response that is built has the headers, in order, with their names in lower
case. Their values stay as they are. -/
theorem headers_of_built (status : Nat) (body : String) (headers : List (String × String)) :
    (built status body headers).headers =
      headers.map fun header => (Text.lowered header.1, header.2) := by
  have general (begun : Response) :
      (headers.foldl (fun response header => response.withHeader header.1 header.2) begun).headers =
        begun.headers ++ headers.map fun header => (Text.lowered header.1, header.2) := by
    induction headers generalizing begun with
    | nil => simp
    | cons header others inductionHypothesis =>
      rw [List.foldl_cons, inductionHypothesis, withHeader, List.map_cons, List.append_assoc,
        List.singleton_append]
  exact general _

end Response

/-- An edit behind a header is an edit, because an edit may be anywhere in the
headers. -/
theorem Edit.behind {headers others : List (String × String)} (header : String × String)
    (edit : Edit headers others) : Edit (header :: headers) (header :: others) := by
  cases edit with
  | insert before after other => exact .insert (header :: before) after other
  | swap before after other => exact .swap (header :: before) after other
  | add added before after named member =>
    exact .add added (header :: before) after named (List.mem_cons_of_mem header member)
  | respell value before after same => exact .respell value (header :: before) after same

/-- Edits behind a header are edits, one after another and in both directions. -/
theorem edits_behind {headers others : List (String × String)} (header : String × String)
    (edits : EqvGen Edit headers others) : EqvGen Edit (header :: headers) (header :: others) := by
  induction edits with
  | rel headers others edit => exact .rel _ _ (edit.behind header)
  | refl headers => exact .refl _
  | symm headers others _ inductionHypothesis => exact .symm _ _ inductionHypothesis
  | trans headers between others _ _ first second => exact .trans _ _ _ first second

/-- Letter case is all that a response changes about the headers that it is built
of. So a response may be spoken of by the headers it was given. -/
theorem Response.edits_of_built (status : Nat) (body : String) (headers : List (String × String)) :
    EqvGen Edit headers (built status body headers).headers := by
  rw [headers_of_built]
  induction headers with
  | nil => exact .refl _
  | cons header others inductionHypothesis =>
    have spelled := Edit.respell header.2 [] others (Text.lowered_lowered header.1).symm
    exact .trans _ _ _ (.rel _ _ spelled) (edits_behind _ inductionHypothesis)

/-! ## Calls -/

namespace Call

variable {σ : Type}

/-- A call that asks for a change. -/
def IsChange : Call → Prop
  | .update _ | .delete _ => True
  | _ => False

/-- A change that is accepted brings the name of its operation, or the fault that
there is none. Nothing else of the response is read. -/
theorem result_of_change {call : Call} (changes : call.IsChange) (spoken : call.blankPart? = none)
    (settings : WaitSettings) (transport : Transport σ) (now : Nat) (state : σ) {response : Response}
    (delivered : (transport call.sends state).1.result = .ok response)
    (accepted : response.isSuccess = true) :
    (call.perform settings transport now state).result = response.operationId.map .operation := by
  have made : call.request = .ok call.sends := by rw [request_eq, spoken]
  have concluded (question : Question String) (reads : question.read = Response.operationId) :
      question.conclude (.ok response) = response.operationId := by
    rw [question.conclude_of_accepted accepted, reads]
  cases call with
  | update manifest | delete name =>
    simp only [request] at made
    simp only [perform, ofAsked, Question.ask, made, delivered]
    rw [concluded _ rfl]
  | _ => exact changes.elim

section Named

variable (settings : WaitSettings) (transport : Transport σ) (now : Nat) (state : σ)
  {operation : String} (named : Text.blank operation = false)

include named

/-- An operation with a name is asked about with one request, which tells the name as it is. -/
theorem report_of_named :
    (Call.report operation).perform settings transport now state =
      ⟨((Question.report operation).conclude
          (transport (reportRequest operation) state).1.result).map .report,
        [(now, reportRequest operation)], now + (transport (reportRequest operation) state).1.took,
        (transport (reportRequest operation) state).2⟩ := by
  simp only [perform, ofAsked, Question.ask, Question.request_of_named named]
  rfl

/-- A wait for an operation with a name sends nothing but the request about it, and sends it at once
unless it is called off from the beginning. -/
theorem wait_of_named (accepted : settings.validate = .ok ()) (cancelAt : Option Nat) :
    let waited := (Call.wait operation cancelAt).perform settings transport now state
    (cancelAt = some 0 ∧ waited.result = .error (.cancelled operation) ∧ waited.requests = []) ∨
    (cancelAt ≠ some 0 ∧ ∃ later, waited.requests = (now, reportRequest operation) :: later ∧
      ∀ sent ∈ later, sent.2 = reportRequest operation) := by
  intro waited
  have follows := settings.wait_follows accepted named none (statusSource transport) cancelAt state
  generalize ran : settings.wait none (statusSource transport) cancelAt operation state = run at follows
  have result : waited.result = run.result.map .completion := by
    simp only [waited, perform, ran]
  have requests : waited.requests = run.starts.map fun start => (now + start, reportRequest operation) := by
    simp only [waited, perform, ran, Question.request_of_named named]
    exact List.map_eq_flatMap.symm
  have wanted : (settings.course none (statusSource transport) cancelAt operation state).CalledOff 0 0 ↔
      cancelAt = some 0 := by
    simp [Course.CalledOff, WaitSettings.course]
  by_cases calledOff : cancelAt = some 0
  · have whole := Course.follows_unique follows
      (Course.follows_of_called_off _ state (wanted.mpr calledOff))
    rw [result, requests, whole]
    exact .inl ⟨calledOff, rfl, rfl⟩
  · have begun := (follows.starts_iff 0).mp (Course.starts_zero_iff.mpr (mt wanted.mp calledOff))
    have first := follows.start_of_query begun
    obtain ⟨start, later, starts⟩ := List.exists_cons_of_length_pos begun
    simp only [starts, List.getElem_cons_zero] at first
    obtain rfl : start = 0 := first
    rw [requests, starts]
    refine .inr ⟨calledOff, _, rfl, ?_⟩
    intro sent member
    obtain ⟨_, _, rfl⟩ := List.mem_map.mp member
    rfl

end Named

/-- An operation that is handed out can be asked about and waited for, over any transport.

A change whose answer is an acceptance ends with the fault that no operation is named, or with the value
of the first header that names one, in whatever letter case, without the blanks around it; the name is
not empty. Other headers make no difference wherever they stand, nor do later ones that name operations,
nor the letter case that a response stores names in.

What is handed out is told to the service as it is. Asking about it sends one request. So does a wait
with settings that are accepted, at once unless it is called off from the beginning, and it sends
nothing else; settings that are refused are refused for every operation alike. -/
theorem operations_can_be_awaited {σ : Type} {call : Call} (changes : call.IsChange)
    (spoken : call.blankPart? = none) (settings : WaitSettings) (transport : Transport σ) (now : Nat)
    (state : σ) {response : Response}
    (delivered : (transport call.sends state).1.result = .ok response)
    (accepted : response.isSuccess = true) :
    let result := (call.perform settings transport now state).result
    ((result = .error .missingOperationId ∧
        ∀ value, FirstNamed response.headers value → Text.trimmed value = "") ∨
      ∃ id value, result = .ok (.operation id) ∧ FirstNamed response.headers value ∧
        id = Text.trimmed value ∧ id ≠ "" ∧ Text.isTight Text.isBlank id.toList = true) ∧
    (∀ (τ : Type) (again : Transport τ) (standing : τ) (other : Response),
      (again call.sends standing).1.result = .ok other → other.isSuccess = true →
      EqvGen Edit response.headers other.headers →
        (call.perform settings again now standing).result = result) ∧
    (∀ status body headers, EqvGen Edit headers (Response.built status body headers).headers) ∧
    ∀ id, result = .ok (.operation id) →
      ∀ (τ : Type) (later : Transport τ) (standing : τ) (start : Nat),
        let request : Request := { method := .get, segments := ["operations", id] }
        let asked := (Call.report id).perform settings later start standing
        (asked.requests = [(start, request)] ∧ asked.transport = (later request standing).2 ∧
          asked.result =
            ((Question.report id).conclude (later request standing).1.result).map .report) ∧
        ∀ cancelAt,
          let waited := (Call.wait id cancelAt).perform settings later start standing
          (∀ fault, settings.validate = .error fault → waited.result = .error fault) ∧
          (settings.validate = .ok () →
            (cancelAt = some 0 ∧ waited.result = .error (.cancelled id) ∧ waited.requests = []) ∨
            (cancelAt ≠ some 0 ∧ ∃ queries, waited.requests = (start, request) :: queries ∧
              ∀ query ∈ queries, query.2 = request)) := by
  intro result
  have known : result = response.operationId.map .operation :=
    result_of_change changes spoken settings transport now state delivered accepted
  refine ⟨?_, ?_, Response.edits_of_built, ?_⟩
  · cases named : response.operationId with
    | error fault =>
      obtain rfl := Response.fault_of_operation_id named
      exact .inl ⟨by rw [known, named]; rfl, Response.operation_id_eq_error_iff.mp named⟩
    | ok id =>
      obtain ⟨value, first, same, filled⟩ := Response.operation_id_iff.mp named
      refine .inr ⟨id, value, by rw [known, named]; rfl, first, same, filled, ?_⟩
      exact Response.tight_of_operation_id named
  · intro τ again standing other brought success edits
    rw [known, Response.operation_id_of_edits edits]
    exact result_of_change changes spoken settings again now standing brought success
  · intro id handed τ later standing start request asked
    obtain ⟨_, named, ⟨⟩⟩ := ok_of_map (known.symm.trans handed)
    have spoken := Response.blank_of_operation_id named
    have report : asked = _ := report_of_named settings later start standing spoken
    refine ⟨by rw [report]; exact ⟨rfl, rfl, rfl⟩, ?_⟩
    intro cancelAt waited
    refine ⟨?_, fun valid => wait_of_named settings later start standing spoken valid cancelAt⟩
    intro fault refused
    simp only [waited, perform, settings.wait_of_refused refused]
    rfl

/-- The name of a deletion is in a header that is written in capitals, with blanks around it and another
name behind it. A wait asks for it as soon as it begins. -/
theorem padded_name_is_awaited :
    let call := Call.delete ⟨"Contoso", "Agent", "1.0"⟩
    let response : Response := {
      status := 202
      headers := [("date", "today"), ("X-MS-REQUEST-ID", " op-1\t"), ("x-ms-request-id", "op-2")] }
    let deliveries : List Delivery := [{ result := .ok response }]
    (call.IsChange ∧ call.blankPart? = none ∧
      (rehearsed call.sends deliveries).1.result = .ok response ∧ response.isSuccess = true) ∧
    (call.perform {} rehearsed 0 deliveries).result = .ok (.operation "op-1") ∧
    ((Call.wait "op-1" none).perform {} rehearsed 0 []).requests.head? =
      some (0, { method := .get, segments := ["operations", "op-1"] }) := by
  intro call response deliveries
  have spoken : call.blankPart? = none := by decide
  have handed : (call.perform {} rehearsed 0 deliveries).result = .ok (.operation "op-1") := by
    decide +kernel
  have changes : call.IsChange := trivial
  refine ⟨⟨changes, spoken, rfl, rfl⟩, handed, ?_⟩
  obtain ⟨_, _, _, awaited⟩ :=
    operations_can_be_awaited changes spoken {} rehearsed 0 deliveries rfl rfl
  rcases ((awaited "op-1" handed _ rehearsed [] 0).2 none).2 rfl with ⟨calledOff, _⟩ |
    ⟨_, queries, sent, _⟩
  · cases calledOff
  · rw [sent]
    rfl

end Call

end ExtensionPublisher
