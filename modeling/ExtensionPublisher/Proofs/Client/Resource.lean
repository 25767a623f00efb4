import ExtensionPublisher.Client.Call
import ExtensionPublisher.Proofs.Result

/-!
# The resource of a call

Every call is about one resource, named by fixed segments and by what the call is given: the parts
of a version's name, or the name of an operation. A request that is made names exactly this
resource, `segments_of_request`, and no part of it is empty, because each part has been checked.

Different arguments are different resources, `arguments_of_segments`, across all kinds of calls.
-/
namespace ExtensionPublisher

/-- A part of a request that is admitted is not empty, since an empty text holds
nothing but blanks. -/
theorem Question.spoken_of_require {part value : String} {admitted : Unit}
    (required : Question.require part value = .ok admitted) : value ≠ "" := by
  rintro rfl
  simp [require, Text.blank] at required

/-- No part of a name that is admitted is empty, as each has been checked on its
own. -/
theorem Question.spoken_of_require_name {name : VersionName} {admitted : Unit}
    (required : Question.requireName name = .ok admitted) :
    name.provider ≠ "" ∧ name.type ≠ "" ∧ name.version ≠ "" := by
  obtain ⟨_, provider, required⟩ := ok_of_bind required
  obtain ⟨_, type, version⟩ := ok_of_bind required
  exact ⟨spoken_of_require provider, spoken_of_require type, spoken_of_require version⟩

namespace Call

/-- The request of a call, if what it is made of is usable. A wait makes it for each query. -/
def request : Call → Except Fault Request
  | .versions => Question.versions.request
  | .replications name => (Question.replications name).request
  | .update manifest => (Question.update manifest).request
  | .delete name => (Question.delete name).request
  | .report operation | .wait operation _ => (Question.report operation).request

/-- What a call is about. -/
def arguments : Call → List String
  | .versions | .update _ => []
  | .replications name | .delete name => [name.provider, name.type, name.version]
  | .report operation | .wait operation _ => [operation]

/-- The resource of a call. -/
def segments : Call → List String
  | .versions => ["services", "publisherextensions"]
  | .replications name =>
    ["services", "extensions", name.provider, name.type, name.version, "replicationstatus"]
  | .update _ => ["services", "extensions"]
  | .delete name => ["services", "extensions", name.provider, name.type, name.version]
  | .report operation | .wait operation _ => ["operations", operation]

/-- A request that is made is about the resource of the call, and each argument says
something. Arguments are segments as they are. -/
theorem segments_of_request {call : Call} {request : Request} (made : call.request = .ok request) :
    request.segments = call.segments ∧ ∀ argument ∈ call.arguments, argument ≠ "" := by
  cases call with
  | versions =>
    cases made
    exact ⟨rfl, nofun⟩
  | update manifest =>
    obtain ⟨body, _, made⟩ := ok_of_bind made
    cases made
    exact ⟨rfl, nofun⟩
  | replications name | delete name =>
    obtain ⟨_, required, made⟩ := ok_of_bind made
    cases made
    obtain ⟨provider, type, version⟩ := Question.spoken_of_require_name required
    exact ⟨rfl, by simp [arguments, provider, type, version]⟩
  | report operation | wait operation =>
    obtain ⟨_, required, made⟩ := ok_of_bind made
    cases made
    exact ⟨rfl, by simp [arguments, Question.spoken_of_require required]⟩

/-- The words of the service in resources. None of them is ever an argument of a
call that means it. -/
def words : List String :=
  ["services", "extensions", "publisherextensions", "replicationstatus", "operations"]

/-- Besides its arguments a resource has only words of the service. These are fixed
texts, so what holds of them can be checked once. -/
theorem mem_segments {call : Call} {segment : String} (member : segment ∈ call.segments) :
    segment ∈ call.arguments ∨ segment ∈ words := by
  cases call <;> simp only [segments, arguments, words, List.mem_cons, List.not_mem_nil, or_false] at *
  all_goals grind

/-- The arguments of a call are in its resource, so a resource that is kept on the
way keeps them. -/
theorem arguments_subset (call : Call) : call.arguments ⊆ call.segments := by
  cases call <;> simp [segments, arguments]

/-- A resource begins with a word of the service, and is never empty. -/
theorem segments_eq_cons (call : Call) : ∃ word rest, call.segments = word :: rest ∧ word ∈ words := by
  cases call <;> exact ⟨_, _, rfl, by decide⟩

/-- A property of all words of the service holds throughout a resource if it holds
of the arguments. Only these vary from call to call. -/
theorem forall_segments_iff {p : String → Prop} (ofWords : ∀ word ∈ words, p word) (call : Call) :
    (∀ segment ∈ call.segments, p segment) ↔ ∀ argument ∈ call.arguments, p argument := by
  constructor
  · intro all argument member
    exact all argument (call.arguments_subset member)
  · intro all segment member
    exact (mem_segments member).elim (all segment) (ofWords segment)

/-- Calls about one resource have the same arguments. Calls of different kinds may
share a resource, but then they are given the same. -/
theorem arguments_of_segments {call other : Call} (same : other.segments = call.segments) :
    other.arguments = call.arguments := by
  cases call <;> cases other <;> simp_all [segments, arguments]

end Call

end ExtensionPublisher
