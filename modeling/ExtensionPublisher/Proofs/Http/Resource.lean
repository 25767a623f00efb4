import ExtensionPublisher.Http.Connection
import ExtensionPublisher.Proofs.Client.Resource
import ExtensionPublisher.Proofs.Url.Division

/-!
# Where requests go

A request is sent to an address below that of the service: the path of the service, the
subscription, and the segments of the resource. What such a path names is compared with what it
should name, piece by piece.

The path is the right one exactly if the subscription and the arguments of the call are texts that a
path keeps, `resource_is_named_iff`: not dots alone, and without tabs and line breaks. A tab is lost
on the way, so that a request can be about a resource that it does not name,
`tab_is_lost_in_deletion`.
-/
namespace ExtensionPublisher

open Text.Utf8 (encode)
open Url (IsKept Path percentDecode)

/-- What the address of a service names by its path. A slash at the end names nothing. -/
def Url.Address.site (endpoint : Url.Address) : List (List UInt8) :=
  endpoint.path.body.map percentDecode

/-- The description of a key for the curve 25519 of which every byte is zero. -/
def Certificate.zeroKey : Certificate.Der.Element where
  tag := Certificate.Der.sequenceTag
  content := [0x30, 0x05, 0x06, 0x03, 0x2B, 0x65, 0x70, 0x03, 0x21, 0x00] ++ List.replicate 32 0

/-- Credentials of a subscription, with a certificate that holds nothing but a key. -/
def Credentials.bare (subscription : String) : Credentials where
  subscription := subscription
  certificate := { encoding := [], version := 3, key := Certificate.zeroKey }
  chain := []
  key := .edwards (List.replicate 32 0)
  belongs := ⟨.edwards (List.replicate 32 0), by decide +kernel, by decide⟩

/-- The bytes of texts. A path is compared by bytes, since undoing its escapes gives
no more than that. -/
def bytesOf (texts : List String) : List (List UInt8) := texts.map fun text => encode text.toList

/-- Texts with the same bytes are the same, because their encoding can be read back.
-/
theorem bytes_of_injective {texts others : List String} (same : bytesOf texts = bytesOf others) :
    texts = others := by
  refine (List.map_inj_right ?_).mp same
  intro text other equal
  exact String.toList_inj.mp (Url.encode_injective equal)

namespace Http.Connection

/-- The address of the subscription is made of that of the service. A slash at its
end is dropped before the subscription is added. -/
theorem base_of_establish {credentials : Credentials} {settings : Settings} {endpoint : Url.Address}
    {connection : Connection} (located : settings.address = .ok endpoint)
    (opened : establish credentials settings = .ok connection) :
    connection.base =
      endpoint.mapPath fun path => path.withoutTrailing.push credentials.subscription.toList := by
  obtain ⟨_, _, opened⟩ := ok_of_bind opened
  obtain ⟨address, known, opened⟩ := ok_of_bind opened
  obtain rfl : endpoint = address := Except.ok.inj (located.symm.trans known)
  dsimp only at opened
  split at opened
  · cases opened
  · split at opened
    · cases opened
    · cases opened
      rfl

/-- The settings of a connection have the address of a service on the web, which is
whole. Any other address is refused before a connection is opened. -/
theorem whole_of_settings {settings : Settings} {endpoint : Url.Address}
    (located : settings.address = .ok endpoint) : endpoint.IsWhole := by
  unfold Settings.address at located
  split at located
  · cases located
  · next address read =>
    split at located
    · next web =>
      obtain rfl := Except.ok.inj located
      exact Url.is_whole_of_parse read web
    · cases located

/-- The path of a request is that of the service with the subscription and the
segments added. The subscription is added when the connection is opened and the
segments for each request, and both go by one rule. -/
theorem path_of_request {credentials : Credentials} {settings : Settings} {endpoint : Url.Address}
    {connection : Connection} (located : settings.address = .ok endpoint)
    (opened : establish credentials settings = .ok connection) (request : Request) :
    (connection.address request).path =
      (Path.ofSegments endpoint.path.body).pushAll
        ((credentials.subscription :: request.segments).map String.toList) := by
  have whole := whole_of_settings located
  have pairs (address : Url.Address) (query : List (String × String)) :
      (address.withPairs query).path = address.path := by
    cases query <;> rfl
  rw [address, pairs, base_of_establish located opened, ← Path.without_trailing_eq whole.filled]
  simp only [Url.Address.mapPath, whole.place]
  rfl

section Calls

variable {credentials : Credentials} {settings : Settings} {endpoint : Url.Address}
  {connection : Connection} {call : Call} {request : Request}

/-- The words of the service are kept. They are fixed, so this is looked at once for
all calls. -/
theorem words_kept : ∀ word ∈ Call.words, IsKept word.toList := by decide +kernel

/-- The path that a request is sent to names its resource exactly if the
subscription and the arguments of the call are kept. The other segments are words of
the service, about which nothing has to be asked. -/
theorem name_of_request_iff (named : Text.blank credentials.subscription = false)
    (located : settings.address = .ok endpoint) (filled : [] ∉ endpoint.path.body)
    (opened : establish credentials settings = .ok connection)
    (made : call.request = .ok request) :
    (connection.address request).path.name =
        endpoint.site ++ bytesOf (credentials.subscription :: request.segments) ↔
      ∀ text ∈ credentials.subscription :: call.arguments, IsKept text.toList := by
  have divided := (whole_of_settings located).divided
  obtain ⟨segments, arguments⟩ := Call.segments_of_request made
  have spoken : [] ∉ (credentials.subscription :: request.segments).map String.toList := by
    have all : ∀ segment ∈ request.segments, segment ≠ "" :=
      segments ▸ (Call.forall_segments_iff (by decide) call).mpr arguments
    intro empty
    obtain ⟨text, member, none⟩ := List.mem_map.mp empty
    have nothing : text = "" := String.toList_eq_nil_iff.mp none
    rcases List.mem_cons.mp member with rfl | member
    · simp [Text.blank, none] at named
    · exact all text member nothing
  rw [path_of_request located opened, bytesOf, ← Function.comp_def, ← List.map_map, Url.Address.site,
    Path.name_push_all_iff (Path.body_divided divided) filled (by simp) spoken]
  simp only [List.forall_mem_map, List.forall_mem_cons, segments,
    Call.forall_segments_iff (p := fun text => IsKept text.toList) words_kept call]

/-- A subscription that is kept is not left, whatever a call is about. A segment
that leads back only empties the one in front of it, and there is always a word of
the service between it and the subscription. -/
theorem name_of_request_behind (named : Text.blank credentials.subscription = false)
    (located : settings.address = .ok endpoint) (filled : [] ∉ endpoint.path.body)
    (opened : establish credentials settings = .ok connection)
    (made : call.request = .ok request) (kept : IsKept credentials.subscription.toList) :
    ∃ behind, (connection.address request).path.name =
      endpoint.site ++ encode credentials.subscription.toList :: behind := by
  have divided := (whole_of_settings located).divided
  obtain ⟨segments, _⟩ := Call.segments_of_request made
  obtain ⟨word, rest, begins, known⟩ := call.segments_eq_cons
  have spoken : credentials.subscription.toList ≠ [] := by
    intro nothing
    simp [Text.blank, nothing] at named
  have wordKept : IsKept word.toList := words_kept word known
  rw [path_of_request located opened, segments, begins]
  exact Path.name_push_all_behind (Path.body_divided divided) filled spoken kept wordKept _

/-- A request of a call is sent to the path that names the resource exactly if the subscription and the
arguments of the call are texts that a path keeps. Then no call with other arguments goes to this
path. Whatever the arguments are, a subscription that a path keeps is not left.

The path is compared piece by piece, escapes undone. -/
theorem resource_is_named_iff (named : Text.blank credentials.subscription = false)
    (located : settings.address = .ok endpoint) (filled : [] ∉ endpoint.path.body)
    (opened : establish credentials settings = .ok connection)
    (made : call.request = .ok request) :
    let subscription := credentials.subscription
    let reached := (connection.address request).path.name
    (reached = endpoint.site ++ bytesOf (subscription :: request.segments) ↔
      ∀ text ∈ subscription :: call.arguments, IsKept text.toList) ∧
    (∀ (other : Call) (asked : Request), other.request = .ok asked →
      (∀ text ∈ subscription :: (call.arguments ++ other.arguments), IsKept text.toList) →
      (connection.address asked).path.name = reached → other.arguments = call.arguments) ∧
    (IsKept subscription.toList →
      ∃ behind, reached = endpoint.site ++ encode subscription.toList :: behind) := by
  intro subscription reached
  refine ⟨name_of_request_iff named located filled opened made, ?_,
    name_of_request_behind named located filled opened made⟩
  intro other asked otherMade kept same
  obtain ⟨keptBase, kept⟩ := List.forall_mem_cons.mp kept
  obtain ⟨own, others⟩ := List.forall_mem_append.mp kept
  -- Both paths are named in full, so the resources are the same.
  have otherNamed := (name_of_request_iff named located filled opened otherMade).mpr
    (List.forall_mem_cons.mpr ⟨keptBase, others⟩)
  have ownNamed := (name_of_request_iff named located filled opened made).mpr
    (List.forall_mem_cons.mpr ⟨keptBase, own⟩)
  have equal := otherNamed.symm.trans (same.trans ownNamed)
  have resources := bytes_of_injective (List.append_cancel_left equal)
  obtain ⟨segments, _⟩ := Call.segments_of_request made
  obtain ⟨otherSegments, _⟩ := Call.segments_of_request otherMade
  apply Call.arguments_of_segments
  rw [← segments, ← otherSegments]
  exact (List.cons.inj resources).2

end Calls

/-- The connection of bare credentials to the usual service. -/
def bare : Connection where
  credentials := .bare "sub-1"
  settings := {}
  base := {
    scheme := "https".toList, host := some (.domain "management.core.windows.net".toList)
    place := .path ["sub-1".toList] }

/-- The connection is opened, as the subscription is not blank and the address is
usable. -/
theorem establish_bare : establish (.bare "sub-1") {} = .ok bare := rfl

/-- Deleting a version reaches the version, whose name is written with an escape. -/
theorem blank_is_kept_in_deletion :
    ∃ request, (Call.delete ⟨"Contoso", "Agent 2", "1.0"⟩).request = .ok request ∧
      (bare.address request).path.text =
        "/sub-1/services/extensions/Contoso/Agent%202/1.0".toList ∧
      (bare.address request).path.name =
        bytesOf ["sub-1", "services", "extensions", "Contoso", "Agent 2", "1.0"] := by
  have named : Text.blank (Credentials.bare "sub-1").subscription = false := by decide +kernel
  have located : ({} : Settings).address = .ok { bare.base with place := .path [[]] } := rfl
  have made : (Call.delete ⟨"Contoso", "Agent 2", "1.0"⟩).request = .ok _ := rfl
  have reached := (resource_is_named_iff named located (by decide) establish_bare made).1
  exact ⟨_, made, by decide +kernel, reached.mpr (by decide +kernel)⟩

/-- A tab in the name of an extension is lost on the way, so that deleting one extension reaches
another one. -/
theorem tab_is_lost_in_deletion :
    ∃ tabbed plain, establish (.bare "sub-1") {} = .ok bare ∧
      (Call.delete ⟨"Contoso", "Agent\t2", "1.0"⟩).request = .ok tabbed ∧
      (Call.delete ⟨"Contoso", "Agent2", "1.0"⟩).request = .ok plain ∧
      (bare.address tabbed).path = (bare.address plain).path ∧
      (bare.address tabbed).path.name ≠ bytesOf ("sub-1" :: tabbed.segments) := by
  exact ⟨_, _, establish_bare, rfl, rfl, by decide, by decide⟩

end Http.Connection

end ExtensionPublisher
