import ExtensionPublisher.Proofs.Http.First

/-!
# What segments do to an address

Whatever the segments of a request are, they stay in the path of its address: who is asked, the query
and the fragment are those of the service and of the request, and the path has no characters that it
does not get from the service but visible ones of ASCII that divide nothing, `path_is_plain`. A slash, a
question mark or a blank in a segment is written with escapes.

The path, divided at its slashes and read, gives all segments back exactly if none of them is one or two
dots or has a tab or a line break, `segments_are_kept_iff`. What such a segment does to the others does
not matter for this: bytes are missing, wherever they stood.
-/
namespace ExtensionPublisher

open Url (IsKept IsUnmarked Path percentDecode written)

namespace Url

/-- A segment is kept exactly if it is neither one nor two dots, and has no tab and
no line break. These are the texts for which the parser of addresses does something
else than to escape them. -/
theorem is_kept_iff {text : String} :
    IsKept text.toList ↔ text ≠ "." ∧ text ≠ ".." ∧
      '\t' ∉ text.toList ∧ '\n' ∉ text.toList ∧ '\r' ∉ text.toList := by
  have here : text.toList = ['.'] ↔ text = "." := @String.toList_inj text "."
  have back : text.toList = ['.', '.'] ↔ text = ".." := @String.toList_inj text ".."
  constructor
  · intro kept
    have free {c : Char} (skipped : isSkipped c = true) : c ∉ text.toList := by
      intro member
      exact absurd (skipped.symm.trans (kept.none_skipped c member)) (by decide)
    exact ⟨mt here.mpr kept.not_here, mt back.mpr kept.not_back, free rfl, free rfl, free rfl⟩
  · rintro ⟨notHere, notBack, tab, feed, carriage⟩
    refine ⟨mt here.mp notHere, mt back.mp notBack, ?_⟩
    intro c member
    have others : c ≠ '\t' ∧ c ≠ '\n' ∧ c ≠ '\r' :=
      ⟨fun same => tab (same ▸ member), fun same => feed (same ▸ member),
        fun same => carriage (same ▸ member)⟩
    simpa [isSkipped, and_assoc] using others

/-! ## Characters that divide nothing -/

/-- Characters that mean nothing in an address by themselves: the visible ones of ASCII, but for
slashes of both kinds and the marks in front of a query and of a fragment. -/
def isPlain (c : Char) : Bool :=
  0x20 < c.toNat && c.toNat < 0x7F && !(['/', '\\', '?', '#'].contains c)

/-- The escape of a byte is plain: a percent sign and two digits. -/
theorem plain_of_percent_byte {b : UInt8} {c : Char} (member : c ∈ percentByte b) :
    isPlain c = true := by
  have digit : ∀ n < 16, isPlain (upperDigit n) = true := by decide
  have small := b.toNat_lt
  simp only [percentByte, List.mem_cons, List.not_mem_nil, or_false] at member
  rcases member with rfl | rfl | rfl
  · rfl
  · exact digit _ (by omega)
  · exact digit _ (by omega)

/-- A character that is not escaped in a segment is plain. The slashes and marks are
all among those that are escaped. -/
theorem plain_of_not_escaped {c : Char} (kept : isEscapedInSegment c = false) : isPlain c = true := by
  simp only [isEscapedInSegment, isEscapedInPath, isEscapedInFragment, isUnprintable,
    Bool.or_eq_false_iff, decide_eq_false_iff_not, beq_eq_false_iff_ne] at kept
  have code : c.toNat ≠ 0x20 := by
    intro same
    have blank : c = ' ' := Char.toNat_inj.mp same
    simp [blank] at kept
  simp only [isPlain, List.contains_eq_mem, List.mem_cons, List.not_mem_nil, or_false,
    Bool.and_eq_true, decide_eq_true_eq, Bool.not_eq_true', decide_eq_false_iff_not, not_or]
  simp only [kept, not_false_eq_true, and_true]
  omega

/-- A written segment is plain, as each of its characters is escaped or was plain
already. -/
theorem plain_of_written {segment : List Char} {c : Char} (member : c ∈ written segment) :
    isPlain c = true := by
  obtain ⟨given, _, member⟩ := List.mem_flatMap.mp member
  unfold percentCharacter at member
  split at member
  · obtain ⟨b, _, member⟩ := List.mem_flatMap.mp member
    exact plain_of_percent_byte member
  · next kept =>
    obtain rfl := List.mem_singleton.mp member
    exact plain_of_not_escaped (Bool.eq_false_iff.mpr kept)

namespace Path

/-- Every segment behind some additions was there, or is plain. An addition may take
segments away, but puts only plain ones in. -/
theorem mem_push_all {path : Path} {given : List (List Char)} {other : List Char}
    (member : other ∈ path.pushAll given) : other ∈ path ∨ ∀ c ∈ other, isPlain c = true := by
  refine forall_push_all (p := fun other => other ∈ path ∨ ∀ c ∈ other, isPlain c = true)
    (fun other => .inl) (.inr nofun) (fun given => .inr fun c => plain_of_written) given other member

end Path

end Url

namespace Http.Connection

variable {credentials : Credentials} {settings : Settings} {endpoint : Url.Address}
  {connection : Connection}

/-- The address of a request is that of the service, with another path and the query
of the request. Who is asked does not depend on the request. -/
theorem address_of_request (located : settings.address = .ok endpoint)
    (opened : establish credentials settings = .ok connection) (request : Request) :
    connection.address request =
      { endpoint.withPairs request.query with place := .path (connection.address request).path } := by
  have place := (whole_of_settings located).place
  rw [address, base_of_establish located opened]
  simp only [Url.Address.mapPath, place]
  cases request.query <;> rfl

/-- The path of a request has no characters that are not plain, but those of the
path of the service. So no segment can begin a query, a fragment or another segment.
-/
theorem path_is_plain (located : settings.address = .ok endpoint)
    (opened : establish credentials settings = .ok connection) (request : Request) :
    ∀ c ∈ (connection.address request).path.text,
      c ∈ endpoint.path.text ∨ Url.isPlain c = true := by
  have whole := whole_of_settings located
  obtain ⟨first, rest, filled⟩ := List.exists_cons_of_ne_nil whole.filled
  have slash : '/' ∈ endpoint.path.text := by
    rw [filled]
    exact List.mem_cons_self
  intro c member
  obtain ⟨segment, inside, member⟩ := List.mem_flatMap.mp member
  rcases List.mem_cons.mp member with rfl | member
  · exact .inl slash
  · rw [path_of_request located opened, ← Path.without_trailing_eq whole.filled] at inside
    rcases Path.mem_push_all inside with earlier | plain
    · have own : segment ∈ endpoint.path := by
        unfold Path.withoutTrailing at earlier
        split at earlier
        · exact List.dropLast_subset _ earlier
        · exact earlier
      exact .inl (List.mem_flatMap.mpr ⟨segment, own, List.mem_cons_of_mem _ member⟩)
    · exact .inr (plain c member)

/-- The text of an address divides into who is asked, which is the service, the path, the query of the
request and the fragment of the service, whatever the segments of the request are; and its path has no
characters that are not plain, but those of the path of the service. The path, divided at its slashes
and read piece by piece, is the path of the service, the subscription and the segments exactly if none
of these is one or two dots or has a tab or a line break. -/
theorem segments_are_kept_iff (named : Text.blank credentials.subscription = false)
    (located : settings.address = .ok endpoint) (filled : [] ∉ endpoint.path.body)
    (opened : establish credentials settings = .ok connection) (request : Request)
    (spoken : "" ∉ request.segments) :
    let given := credentials.subscription :: request.segments
    let shown := Url.Reference.split (connection.address request).text
    (((Text.parts '/' shown.path).drop 1).map percentDecode = endpoint.site ++ bytesOf given ↔
      ∀ text ∈ given, text ≠ "." ∧ text ≠ ".." ∧
        '\t' ∉ text.toList ∧ '\n' ∉ text.toList ∧ '\r' ∉ text.toList) ∧
    (shown.scheme? = some endpoint.scheme ∧ shown.authority? = some endpoint.authorityText ∧
      shown.query? = (endpoint.withPairs request.query).query ∧
      shown.fragment? = endpoint.fragment) ∧
    ∀ c ∈ shown.path, c ∈ endpoint.path.text ∨ Url.isPlain c = true := by
  intro given shown
  have divided := (whole_of_settings located).divided
  have split : shown = _ := Url.Reference.split_text (is_whole_of_establish opened request)
  have same := address_of_request located opened request
  refine ⟨?_, ⟨?_, ?_, ?_, ?_⟩, ?_⟩
  · have said : [] ∉ given.map String.toList := by
      intro empty
      obtain ⟨text, member, none⟩ := List.mem_map.mp empty
      have nothing : text = "" := String.toList_eq_nil_iff.mp none
      rcases List.mem_cons.mp member with rfl | member
      · simp [Text.blank, none] at named
      · exact spoken (nothing ▸ member)
    have names : ((Text.parts '/' shown.path).drop 1).map percentDecode =
        (connection.address request).path.name := by
      rw [split, Path.name]
    rw [names, path_of_request located opened, bytesOf, ← Function.comp_def, ← List.map_map,
      Url.Address.site, Path.name_push_all_iff (Path.body_divided divided) filled (by simp [given]) said]
    simp only [List.forall_mem_map, Url.is_kept_iff]
  · rw [split, same]
    cases request.query <;> rfl
  · rw [split, same]
    cases request.query <;> rfl
  · rw [split, same]
  · rw [split, same]
    cases request.query <;> rfl
  · rw [split]
    exact path_is_plain located opened request

/-- Segments with marks, blanks and letters beyond ASCII are told apart, and a segment of two dots with
a tab between them is not. -/
theorem marked_segments_are_kept :
    ((Text.parts '/' (Url.Reference.split (bare.address
        { method := .get, segments := ["a/b\\c", "100%", "?#", "ü x"] }).text).path).drop 1).map
          percentDecode = bytesOf ["sub-1", "a/b\\c", "100%", "?#", "ü x"] ∧
      ((Text.parts '/' (Url.Reference.split (bare.address
        { method := .get, segments := ["a", ".\t."] }).text).path).drop 1).map
          percentDecode ≠ bytesOf ["sub-1", "a", ".\t."] := by
  have named : Text.blank (Credentials.bare "sub-1").subscription = false := by decide +kernel
  have located : ({} : Settings).address = .ok { bare.base with place := .path [[]] } := rfl
  have kept := (segments_are_kept_iff named located (by decide) establish_bare
    { method := .get, segments := ["a/b\\c", "100%", "?#", "ü x"] } (by decide)).1
  have lost := (segments_are_kept_iff named located (by decide) establish_bare
    { method := .get, segments := ["a", ".\t."] } (by decide)).1
  exact ⟨kept.mpr (by decide +kernel), mt lost.mp (by decide +kernel)⟩

end Http.Connection

end ExtensionPublisher
