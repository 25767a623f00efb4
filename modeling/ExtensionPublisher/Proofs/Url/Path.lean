import ExtensionPublisher.Proofs.Url.Segment
import ExtensionPublisher.Text.Parts

/-!
# What a path names

A path names the bytes that stand between its slashes, escapes undone. Adding segments that are
kept as they are given adds their bytes to the name, one segment for each. This is exact: if any of
the segments added is not kept, something of it is missing, `name_push_all_iff`. The proof counts
bytes, because what a segment leads to when it is not kept is a path with fewer of them.

Whatever is added, it stays behind what was there with a segment behind it, `push_all_behind`: a
segment of dots takes away at most the segment in front of it and leaves an empty one.
-/
namespace ExtensionPublisher.Url.Path

open Text.Utf8 (encode)

/-- What a path names: the bytes of the parts of its text, behind the slash it
begins with. This is how a server reads the path, so it is defined by the text and
not by the segments. -/
def name (path : Path) : List (List UInt8) := ((Text.parts '/' path.text).drop 1).map percentDecode

/-- Nothing in a segment of a path divides it any further. -/
def IsDivided (path : Path) : Prop := ∀ segment ∈ path, IsUnmarked segment

/-- The segments of a path, apart from an empty last one. -/
def body (path : Path) : List (List Char) :=
  if path.getLast? = some [] then path.dropLast else path

/-- The path of some segments. Where there are none, it still has an empty one. -/
def ofSegments (segments : List (List Char)) : Path := if segments = [] then [[]] else segments

/-- How many bytes the segments of a path stand for. A segment that is not kept
shows in this number, wherever it is. -/
def size (path : Path) : Nat := (path.flatMap percentDecode).length

/-- What is left of a segment when the characters that are skipped are. -/
def unskipped (segment : List Char) : List Char := segment.filter (!isSkipped ·)

/-! ## The text of a path -/

/-- Dividing the text of a path at its slashes gives its segments back, since no
segment has a slash. In front of the first slash there is nothing. -/
theorem parts_text {path : Path} (divided : path.IsDivided) :
    Text.parts '/' path.text = [] :: path := by
  induction path with
  | nil => rfl
  | cons segment rest inductionHypothesis =>
    have free : '/' ∉ segment := divided segment List.mem_cons_self '/' (by decide)
    have behind := inductionHypothesis fun other member =>
      divided other (List.mem_cons_of_mem _ member)
    have begins : text (segment :: rest) = '/' :: (segment ++ text rest) := rfl
    have tail : Text.parts '/' (segment ++ text rest) = segment :: rest := by
      cases rest with
      | nil => simpa [text] using Text.parts_of_free free
      | cons next more =>
        have slash : text (next :: more) = '/' :: (next ++ text more) := rfl
        rw [slash, Text.parts_append_separator free]
        rw [slash, Text.parts, if_pos rfl, List.cons_eq_cons] at behind
        rw [behind.2]
    rw [begins, Text.parts, if_pos rfl, tail]

/-- A path names the bytes of its segments, if nothing in them divides it further.
-/
theorem name_eq {path : Path} (divided : path.IsDivided) : path.name = path.map percentDecode := by
  rw [name, parts_text divided]
  rfl

/-- A path with a segment more is divided if the segment is one. -/
theorem append_divided {path : Path} (divided : path.IsDivided) {added : List Char}
    (unmarked : IsUnmarked added) : IsDivided (path ++ [added]) := by
  intro other member
  rcases List.mem_append.mp member with before | last
  · exact divided other before
  · exact List.mem_singleton.mp last ▸ unmarked

/-- A path without its last segment is divided like all of it. -/
theorem drop_last_divided {path : Path} (divided : path.IsDivided) : IsDivided path.dropLast :=
  fun other member => divided other (List.dropLast_subset path member)

/-- The segments in front of an empty last one are divided like all. -/
theorem body_divided {path : Path} (divided : path.IsDivided) : IsDivided path.body := by
  unfold body
  split
  · exact drop_last_divided divided
  · exact divided

/-- A path of segments is divided where they are. -/
theorem of_segments_divided {segments : List (List Char)} (divided : IsDivided segments) :
    IsDivided (ofSegments segments) := by
  unfold ofSegments
  split
  · intro segment member
    exact List.mem_singleton.mp member ▸ fun _ _ => List.not_mem_nil
  · exact divided

/-! ## Adding a segment -/

/-- A segment that is kept loses nothing, as no character of it is skipped. -/
theorem unskipped_of_kept {segment : List Char} (kept : IsKept segment) :
    unskipped segment = segment := by
  apply List.filter_eq_self.mpr
  intro c member
  simp [kept.none_skipped c member]

/-- What adding a segment does to a path, by what is left of the segment. A segment
of dots is left out, but one that becomes dots when characters are skipped leads
where dots lead. -/
theorem push_eq (path : Path) (segment : List Char) :
    path.push segment =
      if segment = ['.'] ∨ segment = ['.', '.'] then path
      else if unskipped segment = ['.'] then if path = [[]] then path else path ++ [[]]
      else if unskipped segment = ['.', '.'] then if path = [[]] then path else path.dropLast ++ [[]]
      else if path = [[]] then [written (unskipped segment)]
      else path ++ [written (unskipped segment)] := by
  have dots := dots_of_written (unskipped segment)
  unfold push
  simp only [unskipped, written] at dots ⊢
  rw [dots]
  repeat' split
  all_goals simp_all

/-- A path with a segment keeps one, even where dots lead back. -/
theorem push_ne_nil {path : Path} (some_ : path ≠ []) (segment : List Char) :
    path.push segment ≠ [] := by
  rw [push_eq]
  repeat' split
  all_goals simp [some_]

/-- A path with a segment keeps one, whatever is added. -/
theorem push_all_ne_nil {path : Path} (some_ : path ≠ []) (given : List (List Char)) :
    path.pushAll given ≠ [] := by
  induction given generalizing path with
  | nil => exact some_
  | cons segment rest inductionHypothesis => exact inductionHypothesis (push_ne_nil some_ segment)

/-- What holds of the segments of a path, of an empty one and of every written one
holds of all of them when a segment is added. Nothing else is ever put into a path.
-/
theorem forall_push {p : List Char → Prop} {path : Path} (held : ∀ other ∈ path, p other)
    (empty : p []) (new : ∀ given, p (written given)) (segment : List Char) :
    ∀ other ∈ path.push segment, p other := by
  have longer {front : Path} (before : ∀ other ∈ front, p other) {added : List Char}
      (last : p added) : ∀ other ∈ front ++ [added], p other := by
    intro other member
    rcases List.mem_append.mp member with inside | same
    · exact before other inside
    · exact List.mem_singleton.mp same ▸ last
  have shorter : ∀ other ∈ path.dropLast, p other :=
    fun other member => held other (List.dropLast_subset path member)
  rw [push_eq]
  split
  · exact held
  split
  · split
    · exact held
    · exact longer held empty
  split
  · split
    · exact held
    · exact longer shorter empty
  split
  · intro other member
    exact List.mem_singleton.mp member ▸ new _
  · exact longer held (new _)

/-- What holds of the segments of a path, of an empty one and of every written one
holds of all of them when segments are added, by induction on these. -/
theorem forall_push_all {p : List Char → Prop} {path : Path} (held : ∀ other ∈ path, p other)
    (empty : p []) (new : ∀ given, p (written given)) (given : List (List Char)) :
    ∀ other ∈ path.pushAll given, p other := by
  induction given generalizing path with
  | nil => exact held
  | cons segment rest inductionHypothesis =>
    exact inductionHypothesis (forall_push held empty new segment)

/-- A path stays divided, as a written segment has no marks. -/
theorem push_divided {path : Path} (divided : path.IsDivided) (segment : List Char) :
    (path.push segment).IsDivided :=
  forall_push divided (fun _ _ => List.not_mem_nil) written_unmarked segment

/-- A path stays divided, whatever is added. -/
theorem push_all_divided {path : Path} (divided : path.IsDivided) (given : List (List Char)) :
    (path.pushAll given).IsDivided :=
  forall_push_all divided (fun _ _ => List.not_mem_nil) written_unmarked given

/-- A segment that is kept is written behind the segments of a path. The only path
without segments of its own has an empty one, which the first segment replaces. -/
theorem push_of_kept {segments : List (List Char)} (filled : [] ∉ segments) {segment : List Char}
    (kept : IsKept segment) :
    (ofSegments segments).push segment = segments ++ [written segment] := by
  have noDots : ¬(segment = ['.'] ∨ segment = ['.', '.']) :=
    fun dots => dots.elim kept.not_here kept.not_back
  rw [push_eq, unskipped_of_kept kept, if_neg noDots, if_neg kept.not_here, if_neg kept.not_back]
  unfold ofSegments
  by_cases none : segments = []
  · simp [none]
  · have other : segments ≠ [[]] := by
      rintro rfl
      exact filled List.mem_cons_self
    rw [if_neg none, if_neg other]

/-- Segments that are kept are written behind the segments of a path, in their
order. None of them is empty, or the next one would replace it. -/
theorem push_all_of_kept {segments given : List (List Char)} (filled : [] ∉ segments)
    (spoken : [] ∉ given) (kept : ∀ segment ∈ given, IsKept segment) :
    (ofSegments segments).pushAll given = ofSegments (segments ++ given.map written) := by
  induction given generalizing segments with
  | nil => simp [pushAll]
  | cons segment rest inductionHypothesis =>
    simp only [List.mem_cons, not_or] at spoken
    have longer : [] ∉ segments ++ [written segment] := by
      simp [filled, (written_ne_nil (Ne.symm spoken.1)).symm]
    have step : (ofSegments segments).push segment = ofSegments (segments ++ [written segment]) := by
      rw [push_of_kept filled (kept segment List.mem_cons_self), ofSegments, if_neg (by simp)]
    have more := inductionHypothesis longer spoken.2 fun other member =>
      kept other (List.mem_cons_of_mem _ member)
    calc (ofSegments segments).pushAll (segment :: rest)
        = ((ofSegments segments).push segment).pushAll rest := rfl
      _ = ofSegments (segments ++ (segment :: rest).map written) := by
        rw [step, more, List.append_assoc]
        rfl

/-! ## Counting bytes -/

@[simp] theorem size_append (path more : Path) : size (path ++ more) = size path + size more := by
  simp [size]

@[simp] theorem size_written (segment : List Char) :
    size [written segment] = (encode segment).length := by
  simp [size, percent_decode_written]

@[simp] theorem size_empty : size [[]] = 0 := rfl

/-- A path has fewer bytes without its last segment, or as many. -/
theorem size_drop_last_le (path : Path) : size path.dropLast ≤ size path := by
  rcases List.eq_nil_or_concat path with rfl | ⟨front, last, rfl⟩
  · exact Nat.le_refl _
  · rw [List.concat_eq_append, List.dropLast_concat, size_append]
    exact Nat.le_add_right _ _

/-- What is left of a segment has fewer bytes, if anything is skipped, as each
character has at least one. -/
theorem length_encode_unskipped (segment : List Char) :
    (encode (unskipped segment)).length ≤ (encode segment).length ∧
      ((∃ c ∈ segment, isSkipped c = true) →
        (encode (unskipped segment)).length < (encode segment).length) := by
  induction segment with
  | nil => exact ⟨Nat.le_refl _, nofun⟩
  | cons c rest inductionHypothesis =>
    obtain ⟨least, less⟩ := inductionHypothesis
    have shorter := length_encode_cons c rest
    cases skipped : isSkipped c with
    | true =>
      have same : unskipped (c :: rest) = unskipped rest := by simp [unskipped, skipped]
      rw [same]
      exact ⟨by omega, fun _ => by omega⟩
    | false =>
      have same : unskipped (c :: rest) = c :: unskipped rest := by simp [unskipped, skipped]
      simp only [same, encode, List.flatMap_cons, List.length_append] at least less ⊢
      refine ⟨by omega, ?_⟩
      rintro ⟨other, member, gone⟩
      rcases List.mem_cons.mp member with rfl | later
      · exact absurd (skipped.symm.trans gone) (by decide)
      · have := less ⟨other, later, gone⟩
        omega

/-- Adding a segment adds no more bytes than it has, and fewer if it is not kept.
Dots have bytes and add none, and skipped characters are missing. -/
theorem size_push (path : Path) (segment : List Char) :
    size (path.push segment) ≤ size path + (encode segment).length ∧
      (¬IsKept segment → size (path.push segment) < size path + (encode segment).length) := by
  obtain ⟨least, less⟩ := length_encode_unskipped segment
  have dot : (encode ['.']).length = 1 := rfl
  have dots : (encode ['.', '.']).length = 2 := rfl
  have shorter := size_drop_last_le path
  rw [push_eq]
  split
  · next given =>
    have some_ : 0 < (encode segment).length := by
      rcases given with rfl | rfl <;> decide
    exact ⟨by omega, fun _ => by omega⟩
  · next given =>
    split
    · next left =>
      rw [left, dot] at least
      split
      · exact ⟨by omega, fun _ => by omega⟩
      · simp only [size_append, size_empty]
        exact ⟨by omega, fun _ => by omega⟩
    · split
      · next left =>
        rw [left, dots] at least
        split
        · exact ⟨by omega, fun _ => by omega⟩
        · simp only [size_append, size_empty]
          exact ⟨by omega, fun _ => by omega⟩
      · -- The segment is written; what it can lose are the characters that are skipped.
        have lost (loses : ¬IsKept segment) : ∃ c ∈ segment, isSkipped c = true := by
          apply Classical.byContradiction
          intro none
          refine loses ⟨fun one => given (.inl one), fun two => given (.inr two), ?_⟩
          intro c member
          exact Bool.eq_false_iff.mpr fun skipped => none ⟨c, member, skipped⟩
        split
        · rw [size_written]
          exact ⟨by omega, fun loses => by have := less (lost loses); omega⟩
        · rw [size_append, size_written]
          exact ⟨by omega, fun loses => by have := less (lost loses); omega⟩

/-- Adding segments adds no more bytes than they have, and fewer if one of them is
not kept. What one segment loses the others cannot make up for. -/
theorem size_push_all (path : Path) (given : List (List Char)) :
    size (path.pushAll given) ≤ size path + (given.flatMap encode).length ∧
      ((∃ segment ∈ given, ¬IsKept segment) →
        size (path.pushAll given) < size path + (given.flatMap encode).length) := by
  induction given generalizing path with
  | nil => exact ⟨Nat.le_refl _, nofun⟩
  | cons segment rest inductionHypothesis =>
    obtain ⟨least, less⟩ := inductionHypothesis (path.push segment)
    obtain ⟨atMost, fewer⟩ := size_push path segment
    have step : path.pushAll (segment :: rest) = (path.push segment).pushAll rest := rfl
    simp only [step, List.flatMap_cons, List.length_append]
    refine ⟨by omega, ?_⟩
    rintro ⟨other, member, loses⟩
    rcases List.mem_cons.mp member with rfl | later
    · have := fewer loses
      omega
    · have := less ⟨other, later, loses⟩
      omega

/-! ## The name of a path -/

/-- Adding segments that say something adds their bytes to the name of a path, one
segment for each, exactly if every one of them is kept. If one is not, there are
bytes missing in all, so the names cannot be the same. -/
theorem name_push_all_iff {segments given : List (List Char)} (divided : IsDivided segments)
    (filled : [] ∉ segments) (some_ : given ≠ []) (spoken : [] ∉ given) :
    ((ofSegments segments).pushAll given).name =
        segments.map percentDecode ++ given.map encode ↔ ∀ segment ∈ given, IsKept segment := by
  rw [name_eq (push_all_divided (of_segments_divided divided) given)]
  constructor
  · intro same
    -- The bytes of both sides are counted.
    have count : size ((ofSegments segments).pushAll given) =
        size segments + (given.flatMap encode).length := by
      have lengths := congrArg (fun name => name.flatten.length) same
      simpa only [size, List.flatMap_def, List.flatten_append, List.length_append] using lengths
    have first : size (ofSegments segments) = size segments := by
      unfold ofSegments
      split
      · next none => rw [none]; rfl
      · rfl
    intro segment member
    apply Classical.byContradiction
    intro loses
    have fewer := (size_push_all (ofSegments segments) given).2 ⟨segment, member, loses⟩
    omega
  · intro kept
    have longer : segments ++ given.map written ≠ [] := by simp [some_]
    rw [push_all_of_kept filled spoken kept, ofSegments, if_neg longer]
    simp [percent_decode_written]

/-- A segment that is added to a path with more than a part leaves the part where it
is, and something behind it. Dots take one segment at most, and leave an empty one
for it. -/
theorem push_behind {front rest : Path} (some_ : front ≠ []) (more : rest ≠ [])
    (segment : List Char) :
    ∃ behind : Path, behind ≠ [] ∧ (front ++ rest : Path).push segment = front ++ behind := by
  have several : front ++ rest ≠ [[]] := by
    intro one
    have length := congrArg List.length one
    have first := List.length_pos_iff.mpr some_
    have second := List.length_pos_iff.mpr more
    simp only [List.length_append, List.length_cons, List.length_nil] at length
    omega
  have longer (added : List Char) : ∃ behind : Path, behind ≠ [] ∧
      (front ++ rest) ++ [added] = front ++ behind :=
    ⟨rest ++ [added], by simp, List.append_assoc _ _ _⟩
  simp only [push_eq, if_neg several]
  split
  · exact ⟨rest, more, rfl⟩
  split
  · exact longer []
  split
  · rw [List.dropLast_append_of_ne_nil more]
    exact ⟨rest.dropLast ++ [[]], by simp, List.append_assoc _ _ _⟩
  · exact longer _

/-- Whatever is added to a path with more than a part, the part stays where it is.
There is always something behind it for the next segment to work on. -/
theorem push_all_behind {front rest : Path} (some_ : front ≠ []) (more : rest ≠ [])
    (given : List (List Char)) :
    ∃ behind, (front ++ rest : Path).pushAll given = front ++ behind := by
  induction given generalizing rest with
  | nil => exact ⟨rest, rfl⟩
  | cons segment others inductionHypothesis =>
    obtain ⟨behind, left, same⟩ := push_behind some_ more segment
    have step : (front ++ rest : Path).pushAll (segment :: others) =
        ((front ++ rest : Path).push segment).pushAll others := rfl
    rw [step, same]
    exact inductionHypothesis left

/-- Where two segments that are kept are added, the first of them is not left any
more, whatever is added behind them. The second one stands between it and all that
could lead back. -/
theorem name_push_all_behind {segments : List (List Char)} (divided : IsDivided segments)
    (filled : [] ∉ segments) {first second : List Char} (spoken : first ≠ []) (kept : IsKept first)
    (next : IsKept second) (given : List (List Char)) :
    ∃ behind, ((ofSegments segments).pushAll (first :: second :: given)).name =
      segments.map percentDecode ++ encode first :: behind := by
  have longer : [] ∉ segments ++ [written first] := by
    simp [filled, (written_ne_nil spoken).symm]
  have front : ofSegments (segments ++ [written first]) = segments ++ [written first] := by
    rw [ofSegments, if_neg (by simp)]
  have steps : (ofSegments segments).pushAll (first :: second :: given) =
      pushAll ((segments ++ [written first]) ++ [written second]) given := by
    rw [← push_of_kept longer next, front, ← push_of_kept filled kept]
    rfl
  obtain ⟨behind, same⟩ : ∃ behind,
      pushAll ((segments ++ [written first]) ++ [written second]) given =
        (segments ++ [written first]) ++ behind :=
    push_all_behind (by simp) (by simp) given
  refine ⟨behind.map percentDecode, ?_⟩
  rw [name_eq (push_all_divided (of_segments_divided divided) _), steps, same]
  simp [percent_decode_written]

end ExtensionPublisher.Url.Path
