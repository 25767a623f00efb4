import ExtensionPublisher.Proofs.Result
import ExtensionPublisher.Proofs.Url.Path
import ExtensionPublisher.Url.Parse

/-!
# Paths of addresses that are read

An address of the web that has been read has a path, of at least one segment and none with a mark,
`Address.IsRead.path`. So what the path names can be told from its segments.
-/
namespace ExtensionPublisher.Url

namespace Path

/-- Reading one more segment keeps a path divided. Dots take segments away or add an
empty one, and any other segment is added as it is. -/
theorem enter_divided {path : Path} (divided : path.IsDivided) (isLast : Bool) {segment : List Char}
    (unmarked : IsUnmarked segment) : (path.enter isLast segment).IsDivided := by
  have closed {path : Path} (divided : path.IsDivided) :
      IsDivided (if isLast = true then path ++ [[]] else path) := by
    split
    · exact append_divided divided fun _ _ => List.not_mem_nil
    · exact divided
  cases known : dotsOf segment with
  | here => simpa only [enter, known] using closed divided
  | back => simpa only [enter, known] using closed (drop_last_divided divided)
  | none => simpa only [enter, known] using append_divided divided unmarked

/-- Behind the last segment there is a path. Dots at the end leave an empty segment.
-/
theorem enter_last_ne_nil (path : Path) (segment : List Char) : path.enter true segment ≠ [] := by
  cases known : dotsOf segment <;> simp [enter, known]

/-- Segments without marks are resolved to a path without them, which has a segment.
The induction is on the segments, of which the last one sees to it that there is
one. -/
theorem resolve_divided {path : Path} (divided : path.IsDivided) {segments : List (List Char)}
    (unmarked : ∀ segment ∈ segments, IsUnmarked segment) (some_ : segments ≠ []) :
    (path.resolve segments).IsDivided ∧ path.resolve segments ≠ [] := by
  induction segments generalizing path with
  | nil => exact absurd rfl some_
  | cons segment rest inductionHypothesis =>
    have first := unmarked segment List.mem_cons_self
    cases rest with
    | nil => exact ⟨enter_divided divided true first, enter_last_ne_nil path segment⟩
    | cons next more =>
      exact inductionHypothesis (enter_divided divided false first)
        (fun other member => unmarked other (List.mem_cons_of_mem _ member)) (by simp)

/-- A path that is read is divided, and has a segment. It was divided at its
slashes, and other marks are escaped in it. -/
theorem read_divided (special : Bool) (cs : List Char) :
    (read special cs).IsDivided ∧ read special cs ≠ [] := by
  refine resolve_divided (fun _ member => absurd member List.not_mem_nil) ?_ ?_
  · intro segment member
    obtain ⟨part, inside, rfl⟩ := List.mem_map.mp member
    intro mark divides
    apply mark_not_mem_percent_encode divides
    -- The text is divided at its slashes; the other marks are escaped.
    by_cases slash : mark = '/'
    · exact .inr (slash ▸ Text.not_mem_of_mem_parts inside)
    · have escaped : ∀ mark ∈ marks, mark ≠ '/' → isEscapedInPath mark = true :=
        forall_marks (absurd rfl) (fun _ => rfl) (fun _ => rfl)
      exact .inl (escaped mark divides slash)
  · simp [Text.parts_ne_nil]

/-- The path without an empty last segment is that of the segments in front of it. A
path is never left without any segment. -/
theorem without_trailing_eq {path : Path} (some_ : path ≠ []) :
    path.withoutTrailing = ofSegments path.body := by
  obtain ⟨front, last, rfl⟩ := (List.eq_nil_or_concat path).resolve_left some_
  have final : (front ++ [last]).getLast? = some last := by simp
  unfold withoutTrailing ofSegments body
  rw [List.concat_eq_append, final, List.dropLast_concat]
  by_cases empty : last = []
  · subst empty
    cases front <;> simp
  · simp [empty]

end Path

/-- The parts of an address of the web, each as it is made of some text. Which text
that is does not matter for what the parts cannot hold. -/
structure Address.IsRead (address : Address) : Prop where
  user : ∃ text, address.user = readUser text
  host : ∃ text host, Host.read text = .ok host ∧ address.host = some host
  place : ∃ text, address.place = .path (Path.read true text)
  query : ∀ query ∈ address.query, '#' ∉ query

/-- What is read behind the scheme of an address, which is kept. For a scheme of the
web there is a host and a path. -/
theorem of_read_authority {scheme cs : List Char} {special : Bool} {address : Address}
    (read : readAuthority scheme special cs = .ok address) :
    address.scheme = scheme ∧ (special = true → address.IsRead) := by
  have unmarked (text : Option (List Char)) :
      ∀ query ∈ text.map (percentEncode fun c => isEscapedInQuery c && (true || c != '\'')),
        '#' ∉ query := by
    intro query given
    obtain ⟨_, _, rfl⟩ := Option.map_eq_some_iff.mp given
    exact mark_not_mem_percent_encode (by decide) (.inl (by decide))
  unfold readAuthority at read
  simp only [bind, Except.bind, pure, Except.pure, throw, throwThe, MonadExceptOf.throw] at read
  -- Whatever the host and the port are, the address is built in one place.
  repeat' split at read
  all_goals first
    | (cases read; done)
    | cases read
      refine ⟨rfl, ?_⟩
      rintro rfl
      first
        | exact ⟨⟨_, rfl⟩, ⟨_, _, ‹Host.read _ = .ok _›, rfl⟩, ⟨_, rfl⟩, unmarked _⟩
        | simp_all

/-- An address of a file has the scheme of files. -/
theorem scheme_of_read_file {scheme cs : List Char} {address : Address}
    (read : readFile scheme cs = .ok address) : address.scheme = scheme := by
  unfold readFile at read
  dsimp only at read
  repeat' split at read
  all_goals
    obtain ⟨host, _, read⟩ := ok_of_bind read
    cases read
    rfl

/-- The schemes of the web that the service can be asked in. -/
def Address.IsWeb (address : Address) : Prop :=
  address.scheme = "http".toList ∨ address.scheme = "https".toList

/-- An address of the web is read behind its scheme. An address of an unknown kind or of a file has
another scheme. -/
theorem is_read_of_parse {cs : List Char} {address : Address} (read : parse cs = .ok address)
    (web : address.IsWeb) : address.IsRead := by
  have usual : (usualPort? address.scheme).isSome = true ∧ address.scheme ≠ "file".toList := by
    rcases web with http | https
    · rw [http]; exact ⟨rfl, by decide⟩
    · rw [https]; exact ⟨rfl, by decide⟩
  unfold parse at read
  dsimp only at read
  split at read
  · cases read
  · split at read
    · next file => exact absurd ((scheme_of_read_file read).trans file) usual.2
    · split at read
      · exact (of_read_authority read).2 rfl
      · next unusual =>
        unfold readUnknown at read
        split at read
        · exact absurd ((of_read_authority read).1 ▸ usual.1) unusual
        · cases read
          exact absurd usual.1 unusual

/-- An address of the web has a path, of at least one segment and divided. -/
theorem Address.IsRead.path {address : Address} (read : address.IsRead) :
    address.place = .path address.path ∧ address.path ≠ [] ∧ address.path.IsDivided := by
  obtain ⟨text, place⟩ := read.place
  obtain ⟨divided, some_⟩ := Path.read_divided true text
  rw [Address.path, place]
  exact ⟨rfl, some_, divided⟩

end ExtensionPublisher.Url
