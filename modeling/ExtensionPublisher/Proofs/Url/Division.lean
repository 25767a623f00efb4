import ExtensionPublisher.Proofs.Url.Address
import ExtensionPublisher.Url.Reference

/-!
# The parts of an address where it is written

The text of an address of the web is divided into the parts that it was put together from: the
scheme in front of the first colon, the authority behind two slashes, the path from the next slash
on, and the query behind a question mark, `split_text`. This holds because no part has the mark that
ends it. A user is written with escapes, a host has none of the marks, and a port is digits.

So what is asked for at an address is its path and its query, whatever was added to them.
-/
namespace ExtensionPublisher.Url

/-! ## Texts without marks -/

/-- Nothing divides a text put together from two that nothing divides. -/
theorem IsUnmarked.append {front behind : List Char} (first : IsUnmarked front)
    (second : IsUnmarked behind) : IsUnmarked (front ++ behind) := by
  intro mark divides member
  rcases List.mem_append.mp member with before | after
  · exact first mark divides before
  · exact second mark divides after

/-- A character in front makes no difference unless it is a mark. -/
theorem IsUnmarked.cons {c : Char} (other : c ∉ marks) {cs : List Char} (rest : IsUnmarked cs) :
    IsUnmarked (c :: cs) := by
  intro mark divides member
  rcases List.mem_cons.mp member with rfl | after
  · exact other divides
  · exact rest mark divides after

/-- Nothing divides the empty text. -/
theorem unmarked_nil : IsUnmarked [] := fun _ _ => List.not_mem_nil

/-- Nothing divides texts that are joined by something that is no mark. This serves
the colons and the dots of hosts. -/
theorem unmarked_join {separator : Char} (other : separator ∉ marks) {parts : List (List Char)}
    (unmarked : ∀ part ∈ parts, IsUnmarked part) : IsUnmarked (Text.join separator parts) := by
  induction parts with
  | nil => exact unmarked_nil
  | cons part others inductionHypothesis =>
    have first := unmarked part List.mem_cons_self
    cases others with
    | nil => exact first
    | cons next more =>
      have behind := inductionHypothesis fun part member =>
        unmarked part (List.mem_cons_of_mem _ member)
      exact first.append (.cons other behind)

/-- Digits are no marks, up to base sixteen. -/
theorem unmarked_digits {base : Nat} (least : 1 < base) (most : base ≤ 16) (n : Nat) :
    IsUnmarked (Nat.toDigits base n) := by
  have digit : ∀ d < 16, Nat.digitChar d ∉ marks := by decide
  induction n using Nat.strongRecOn with
  | ind n inductionHypothesis =>
    rw [Nat.toDigits_eq_if least]
    split
    · next small => exact .cons (digit n (by omega)) unmarked_nil
    · next large =>
      have last := Nat.mod_lt n (by omega : 0 < base)
      have fewer : n / base < n := Nat.div_lt_self (by omega) least
      exact (inductionHypothesis _ fewer).append (.cons (digit _ (by omega)) unmarked_nil)

/-! ## Users and hosts -/

/-- Nothing divides what is written of a user. All marks in the name and the
password are escaped. -/
theorem unmarked_user {address : Address} {text : List Char} (read : address.user = readUser text) :
    IsUnmarked address.userText := by
  have escaped : ∀ mark ∈ marks, isEscapedInUser mark = true := forall_marks rfl rfl rfl
  have name : IsUnmarked address.user.1 := read ▸ percent_encode_unmarked escaped _
  have password : IsUnmarked address.user.2 := read ▸ percent_encode_unmarked escaped _
  have atSign : IsUnmarked ['@'] := .cons (by decide) unmarked_nil
  unfold Address.userText
  split
  · exact unmarked_nil
  · next same => exact IsUnmarked.append (by simpa [same] using name) atSign
  · next same =>
    refine IsUnmarked.append (IsUnmarked.append ?_ (.cons (by decide) ?_)) atSign
    · simpa [same] using name
    · simpa [same] using password

/-- A domain has no marks, since they are forbidden in it. -/
theorem unmarked_domain {cs name : List Char} (read : asciiDomain? cs = some name) :
    IsUnmarked name := by
  have forbidden : ∀ mark ∈ marks, isForbiddenInDomain mark = true := forall_marks rfl rfl rfl
  unfold asciiDomain? at read
  simp only [Option.bind_eq_bind, Option.bind_eq_some_iff, Option.ite_none_left_eq_some,
    Option.some.injEq] at read
  obtain ⟨_, _, labels, _, free, rfl⟩ := read
  intro mark divides member
  exact free (List.any_eq_true.mpr ⟨mark, member, forbidden mark divides⟩)

/-- Nothing divides what is written of a host: it is a domain, or it is made of
digits, dots and colons. -/
theorem unmarked_host {cs : List Char} {host : Host} (read : Host.read cs = .ok host) :
    IsUnmarked host.text := by
  have groups (groups : List Nat) : IsUnmarked (Host.groupText groups) := by
    refine unmarked_join (by decide) ?_
    intro part member
    obtain ⟨group, _, rfl⟩ := List.mem_map.mp member
    exact unmarked_digits (by decide) (by decide) group
  have closing : IsUnmarked [']'] := .cons (by decide) unmarked_nil
  cases host with
  | domain name =>
    unfold Host.read at read
    split at read
    · repeat' split at read
      all_goals cases read
    · split at read
      · cases read
      · cases read
      · next known =>
        split at read
        · obtain ⟨_, _, other⟩ := ok_of_map read
          cases other
        · cases read
          obtain ⟨_, _, domain⟩ := Option.bind_eq_some_iff.mp known
          exact unmarked_domain domain
  | ipv4 address =>
    refine unmarked_join (by decide) ?_
    intro part member
    obtain ⟨place, _, rfl⟩ := List.mem_map.mp member
    exact unmarked_digits (by decide) (by decide) _
  | ipv6 all =>
    have opening (all : List Nat) : IsUnmarked ('[' :: Host.groupText all) :=
      .cons (by decide) (groups all)
    have gap : IsUnmarked [':', ':'] := .cons (by decide) (.cons (by decide) unmarked_nil)
    rw [Host.text.eq_3]
    split
    · exact (opening _).append closing
    · exact (((opening _).append gap).append (groups _)).append closing

/-! ## Whole addresses -/

/-- An address of the web that can be told from its text. Every part is free of what
would end it too early. -/
structure Address.IsWhole (address : Address) : Prop where
  web : address.IsWeb
  hosted : address.host.isSome
  user : IsUnmarked address.userText
  server : IsUnmarked address.withoutUser.authorityText
  place : address.place = .path address.path
  filled : address.path ≠ []
  divided : address.path.IsDivided
  query : ∀ query ∈ address.query, '#' ∉ query

/-- Addresses of the web that are read are whole, as each part was escaped or
checked when it was read. -/
theorem is_whole_of_parse {cs : List Char} {address : Address} (read : parse cs = .ok address)
    (web : address.IsWeb) : address.IsWhole := by
  have made := is_read_of_parse read web
  obtain ⟨place, filled, divided⟩ := made.path
  obtain ⟨user, userRead⟩ := made.user
  obtain ⟨text, host, hostRead, known⟩ := made.host
  have server : IsUnmarked address.withoutUser.authorityText := by
    simp only [Address.authorityText, Address.withoutUser, known, Address.userText, List.nil_append]
    refine (unmarked_host hostRead).append ?_
    cases address.port with
    | none => exact unmarked_nil
    | some port => exact .cons (by decide) (unmarked_digits (by decide) (by decide) port)
  exact ⟨web, by rw [known]; rfl, unmarked_user userRead, server, place, filled, divided, made.query⟩

/-- Nothing divides a part of a query. All but letters, digits and a few harmless
signs are escaped. -/
theorem form_encode_unmarked (cs : List Char) : IsUnmarked (formEncode cs) := by
  intro mark divides member
  obtain ⟨c, _, member⟩ := List.mem_flatMap.mp member
  split at member
  · next plain =>
    obtain rfl := List.mem_singleton.mp member
    have escaped : ∀ mark ∈ marks, ¬ (mark.isAlphanum || mark == '*' || mark == '-' || mark == '.' ||
        mark == '_') = true := forall_marks (by decide) (by decide) (by decide)
    exact escaped _ divides plain
  · split at member
    · obtain rfl := List.mem_singleton.mp member
      exact absurd divides (by decide)
    · obtain ⟨b, _, member⟩ := List.mem_flatMap.mp member
      exact percent_byte_unmarked b mark divides member

namespace Address.IsWhole

variable {address : Address}

/-- Changing the path of an address keeps it whole if there is still one, and it is
divided. -/
theorem map_path (whole : address.IsWhole) (change : Path → Path)
    (filled : change address.path ≠ []) (divided : (change address.path).IsDivided) :
    (address.mapPath change).IsWhole := by
  have changed : address.mapPath change = { address with place := .path (change address.path) } := by
    rw [Address.mapPath, whole.place]
  rw [changed]
  exact ⟨whole.web, whole.hosted, whole.user, whole.server, rfl, filled, divided, whole.query⟩

/-- More pairs in its query keep an address whole. What is added to the query is
escaped. -/
theorem with_pairs (whole : address.IsWhole) (pairs : List (String × String)) :
    (address.withPairs pairs).IsWhole := by
  cases pairs with
  | nil => exact whole
  | cons pair more =>
    have added : '#' ∉ Text.join '&' ((pair :: more).map fun pair =>
        formEncode pair.1.toList ++ '=' :: formEncode pair.2.toList) := by
      refine unmarked_join (by decide) ?_ '#' (by decide)
      intro part member
      obtain ⟨pair, _, rfl⟩ := List.mem_map.mp member
      exact (form_encode_unmarked _).append (.cons (by decide) (form_encode_unmarked _))
    refine ⟨whole.web, whole.hosted, whole.user, whole.server, whole.place, whole.filled,
      whole.divided, ?_⟩
    intro query given
    obtain rfl := Option.some.inj given
    cases known : address.query with
    | none => exact added
    | some before =>
      have free := whole.query before known
      cases before with
      | nil => exact added
      | cons c rest => simp_all

/-- An address is whole without its user. -/
theorem without_user (whole : address.IsWhole) : address.withoutUser.IsWhole :=
  ⟨whole.web, whole.hosted, unmarked_nil, whole.server, whole.place, whole.filled, whole.divided,
    whole.query⟩

/-- The authority is the user and the server, and nothing divides these. -/
theorem authority (whole : address.IsWhole) : IsUnmarked address.authorityText := by
  obtain ⟨host, known⟩ := Option.isSome_iff_exists.mp whole.hosted
  have parts : address.authorityText = address.userText ++ address.withoutUser.authorityText := by
    simp [Address.authorityText, Address.withoutUser, known, Address.userText]
  rw [parts]
  exact whole.user.append whole.server

end Address.IsWhole

/-! ## Dividing the text -/

namespace Reference

/-- A text is divided at the first separator. What is behind it may hold others. -/
theorem divide_append {separator : Char} {front : List Char} (free : separator ∉ front)
    (behind : Option (List Char)) :
    divide separator (front ++ (behind.map (separator :: ·)).getD []) = (front, behind) := by
  have all : ∀ c ∈ front, (fun c => decide (c ≠ separator)) c = true := by
    intro c member
    exact decide_eq_true fun same => free (same ▸ member)
  unfold divide
  rw [List.dropWhile_append_of_pos all, List.takeWhile_append_of_pos all]
  cases behind with
  | none => simp
  | some behind => simp

/-- The text of a divided path has no marks but its slashes, which are put in front
of its segments. -/
theorem mark_not_mem_path {path : Path} (divided : path.IsDivided) {mark : Char}
    (divides : mark ∈ marks) (other : mark ≠ '/') : mark ∉ path.text := by
  intro member
  obtain ⟨segment, inside, member⟩ := List.mem_flatMap.mp member
  rcases List.mem_cons.mp member with same | member
  · exact other same
  · exact divided segment inside mark divides member

/-- A scheme of the web is read in front of its colon. There are two of them, and
both are looked at. -/
theorem scheme_of_web {address : Address} (web : address.IsWeb) (behind : List Char) :
    isScheme address.scheme = true ∧ (∀ mark ∈ marks, mark ∉ address.scheme) ∧
      ((address.scheme ++ ':' :: behind).takeWhile fun c => c ≠ ':' && c ≠ '/') = address.scheme := by
  rcases web with http | https
  · rw [http]
    exact ⟨by decide, forall_marks (by decide) (by decide) (by decide), rfl⟩
  · rw [https]
    exact ⟨by decide, forall_marks (by decide) (by decide) (by decide), rfl⟩

/-- An authority ends where the path begins, with the first slash. -/
theorem authority_of_append {authority : List Char} (free : '/' ∉ authority) (path : List Char) :
    (authority ++ '/' :: path).takeWhile (· ≠ '/') = authority ∧
      (authority ++ '/' :: path).dropWhile (· ≠ '/') = '/' :: path := by
  have all : ∀ c ∈ authority, (fun c => decide (c ≠ '/')) c = true := by
    intro c member
    exact decide_eq_true fun same => free (same ▸ member)
  rw [List.takeWhile_append_of_pos all, List.dropWhile_append_of_pos all]
  simp

/-- The text of a whole address is divided into its parts. Each step of the division
takes one part off, and the parts behind it are free of what it looks for. -/
theorem split_text {address : Address} (whole : address.IsWhole) :
    split address.text =
      { scheme? := some address.scheme, authority? := some address.authorityText,
        path := address.path.text, query? := address.query, fragment? := address.fragment } := by
  obtain ⟨host, hosted⟩ := Option.isSome_iff_exists.mp whole.hosted
  obtain ⟨first, rest, filled⟩ := List.exists_cons_of_ne_nil whole.filled
  have slash : address.path.text = '/' :: (first ++ Path.text rest) := by
    rw [filled]
    rfl
  generalize text :
    address.scheme ++ ':' :: '/' :: '/' :: (address.authorityText ++ address.path.text) = front
  obtain ⟨isScheme, schemeFree, head⟩ :=
    scheme_of_web whole.web ('/' :: '/' :: (address.authorityText ++ address.path.text))
  rw [text] at head
  -- Neither a query nor a fragment begins in front of the path's end.
  have frontFree (mark : Char) (divides : mark ∈ marks) (other : mark ≠ '/') : mark ∉ front := by
    have colon : mark ≠ ':' := by
      rintro rfl
      exact absurd divides (by decide)
    simp [← text, schemeFree mark divides, other, colon, whole.authority mark divides,
      mark_not_mem_path whole.divided divides other]
  have noFragment : '#' ∉ front ++ (address.query.map ('?' :: ·)).getD [] := by
    cases known : address.query with
    | none => simpa using frontFree '#' (by decide) (by decide)
    | some query => simp [frontFree '#' (by decide) (by decide), whole.query query known]
  have parts : address.text = (front ++ (address.query.map ('?' :: ·)).getD []) ++
      (address.fragment.map ('#' :: ·)).getD [] := by
    simp [Address.text, Address.target, hosted, whole.place, ← text]
  have behind : front.drop address.scheme.length =
      ':' :: '/' :: '/' :: (address.authorityText ++ address.path.text) := by
    rw [← text, List.drop_left]
  obtain ⟨authority, path⟩ :=
    authority_of_append (whole.authority '/' (by decide)) (first ++ Path.text rest)
  unfold split
  rw [parts, divide_append noFragment]
  simp only [divide_append (frontFree '?' (by decide) (by decide)), head, isScheme, behind,
    ← List.drop_drop, List.head?_cons, beq_self_eq_true, Bool.and_self, if_true, List.drop_succ_cons,
    List.drop_zero, slash, authority, path]

/-- What is asked for at a whole address is its path and its query, whether it is
the address or its text that is asked. -/
theorem target_of_text {address : Address} (whole : address.IsWhole) :
    (split address.text).target = address.target := by
  obtain ⟨first, rest, filled⟩ := List.exists_cons_of_ne_nil whole.filled
  rw [split_text whole, target, Address.target, whole.place]
  simp [filled, Path.text]

end Reference

end ExtensionPublisher.Url
