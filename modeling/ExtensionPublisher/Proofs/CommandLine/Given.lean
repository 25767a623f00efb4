import ExtensionPublisher.CommandLine.Arguments
import ExtensionPublisher.Proofs.Result
import Mathlib.Data.List.DropRight
import Mathlib.Data.List.Nodup

/-!
# What is given for flags

A flag is given on the command line with its value behind it or behind an equals sign, or by its
variable in the environment, or it has its usual value. Which of these counts is told here for each flag
on its own, `Counts`: nothing in it mentions other flags, or the order of the arguments.

Reading the arguments keeps the flags that are given, in their order, `read_given`; supplying the rest
from the environment adds the others, `supply_lookup`. So the values that are resolved are those that
count, `resolve_of_said`.
-/
namespace ExtensionPublisher

/-! ## Numbers -/

namespace Text

/-- A decimal digit has its value, which is how far it is behind the first one. -/
theorem digit_value_of_is_digit {c : Char} (digit : c.isDigit = true) :
    digitValue? 10 c = some (c.toNat - '0'.toNat) := by
  have bounds : '0' ≤ c ∧ c ≤ '9' := by
    simpa [Char.isDigit, Char.le_def] using digit
  have small : c.toNat ≤ '9'.toNat := bounds.2
  have zero : '0'.toNat = 48 := rfl
  have nine : '9'.toNat = 57 := rfl
  rw [digitValue?, if_pos bounds, Option.filter_some, if_pos]
  simp only [decide_eq_true_eq]
  omega

/-- More digits do not make a number smaller. So if the whole number is within a
limit, so is what its first digits write. -/
theorem le_of_digit_chars (cs : List Char) (value : Nat) : value ≤ Nat.ofDigitChars 10 cs value := by
  induction cs generalizing value with
  | nil => exact Nat.le_refl _
  | cons c rest inductionHypothesis =>
    rw [Nat.ofDigitChars_cons]
    exact Nat.le_trans (by omega) (inductionHypothesis _)

/-- Digits are read as the number that they write, if it is within the limit. The
reader checks the limit at every digit, where less has been read. -/
theorem read_digits_eq {cs : List Char} (digits : ∀ c ∈ cs, c.isDigit = true) {limit value : Nat}
    (small : Nat.ofDigitChars 10 cs value ≤ limit) :
    readDigits 10 limit value cs = .ok (Nat.ofDigitChars 10 cs value) := by
  induction cs generalizing value with
  | nil => rfl
  | cons c rest inductionHypothesis =>
    rw [Nat.ofDigitChars_cons, Nat.mul_comm] at small ⊢
    have fits := Nat.le_trans (le_of_digit_chars rest _) small
    simp only [readDigits, digit_value_of_is_digit (digits c List.mem_cons_self), if_pos fits]
    exact inductionHypothesis (fun d member => digits d (List.mem_cons_of_mem _ member)) small

end Text

namespace CommandLine

/-- The number that decimal digits write. -/
def number (value : String) : Nat := Nat.ofDigitChars 10 value.toList 0

/-- A value is written in decimal digits, and is a number of at most 64 bits. -/
structure IsNumber (value : String) : Prop where
  some_ : value ≠ ""
  digits : ∀ c ∈ value.toList, c.isDigit = true
  small : number value ≤ greatestSeconds

instance (value : String) : Decidable (IsNumber value) :=
  decidable_of_iff
    (value ≠ "" ∧ value.toList.all Char.isDigit = true ∧ number value ≤ greatestSeconds)
    ⟨fun ⟨some_, digits, small⟩ => ⟨some_, List.all_eq_true.mp digits, small⟩,
      fun ⟨some_, digits, small⟩ => ⟨some_, List.all_eq_true.mpr digits, small⟩⟩

/-- A number is read as seconds, with leading zeros as well. -/
theorem seconds_of_number {value : String} (written : IsNumber value) :
    seconds? value = some (number value) := by
  have filled : value.toList ≠ [] := fun nothing => written.some_ (String.toList_eq_nil_iff.mp nothing)
  have unsigned : ∀ rest, value.toList ≠ '+' :: rest := by
    intro rest same
    have plus := written.digits '+' (by rw [same]; exact List.mem_cons_self)
    exact absurd plus (by decide)
  rw [seconds?, Text.unsignedDecimal?]
  · rw [Text.digits, if_neg (by simpa using filled), Text.read_digits_eq written.digits written.small]
    rfl
  · exact unsigned

/-- What is said for a flag: something, and a number where one is needed. -/
structure Suits (flag : Flag) (value : String) : Prop where
  some_ : value ≠ ""
  number : flag.kind = .seconds → IsNumber value

/-- What suits a flag passes its check, whether it takes a text or a number. -/
theorem check_of_suits {flag : Flag} {value : String} (suits : Suits flag value) :
    flag.check value = .ok () := by
  cases known : flag.kind with
  | anything => simp [Flag.check, known]
  | nonEmpty => simp [Flag.check, known, suits.some_]
  | seconds => simp [Flag.check, known, seconds_of_number (suits.number known)]

/-! ## How a flag is written -/

/-- A flag can be told from its name: the name ends at an equals sign, and is no request for help. -/
structure Flag.IsNamed (flag : Flag) : Prop where
  some_ : flag.name ≠ ""
  other : flag.name ≠ "help"
  free : '=' ∉ flag.name.toList

instance (flag : Flag) : Decidable flag.IsNamed :=
  decidable_of_iff (flag.name ≠ "" ∧ flag.name ≠ "help" ∧ '=' ∉ flag.name.toList)
    ⟨fun ⟨some_, other, free⟩ => ⟨some_, other, free⟩,
      fun ⟨some_, other, free⟩ => ⟨some_, other, free⟩⟩

/-- Flags that can be told from each other. -/
structure AreNamed (flags : List Flag) : Prop where
  named : ∀ flag ∈ flags, flag.IsNamed
  distinct : (flags.map Flag.name).Nodup

instance (flags : List Flag) : Decidable (AreNamed flags) :=
  decidable_of_iff ((∀ flag ∈ flags, flag.IsNamed) ∧ (flags.map Flag.name).Nodup)
    ⟨fun ⟨named, distinct⟩ => ⟨named, distinct⟩, fun ⟨named, distinct⟩ => ⟨named, distinct⟩⟩

/-- A name ends at an equals sign, so one that has none ends where what is behind it
does. -/
theorem name_in_front {name : List Char} (free : '=' ∉ name) (rest : List Char) :
    (name ++ rest).takeWhile (· ≠ '=') = name ++ rest.takeWhile (· ≠ '=') ∧
      (name ++ rest).dropWhile (· ≠ '=') = rest.dropWhile (· ≠ '=') := by
  have other : ∀ c ∈ name, decide (c ≠ '=') = true := by
    intro c member
    rw [decide_eq_true_eq]
    rintro rfl
    exact free member
  exact ⟨List.takeWhile_append_of_pos other, List.dropWhile_append_of_pos other⟩

/-- A name behind two hyphens is a flag without a value. Two hyphens alone would end
the flags. -/
theorem argument_of_name {name : String} (some_ : name ≠ "") (free : '=' ∉ name.toList) :
    Argument.of ("--" ++ name) = .long name none := by
  have filled : name.toList ≠ [] := fun nothing => some_ (String.toList_eq_nil_iff.mp nothing)
  obtain ⟨c, rest, written⟩ := List.exists_cons_of_ne_nil filled
  have whole : ("--" ++ name).toList = '-' :: '-' :: c :: rest := by simp [written]
  obtain ⟨kept, dropped⟩ := name_in_front free []
  rw [List.append_nil, written] at kept dropped
  simp only [Argument.of, whole, kept, dropped]
  simp [← written]

/-- What stands behind the equals sign is the value of the flag, with any further
equals signs in it. -/
theorem argument_of_joined {name : String} (free : '=' ∉ name.toList) (value : String) :
    Argument.of ("--" ++ name ++ "=" ++ value) = .long name (some value) := by
  have whole : ("--" ++ name ++ "=" ++ value).toList =
      '-' :: '-' :: (name.toList ++ '=' :: value.toList) := by simp
  obtain ⟨kept, dropped⟩ := name_in_front free ('=' :: value.toList)
  unfold Argument.of
  rw [whole]
  cases known : name.toList ++ '=' :: value.toList with
  | nil => simp at known
  | cons c rest =>
    rw [known] at kept dropped
    simp only [kept, dropped]
    simp

/-- What does not begin with a hyphen is no flag. -/
theorem argument_of_plain {value : String} (plain : value.toList.head? ≠ some '-') :
    Argument.of value = .plain := by
  unfold Argument.of
  split <;> simp_all

variable {flags : List Flag} {flag : Flag} {values : Values} {reading : Reading}

/-- A flag is found by its name, as no flag in front of it has the same. -/
theorem find_of_mem (named : AreNamed flags) (member : flag ∈ flags) :
    flags.find? (·.name == flag.name) = some flag := by
  have distinct := named.distinct
  clear named
  induction flags with
  | nil => cases member
  | cons first rest inductionHypothesis =>
    rw [List.map_cons, List.nodup_cons] at distinct
    rcases List.mem_cons.mp member with rfl | later
    · exact List.find?_cons_of_pos (beq_self_eq_true _)
    · rw [List.find?_cons_of_neg]
      · exact inductionHypothesis later distinct.2
      · simp only [beq_iff_eq]
        exact fun same => distinct.1 (same ▸ List.mem_map_of_mem later)

/-- An argument that names a flag settles the flag in front of it. A value behind an
equals sign is taken in at once; otherwise the flag waits for the next argument. -/
theorem read_flag (named : AreNamed flags) (member : flag ∈ flags) {argument : String}
    {value? : Option String} (how : Argument.of argument = .long flag.name value?) (rest : List String) :
    readArguments flags reading (argument :: rest) = (do
      let values ← reading.settle
      match value? with
      | none => readArguments flags ⟨values, some (flag, none)⟩ rest
      | some value =>
        let values ← values.give flag value
        readArguments flags ⟨values, none⟩ rest) := by
  have other := (named.named flag member).other
  rw [readArguments.eq_def]
  simp only [how]
  split
  · next same => cases same
  · next same => exact absurd (Argument.long.inj same).1 other
  · next same => exact absurd (Argument.long.inj same).1 other
  · next same =>
    obtain ⟨rfl, rfl⟩ := Argument.long.inj same
    cases value? <;> simp only [find_of_mem named member]
  all_goals next same => cases same

/-- A plain argument behind a flag is its value. It is settled when the next flag,
or the end, is met. -/
theorem read_value {value : String} (plain : value.toList.head? ≠ some '-') (rest : List String) :
    readArguments flags ⟨values, some (flag, none)⟩ (value :: rest) =
      readArguments flags ⟨values, some (flag, some value)⟩ rest := by
  rw [readArguments.eq_def]
  simp only [argument_of_plain plain]

/-! ## Reading the arguments -/

/-- A flag with its value on a command line. -/
structure Given where
  flag : Flag
  value : String
  /-- Whether the value stands behind an equals sign. -/
  joined : Bool

namespace Given

/-- The arguments that give a flag. -/
def arguments (given : Given) : List String :=
  if given.joined then ["--" ++ given.flag.name ++ "=" ++ given.value]
  else ["--" ++ given.flag.name, given.value]

/-- The value of a flag by its name. -/
def pair (given : Given) : String × String := (given.flag.name, given.value)

end Given

/-- A value is taken in if its flag has none yet and it suits. -/
theorem give_eq {value : String} (fresh : values.lookup flag.name = none) (suits : Suits flag value) :
    values.give flag value = .ok (values ++ [(flag.name, value)]) := by
  simp only [Values.give, fresh, check_of_suits suits]
  rfl

/-- A flag that is given adds its value to those that are settled. The reader may
stand behind a value that waits to be settled, so the reading is described by what
it settles to. -/
theorem read_one (named : AreNamed flags) {given : Given} (member : given.flag ∈ flags)
    (plain : given.joined = false → given.value.toList.head? ≠ some '-')
    (suits : Suits given.flag given.value) (settled : reading.settle = .ok values)
    (fresh : values.lookup given.flag.name = none) (rest : List String) :
    ∃ next : Reading, next.settle = .ok (values ++ [given.pair]) ∧
      readArguments flags reading (given.arguments ++ rest) = readArguments flags next rest := by
  obtain ⟨some_, _, free⟩ := named.named _ member
  have taken := give_eq fresh suits
  unfold Given.arguments
  cases joined : given.joined with
  | true =>
    refine ⟨⟨values ++ [given.pair], none⟩, rfl, ?_⟩
    rw [if_pos rfl, List.singleton_append, read_flag named member (argument_of_joined free _), settled]
    simp only [bind, Except.bind, taken]
    rfl
  | false =>
    refine ⟨⟨values, some (given.flag, some given.value)⟩, taken, ?_⟩
    rw [if_neg Bool.false_ne_true, List.cons_append, List.singleton_append,
      read_flag named member (argument_of_name some_ free), settled]
    exact read_value (plain joined) rest

/-- The flags that are given have their values, in the order of the arguments, by
induction on them. Each is given once, so its value is fresh. -/
theorem read_given (named : AreNamed flags) {given : List Given}
    (known : ∀ own ∈ given, own.flag ∈ flags) (once : (given.map (·.flag.name)).Nodup)
    (plain : ∀ own ∈ given, own.joined = false → own.value.toList.head? ≠ some '-')
    (suits : ∀ own ∈ given, Suits own.flag own.value) (settled : reading.settle = .ok values)
    (fresh : ∀ own ∈ given, values.lookup own.flag.name = none) :
    readArguments flags reading (given.flatMap Given.arguments) =
      .ok (values ++ given.map Given.pair) := by
  induction given generalizing reading values with
  | nil => simp [readArguments, settled]
  | cons first rest inductionHypothesis =>
    rw [List.map_cons, List.nodup_cons] at once
    simp only [List.forall_mem_cons] at known plain suits fresh
    obtain ⟨next, later, same⟩ := read_one named known.1 plain.1 suits.1 settled fresh.1
      (rest.flatMap Given.arguments)
    rw [List.flatMap_cons, same, inductionHypothesis known.2 once.2 plain.2 suits.2 later]
    · simp
    · intro own member
      have other : own.flag.name ≠ first.flag.name :=
        fun same => once.1 (List.mem_map.mpr ⟨own, member, same⟩)
      rw [List.lookup_append, fresh.2 own member]
      simp [Given.pair, List.lookup_singleton, beq_false_of_ne other]

/-! ## What the environment supplies -/

/-- The value of a flag in the environment, if the flag has a variable and that is
set. -/
def Flag.supplied? (flag : Flag) (environment : Values) : Option String :=
  flag.environment?.bind fun name => environment.lookup name

/-- A flag that has no value gets the one in the environment, and nothing else is
changed. Only a value that is needed is checked. -/
theorem supply_one {environment : Values} {first : Flag} (rest : List Flag)
    (suits : values.lookup first.name = none →
      ∀ value, first.supplied? environment = some value → Suits first value) :
    ∃ next : Values, supply environment (first :: rest) values = supply environment rest next ∧
      next.lookup first.name = (values.lookup first.name).or (first.supplied? environment) ∧
      ∀ name ≠ first.name, next.lookup name = values.lookup name := by
  cases has : values.lookup first.name with
  | some value =>
    refine ⟨values, ?_, has, fun _ _ => rfl⟩
    rw [supply, has]
  | none =>
    cases set : first.supplied? environment with
    | none =>
      refine ⟨values, ?_, has, fun _ _ => rfl⟩
      rw [Flag.supplied?] at set
      simp only [supply, has, set]
    | some value =>
      have taken := give_eq has (suits has value set)
      refine ⟨values ++ [(first.name, value)], ?_, ?_, ?_⟩
      · rw [Flag.supplied?] at set
        simp only [supply, has, set, taken]
        rfl
      · simp [List.lookup_append, has]
      · intro name other
        simp [List.lookup_append, List.lookup_singleton, beq_false_of_ne other]

/-- Every flag that has no value gets the one in the environment. The induction is
on the flags, and none of the others touches the value of one. -/
theorem supply_lookup {environment : Values} (distinct : (flags.map Flag.name).Nodup)
    (suits : ∀ flag ∈ flags, values.lookup flag.name = none →
      ∀ value, flag.supplied? environment = some value → Suits flag value) :
    ∃ all, supply environment flags values = .ok all ∧
      (∀ flag ∈ flags,
        all.lookup flag.name = (values.lookup flag.name).or (flag.supplied? environment)) ∧
      ∀ name, name ∉ flags.map Flag.name → all.lookup name = values.lookup name := by
  induction flags generalizing values with
  | nil => exact ⟨values, rfl, by simp, fun _ _ => rfl⟩
  | cons first rest inductionHypothesis =>
    rw [List.map_cons, List.nodup_cons] at distinct
    rw [List.forall_mem_cons] at suits
    have other {flag : Flag} (member : flag ∈ rest) : flag.name ≠ first.name :=
      fun same => distinct.1 (same ▸ List.mem_map_of_mem member)
    obtain ⟨next, step, own, others⟩ := supply_one rest suits.1
    have still : ∀ flag ∈ rest, next.lookup flag.name = none →
        ∀ value, flag.supplied? environment = some value → Suits flag value := by
      intro flag member lacking
      rw [others _ (other member)] at lacking
      exact suits.2 flag member lacking
    obtain ⟨all, supplied, later, outside⟩ := inductionHypothesis distinct.2 still
    refine ⟨all, step.trans supplied, ?_, ?_⟩
    · rw [List.forall_mem_cons]
      constructor
      · rw [outside _ distinct.1, own]
      · intro flag member
        rw [later flag member, others _ (other member)]
    · intro name absent
      rw [List.map_cons, List.mem_cons, not_or] at absent
      rw [outside name absent.2, others name absent.1]

/-! ## What counts -/

/-- The value that counts for a flag: the one on the command line, or else the one in the environment,
or else the usual one. -/
inductive Counts (environment : Values) (given : List Given) (flag : Flag) : String → Prop where
  | onCommandLine {own : Given} (member : own ∈ given) (same : own.flag = flag)
      (suits : Suits flag own.value) : Counts environment given flag own.value
  | inEnvironment {name value : String} (absent : ∀ own ∈ given, own.flag ≠ flag)
      (named : flag.environment? = some name) (set : environment.lookup name = some value)
      (suits : Suits flag value) : Counts environment given flag value
  | usual {value : String} (absent : ∀ own ∈ given, own.flag ≠ flag)
      (unset : ∀ name, flag.environment? = some name → environment.lookup name = none)
      (known : flag.usual? = some value) : Counts environment given flag value

/-- Flags are given on a command line, each at most once, and for every flag some value counts. A value
in an argument of its own does not begin with a hyphen. -/
structure IsSaid (flags : List Flag) (environment : Values) (given : List Given)
    (value : Flag → String) : Prop where
  known : ∀ own ∈ given, own.flag ∈ flags
  once : (given.map Given.flag).Nodup
  plain : ∀ own ∈ given, own.joined = false → own.value.toList.head? ≠ some '-'
  counts : ∀ flag ∈ flags, Counts environment given flag (value flag)

section Said

variable {environment : Values} {given : List Given} {value : Flag → String}

/-- Flags of one name are one flag, since both are what is found by the name. -/
theorem AreNamed.unique (named : AreNamed flags) {other : Flag} (member : flag ∈ flags)
    (another : other ∈ flags) (same : flag.name = other.name) : flag = other := by
  have found := find_of_mem named member
  rw [same, find_of_mem named another] at found
  exact (Option.some.inj found).symm

/-- A flag that is not given has no value on the command line. No other flag is
given under its name. -/
theorem lookup_of_absent (named : AreNamed flags) (known : ∀ own ∈ given, own.flag ∈ flags)
    (member : flag ∈ flags) (absent : ∀ own ∈ given, own.flag ≠ flag) :
    (given.map Given.pair).lookup flag.name = none := by
  rw [List.lookup_eq_none_iff]
  intro pair inside
  obtain ⟨own, given, rfl⟩ := List.mem_map.mp inside
  rw [bne_iff_ne]
  exact fun same => absent own given (named.unique (known own given) member same.symm)

/-- A flag that is given has its value on the command line. In front of it no flag
of its name is given. -/
theorem lookup_of_given (named : AreNamed flags) (said : IsSaid flags environment given value)
    {own : Given} (member : own ∈ given) :
    (given.map Given.pair).lookup own.flag.name = some own.value := by
  obtain ⟨front, rest, rfl⟩ := List.append_of_mem member
  have once := said.once
  rw [List.map_append, List.map_cons] at once
  rw [List.lookup_eq_some_iff]
  refine ⟨front.map Given.pair, rest.map Given.pair, by simp [Given.pair], ?_⟩
  intro pair inside
  obtain ⟨other, earlier, rfl⟩ := List.mem_map.mp inside
  rw [bne_iff_ne]
  intro same
  have equal : own.flag = other.flag :=
    named.unique (said.known own member) (said.known other (List.mem_append_left _ earlier)) same
  exact (List.nodup_append.mp once).2.2 _ (List.mem_map_of_mem earlier) _ List.mem_cons_self equal.symm

/-- A value that is given is the one that counts, and suits. Neither the environment
nor what is usual counts for a flag that is given. -/
theorem IsSaid.suits (said : IsSaid flags environment given value) {own : Given}
    (member : own ∈ given) : Suits own.flag own.value := by
  generalize counted : value own.flag = text
  have counts := counted ▸ said.counts own.flag (said.known own member)
  cases counts with
  | @onCommandLine other inside same suits =>
    obtain rfl := List.inj_on_of_nodup_map said.once inside member same
    exact suits
  | inEnvironment absent | usual absent => exact absurd rfl (absent own member)

/-- The value that counts for a flag is on the command line or in the environment, or else there is
neither and it is the usual one. -/
theorem IsSaid.found (said : IsSaid flags environment given value) (named : AreNamed flags)
    (member : flag ∈ flags) :
    let given? := ((given.map Given.pair).lookup flag.name).or (flag.supplied? environment)
    given? = some (value flag) ∨ given? = none ∧ flag.usual? = some (value flag) := by
  generalize counted : value flag = text
  have counts := counted ▸ said.counts flag member
  cases counts with
  | onCommandLine inside same suits =>
    left
    rw [← same, lookup_of_given named said inside, Option.some_or]
  | inEnvironment absent variable_ set suits =>
    left
    rw [lookup_of_absent named said.known member absent, Option.none_or, Flag.supplied?, variable_]
    exact set
  | usual absent unset known =>
    right
    rw [lookup_of_absent named said.known member absent, Option.none_or, Flag.supplied?]
    exact ⟨Option.bind_eq_none_iff.mpr unset, known⟩

/-- What the environment supplies for a flag that is not given suits the flag,
because it is then what counts. -/
theorem IsSaid.supplied_suits (said : IsSaid flags environment given value) (named : AreNamed flags)
    (member : flag ∈ flags) (lacking : (given.map Given.pair).lookup flag.name = none) {text : String}
    (supplied : flag.supplied? environment = some text) : Suits flag text := by
  generalize counted : value flag = counted_
  have counts := counted ▸ said.counts flag member
  cases counts with
  | onCommandLine inside same suits =>
    rw [← same, lookup_of_given named said inside] at lacking
    cases lacking
  | inEnvironment absent variable_ set suits =>
    rw [Flag.supplied?, variable_, Option.bind_some, set] at supplied
    exact Option.some.inj supplied ▸ suits
  | usual absent unset known =>
    obtain ⟨name, variable_, set⟩ := Option.bind_eq_some_iff.mp supplied
    rw [unset name variable_] at set
    cases set

/-- The values that are resolved are those that count. The command line is read, the
environment fills in what is missing, and what is usual is taken where neither says
anything. -/
theorem resolve_of_said (named : AreNamed flags) (said : IsSaid flags environment given value) :
    ∃ values, resolve flags environment (given.flatMap Given.arguments) = .ok values ∧
      ∀ flag ∈ flags, flag.value values = value flag := by
  have once : (given.map (·.flag.name)).Nodup := by
    have names : ((given.map Given.flag).map Flag.name).Nodup := by
      refine said.once.map_on ?_
      intro flag member other another same
      obtain ⟨own, inside, rfl⟩ := List.mem_map.mp member
      obtain ⟨second, along, rfl⟩ := List.mem_map.mp another
      exact named.unique (said.known own inside) (said.known second along) same
    rwa [List.map_map] at names
  have beginning : ({} : Reading).settle = .ok [] := rfl
  have read : readArguments flags {} (given.flatMap Given.arguments) = .ok (given.map Given.pair) :=
    read_given named said.known once said.plain (fun _ => said.suits) beginning fun _ _ => rfl
  have suits : ∀ flag ∈ flags, (given.map Given.pair).lookup flag.name = none →
      ∀ text, flag.supplied? environment = some text → Suits flag text :=
    fun flag member lacking text => said.supplied_suits named member lacking
  obtain ⟨all, supplied, found, _⟩ := supply_lookup named.distinct suits
  have complete : missing flags all = [] := by
    rw [missing, List.filter_eq_nil_iff]
    intro flag member
    rw [found flag member]
    rcases said.found named member with counts | ⟨nothing, usual⟩
    · simp [counts]
    · simp [usual]
  refine ⟨all, ?_, ?_⟩
  · simp only [resolve, bind, Except.bind, read, supplied, complete]
    rfl
  · intro flag member
    rw [Flag.value, found flag member]
    rcases said.found named member with counts | ⟨nothing, usual⟩
    · rw [counts, Option.getD_some]
    · rw [nothing, usual, Option.getD_none, Option.getD_some]

end Said

end CommandLine

end ExtensionPublisher
