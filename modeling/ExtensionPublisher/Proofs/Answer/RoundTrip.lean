import ExtensionPublisher.Answer.Replications
import ExtensionPublisher.Answer.Versions
import ExtensionPublisher.Proofs.Xml.Fields

/-!
# Lists that are read back

How the service writes its lists: one element for each record, in it one for each text, escaped, and
layout anywhere between elements. A flag has many spellings, and what has a default may be left out. The
reader finds exactly the list that was written, whatever choices were made in writing it:
`lists_are_read_back`.

Writing says which characters stand for a list, and reading says which list characters stand for. The
two meet at the children of a record, a list of names and texts: for one half that a record is written
with these children, for the other that they are read as its fields.
-/
namespace ExtensionPublisher

open Text (isBlank isLayout isTight trim trimmed unpadded)
open Xml (childElement enclosed fieldValues Holds IsRecord isBareName Spaced writtenChild)

/-! ## Flags -/

/-- The words for a value of a flag. Nothing at all stands for no. -/
def flagWords : Bool → List (List Char)
  | true => ["true".toList, "1".toList]
  | false => ["false".toList, "0".toList, []]

/-- The spellings of a flag: one of its words, in any case, with blanks around it. -/
inductive SpellsFlag (value : Bool) : List Char → Prop where
  | mk {before word after : List Char} (front : ∀ c ∈ before, isBlank c = true)
      (back : ∀ c ∈ after, isBlank c = true) (known : word.map Char.toLower ∈ flagWords value) :
      SpellsFlag value (before ++ word ++ after)

/-- A blank has no case, as no blank is a capital. So making a spelling lower-case
keeps the blanks around it. -/
theorem to_lower_of_blank {c : Char} (blank : isBlank c = true) : c.toLower = c := by
  have outside : ¬(65 ≤ c.val ∧ c.val ≤ 90) := by
    rintro ⟨low, high⟩
    simp only [isBlank, Bool.or_eq_true, Bool.and_eq_true, decide_eq_true_eq, beq_iff_eq,
      UInt32.le_iff_toNat_le, ← UInt32.toNat_inj, UInt32.reduceToNat] at blank low high
    omega
  exact dif_neg outside

/-- The letters and digits of the words. -/
def flagLetters : List Char := "truefals01".toList

/-- The characters of the words are no blanks, and are written as they are. A
character is compared in its small form, but the capitals of the letters are as
plain. -/
theorem of_mem_word {value : Bool} {word : List Char}
    (known : word.map Char.toLower ∈ flagWords value) {c : Char} (member : c ∈ word) :
    isBlank c = false ∧ Xml.escapeCharacter c = [c] := by
  have words : (flagWords value).all (·.all flagLetters.contains) = true := by
    cases value <;> decide
  have letter : c.toLower ∈ flagLetters := by
    have letters := List.all_eq_true.mp (List.all_eq_true.mp words _ known)
    simpa using letters _ (List.mem_map_of_mem member)
  constructor
  · by_contra blank
    rw [Bool.not_eq_false] at blank
    have visible : flagLetters.all (!isBlank ·) = true := by decide
    rw [to_lower_of_blank blank] at letter
    simpa [blank] using List.all_eq_true.mp visible c letter
  · unfold Xml.escapeCharacter
    repeat' split
    all_goals first
      | rfl
      | (subst c; exact absurd letter (by decide))

/-- A flag is written as it is spelled. Neither blanks nor the letters of the words
need a reference. -/
theorem escape_of_spells_flag {value : Bool} {text : List Char} (spells : SpellsFlag value text) :
    Xml.escape text = text := by
  obtain ⟨front, back, known⟩ := spells
  apply Xml.escape_eq_self
  intro c member
  rcases List.mem_append.mp member with member | member
  · rcases List.mem_append.mp member with member | member
    · exact Xml.escape_character_of_blank (front c member)
    · exact (of_mem_word known member).2
  · exact Xml.escape_character_of_blank (back c member)

/-- A spelling is understood. Trimming leaves the word, and its small form is one
that is known. -/
theorem flag_of_spells_flag {value : Bool} {text : List Char} (spells : SpellsFlag value text) :
    flag? (String.ofList text) = some value := by
  obtain @⟨before, word, after, front, back, known⟩ := spells
  have bared : trim isBlank (before ++ word ++ after) = word := by
    rw [Text.trim_append front back, Text.trim_eq_self_iff, isTight, Bool.and_eq_true]
    constructor
    · cases found : word.head? with
      | none => rfl
      | some c => simp [(of_mem_word known (List.mem_of_head? found)).1]
    · cases found : word.getLast? with
      | none => rfl
      | some c => simp [(of_mem_word known (List.mem_of_getLast? found)).1]
  have said : Text.lowered (trimmed (String.ofList (before ++ word ++ after))) =
      String.ofList (word.map Char.toLower) := by
    rw [Text.lowered, trimmed, String.toList_ofList, String.toList_ofList, bared]
  rw [flag?, said]
  cases value with
  | false =>
    have one : word.map Char.toLower = "false".toList ∨ word.map Char.toLower = "0".toList ∨
        word.map Char.toLower = [] := by simpa [flagWords] using known
    rcases one with same | same | same <;> simp [same]
  | true =>
    have one : word.map Char.toLower = "true".toList ∨ word.map Char.toLower = "1".toList := by
      simpa [flagWords] using known
    rcases one with same | same <;> simp [same]

/-- Layout around a flag makes no difference, because blanks around it are dropped
anyway, and layout is blank. -/
theorem flag_of_unpadded (text : String) : flag? (unpadded text) = flag? text := by
  rw [flag?, flag?, Text.trimmed_unpadded]

/-! ## Published versions -/

namespace PublishedVersion

/-- The element of the flag, in one of its forms: left out or empty for no, or spelled out. -/
inductive WritesFlag : Bool → List (List Char) → Prop where
  | leftOut : WritesFlag false []
  | empty : WritesFlag false ["<ReplicationCompleted/>".toList]
  | spelled {value : Bool} {text : List Char} (spells : SpellsFlag value text) :
      WritesFlag value [enclosed "ReplicationCompleted" text]

/-- The element of the regions, which may be left out where there are none. -/
inductive WritesRegions : String → List (List Char) → Prop where
  | leftOut : WritesRegions "" []
  | written (regions : String) : WritesRegions regions [writtenChild ("Regions", regions)]

/-- The element of a published version, with layout anywhere between its children. -/
inductive Writes (published : PublishedVersion) : List Char → Prop where
  | mk {flag regions : List (List Char)} {text : List Char}
      (flagged : WritesFlag published.replicated flag)
      (offered : WritesRegions published.regions regions)
      (spaced : Spaced ([
        writtenChild ("ProviderNameSpace", published.name.provider),
        writtenChild ("Type", published.name.type),
        writtenChild ("Version", published.name.version)] ++ flag ++ regions) text) :
      Writes published (enclosed "ExtensionImage" text)

/-- The texts of a published version. Its flag is none, as it is not given back as
it was written. -/
def texts (published : PublishedVersion) : List String :=
  [published.name.provider, published.name.type, published.name.version, published.regions]

/-- The fields of a version take every text, but for the flag, which takes what is
understood. -/
theorem field_takes {child : String × String}
    (flagged : child.1 = "ReplicationCompleted" → (flag? child.2).isSome = true) :
    ∀ field ∈ fields, field.name = child.1 → field.Takes child.2 := by
  intro field member named
  simp only [fields, List.mem_cons, List.not_mem_nil, or_false] at member
  rcases member with rfl | rfl | rfl | rfl | rfl
  · exact Xml.takes_of_admitted rfl
  · exact Xml.takes_of_admitted rfl
  · exact Xml.takes_of_admitted rfl
  · refine Xml.takes_of_admitted (if_pos ?_)
    rw [flag_of_unpadded]
    exact flagged named.symm
  · exact Xml.takes_of_admitted rfl

/-- The children that a flag is read from. A flag in an empty tag has a child with
the empty text. -/
inductive ShowsFlag : Bool → List (String × String) → Prop where
  | leftOut : ShowsFlag false []
  | given {value : Bool} {text : String} (known : flag? text = some value) :
      ShowsFlag value [("ReplicationCompleted", text)]

/-- The children that the regions are read from. -/
inductive ShowsRegions : String → List (String × String) → Prop where
  | leftOut : ShowsRegions "" []
  | given (regions : String) : ShowsRegions regions [("Regions", regions)]

/-- However the flag is written, it is read from its children. An empty tag holds
the same as two tags with nothing between them. -/
theorem shows_of_writes_flag {value : Bool} {pieces : List (List Char)}
    (writes : WritesFlag value pieces) :
    ∃ children, ShowsFlag value children ∧ Holds pieces (children.map childElement) := by
  cases writes with
  | leftOut => exact ⟨[], .leftOut, .nil⟩
  | empty =>
    have bare : isBareName "ReplicationCompleted" = true := by decide
    exact ⟨[("ReplicationCompleted", "")], .given (by decide),
      .element (Xml.spells_standalone bare) .nil⟩
  | @spelled value text spells =>
    refine ⟨[("ReplicationCompleted", String.ofList text)], .given (flag_of_spells_flag spells), ?_⟩
    have written : enclosed "ReplicationCompleted" text =
        writtenChild ("ReplicationCompleted", String.ofList text) := by
      rw [writtenChild, String.toList_ofList, escape_of_spells_flag spells]
    have bare : ∀ child ∈ [("ReplicationCompleted", String.ofList text)],
        isBareName child.1 = true := by
      simp only [List.forall_mem_singleton]
      decide
    rw [written]
    exact Xml.holds_children bare

/-- However the regions are written, they are read from their children. -/
theorem shows_of_writes_regions {regions : String} {pieces : List (List Char)}
    (writes : WritesRegions regions pieces) :
    ∃ children, ShowsRegions regions children ∧ Holds pieces (children.map childElement) := by
  cases writes with
  | leftOut => exact ⟨[], .leftOut, .nil⟩
  | written regions =>
    have bare : ∀ child ∈ [("Regions", regions)], isBareName child.1 = true := by
      simp only [List.forall_mem_singleton]
      decide
    exact ⟨_, .given regions, Xml.holds_children bare⟩

/-- The children that a version is named by. None of them may be left out. -/
def nameChildren (name : VersionName) : List (String × String) :=
  [("ProviderNameSpace", name.provider), ("Type", name.type), ("Version", name.version)]

/-- The children of a version that is written. -/
def childrenOf (name : VersionName) (flag regions : List (String × String)) :
    List (String × String) :=
  nameChildren name ++ flag ++ regions

variable {published : PublishedVersion} {flag regions : List (String × String)}

/-- The children of a version have the names of its fields, in their order. Some of
the last two may be left out, so the names are only among these. -/
theorem names_of_children (flagged : ShowsFlag published.replicated flag)
    (offered : ShowsRegions published.regions regions) :
    ((childrenOf published.name flag regions).map (·.1)).Sublist (fields.map (·.name)) := by
  generalize published.replicated = value at flagged
  generalize published.regions = offer at offered
  cases flagged <;> cases offered <;>
    simp only [childrenOf, nameChildren, List.map_cons, List.cons_append, List.nil_append] <;> decide

/-- A child with the name of the flag is understood. -/
theorem flag_of_children {value : Bool} {offer : String} (flagged : ShowsFlag value flag)
    (offered : ShowsRegions offer regions) (name : VersionName) :
    ∀ child ∈ childrenOf name flag regions,
      child.1 = "ReplicationCompleted" → (flag? child.2).isSome = true := by
  cases flagged <;> cases offered <;> simp [childrenOf, nameChildren, *]

/-- The children of a version say what the version is, apart from layout around its
texts. A child that is left out is looked up as nothing, which gives the default. -/
theorem of_field_values (flagged : ShowsFlag published.replicated flag)
    (offered : ShowsRegions published.regions regions) :
    ofFields (fieldValues fields (childrenOf published.name flag regions)) =
      .ok ⟨⟨unpadded published.name.provider, unpadded published.name.type,
        unpadded published.name.version⟩, published.replicated, unpadded published.regions⟩ := by
  generalize published.replicated = value at flagged ⊢
  generalize published.regions = offer at offered ⊢
  have unpadded_nil : unpadded "" = "" := by decide
  cases flagged <;> cases offered <;>
    simp [childrenOf, nameChildren, fieldValues, fields, Xml.Field.text, ofFields, Xml.required,
      List.lookup_cons, flag_of_unpadded, bind, Except.bind, pure, Except.pure, *]

/-- The children that name a version say no more than that: it is not replicated,
and has no regions. -/
theorem of_name_values (name : VersionName) :
    ofFields (fieldValues fields (nameChildren name)) =
      .ok ⟨⟨unpadded name.provider, unpadded name.type, unpadded name.version⟩, false, ""⟩ := by
  have shown := @of_field_values ⟨name, false, ""⟩ [] [] .leftOut .leftOut
  have nothing : unpadded "" = "" := by decide
  rwa [childrenOf, List.append_nil, List.append_nil, nothing] at shown

/-- A version is read from its fields, and made of what they are in a second step.
-/
theorem list_shape_read : listShape.read =
    fun scope tag content => Xml.readRecord fields scope tag content >>= ofFields := rfl

/-- The version without layout around its texts. -/
def unpadded (published : PublishedVersion) : PublishedVersion :=
  ⟨⟨Text.unpadded published.name.provider, Text.unpadded published.name.type,
    Text.unpadded published.name.version⟩, published.replicated, Text.unpadded published.regions⟩

/-- A version that no layout surrounds the texts of is itself without it. -/
theorem unpadded_of_tight (tight : ∀ text ∈ published.texts, isTight isLayout text.toList = true) :
    published.unpadded = published := by
  simp only [texts, List.forall_mem_cons] at tight
  rw [unpadded, Text.unpadded_of_tight tight.1, Text.unpadded_of_tight tight.2.1,
    Text.unpadded_of_tight tight.2.2.1, Text.unpadded_of_tight tight.2.2.2.1]

/-- The names of the fields are bare, and all different. So no field is found under
the name of another. -/
theorem names_of_fields : (∀ field ∈ fields, isBareName field.name = true) ∧
    (fields.map (·.name)).Nodup := by
  have all : ∀ name ∈ fields.map (·.name), isBareName name = true := by decide
  exact ⟨fun field member => all _ (List.mem_map_of_mem member), by decide⟩

/-- However a version is written, it has children that are taken by its fields, and
they say what it is. This is all that the order of the children, and what stands
between them, does not change. -/
theorem children_of_writes {flag regions : List (List Char)}
    (flagged : WritesFlag published.replicated flag)
    (offered : WritesRegions published.regions regions) : ∃ children,
      Holds ((nameChildren published.name).map writtenChild ++ flag ++ regions)
        (children.map childElement) ∧
      (children.map (·.1)).Sublist (fields.map (·.name)) ∧
      (∀ child ∈ children, ∀ field ∈ fields, field.name = child.1 → field.Takes child.2) ∧
      ofFields (fieldValues fields children) = .ok published.unpadded := by
  obtain ⟨flag, showsFlag, holdsFlag⟩ := shows_of_writes_flag flagged
  obtain ⟨regions, showsRegions, holdsRegions⟩ := shows_of_writes_regions offered
  have named : Holds ((nameChildren published.name).map writtenChild)
      ((nameChildren published.name).map childElement) := by
    apply Xml.holds_children
    simp only [nameChildren, List.forall_mem_cons]
    exact ⟨by decide, by decide, by decide, nofun⟩
  have holds := (named.append holdsFlag).append holdsRegions
  rw [← List.map_append, ← List.map_append] at holds
  exact ⟨_, holds, names_of_children showsFlag showsRegions,
    fun child member => field_takes (flag_of_children showsFlag showsRegions _ child member),
    of_field_values showsFlag showsRegions⟩

/-- A version that is written is a record, and is read as itself. Its children are
read in their order, with layout between them. -/
theorem record_of_writes {piece : List Char} (writes : published.Writes piece)
    (tight : ∀ text ∈ published.texts, isTight isLayout text.toList = true) :
    ∃ tag content, Xml.SpellsNode piece (.element tag content) ∧
      IsRecord listShape [] (tag, content) published := by
  obtain ⟨flagged, offered, spaced⟩ := writes
  obtain ⟨children, holds, names, takes, described⟩ := children_of_writes flagged offered
  obtain ⟨bareFields, distinct⟩ := names_of_fields
  rw [unpadded_of_tight tight] at described
  exact Xml.record_of_spaced list_shape_read (Xml.bare_of_names bareFields names) takes
    (names.nodup distinct) described (by decide) spaced holds []

end PublishedVersion

/-! ## Replication states -/

namespace Replication

/-- The children of a replication state. -/
def childrenOf (state : Replication) : List (String × String) :=
  [("Location", state.location), ("Status", state.status)]

/-- The element of a replication state, with layout anywhere between its children. -/
inductive Writes (state : Replication) : List Char → Prop where
  | mk {text : List Char}
      (spaced : Spaced [writtenChild ("Location", state.location), writtenChild ("Status", state.status)]
        text) : Writes state (enclosed "ReplicationStatus" text)

/-- The texts of a replication state. -/
def texts (state : Replication) : List String := [state.location, state.status]

/-- A replication state is read from its fields, and made of what they are in a
second step. -/
theorem list_shape_read : listShape.read =
    fun scope tag content => Xml.readRecord fields scope tag content >>= ofFields := rfl

/-- The replication state without layout around its texts. -/
def unpadded (state : Replication) : Replication :=
  ⟨Text.unpadded state.location, Text.unpadded state.status⟩

/-- A replication state that no layout surrounds the texts of is itself without it. -/
theorem unpadded_of_tight {state : Replication}
    (tight : ∀ text ∈ state.texts, isTight isLayout text.toList = true) : state.unpadded = state := by
  simp only [texts, List.forall_mem_cons] at tight
  rw [unpadded, Text.unpadded_of_tight tight.1, Text.unpadded_of_tight tight.2.1]

/-- The names of the fields are bare, and all different. -/
theorem names_of_fields : (∀ field ∈ fields, isBareName field.name = true) ∧
    (fields.map (·.name)).Nodup := by
  have all : ∀ name ∈ fields.map (·.name), isBareName name = true := by decide
  exact ⟨fun field member => all _ (List.mem_map_of_mem member), by decide⟩

/-- The fields take every text. -/
theorem field_takes (child : String × String) :
    ∀ field ∈ fields, field.name = child.1 → field.Takes child.2 := by
  intro field member _
  simp only [fields, List.mem_cons, List.not_mem_nil, or_false] at member
  rcases member with rfl | rfl
  · exact Xml.takes_of_admitted rfl
  · exact Xml.takes_of_admitted rfl

/-- The children of a replication state say what it is, apart from layout around its
texts. Both are there, so nothing is looked up in vain. -/
theorem of_field_values (state : Replication) :
    ofFields (fieldValues fields state.childrenOf) = .ok state.unpadded := by
  simp [childrenOf, fieldValues, fields, Xml.Field.text, ofFields, Xml.required, List.lookup_cons,
    unpadded, bind, Except.bind, pure, Except.pure]

/-- The children of a replication state have bare names. -/
theorem bare_children (state : Replication) : ∀ child ∈ state.childrenOf, isBareName child.1 = true := by
  simp only [childrenOf, List.forall_mem_cons]
  exact ⟨by decide, by decide, nofun⟩

/-- A replication state that is written is a record, and is read as itself. -/
theorem record_of_writes {state : Replication} {piece : List Char} (writes : state.Writes piece)
    (tight : ∀ text ∈ state.texts, isTight isLayout text.toList = true) :
    ∃ tag content, Xml.SpellsNode piece (.element tag content) ∧
      IsRecord listShape [] (tag, content) state := by
  obtain ⟨spaced⟩ := writes
  have once : (state.childrenOf.map (·.1)).Nodup := names_of_fields.2
  have holds : Holds (state.childrenOf.map writtenChild) (state.childrenOf.map childElement) :=
    Xml.holds_children state.bare_children
  have described := state.of_field_values
  rw [unpadded_of_tight tight] at described
  exact Xml.record_of_spaced list_shape_read state.bare_children (fun child _ => field_takes child) once
    described (by decide) spaced holds []

end Replication

/-! ## Lists -/

/-- The lists of the service are read back. A list of versions, or of replication states, that no
layout surrounds the texts of is found in its document, in order and with nothing lost: whatever
spellings the flags have, whatever is left out that has a default, and whatever layout stands between
elements. -/
theorem lists_are_read_back :
    (∀ {published : List PublishedVersion} {pieces : List (List Char)} {text : List Char},
      (∀ one ∈ published, ∀ text ∈ one.texts, isTight isLayout text.toList = true) →
      List.Forall₂ PublishedVersion.Writes published pieces → Spaced pieces text →
      PublishedVersion.readAll (String.ofList (enclosed "ExtensionImages" text)) = .ok published) ∧
    ∀ {states : List Replication} {pieces : List (List Char)} {text : List Char},
      (∀ one ∈ states, ∀ text ∈ one.texts, isTight isLayout text.toList = true) →
      List.Forall₂ Replication.Writes states pieces → Spaced pieces text →
      Replication.readAll (String.ofList (enclosed "ReplicationStatusList" text)) = .ok states := by
  constructor
  · intro published pieces text tight written spaced
    have each := ((List.forall₂_and_left ..).mpr ⟨tight, written⟩).imp
      fun one piece both => PublishedVersion.record_of_writes both.2 both.1
    obtain ⟨elements, holds, records⟩ := Xml.holds_of_records each
    exact Xml.read_answer_of_spaced (by decide) (by decide) spaced holds records _
  · intro states pieces text tight written spaced
    have each := ((List.forall₂_and_left ..).mpr ⟨tight, written⟩).imp
      fun one piece both => Replication.record_of_writes both.2 both.1
    obtain ⟨elements, holds, records⟩ := Xml.holds_of_records each
    exact Xml.read_answer_of_spaced (by decide) (by decide) spaced holds records _

/-- A version whose flag is in capitals between blanks, and one whose flag is left out, with layout in
front of the second one only; and a state with a location that has to be escaped. -/
theorem mixed_spellings_are_read_back :
    PublishedVersion.readAll (
        "<ExtensionImages><ExtensionImage><ProviderNameSpace>A&amp;B</ProviderNameSpace>" ++
        "<Type>T</Type><Version>2</Version>" ++
        "<ReplicationCompleted>\u00A0TRUE\n</ReplicationCompleted></ExtensionImage>\n" ++
        "<ExtensionImage><ProviderNameSpace>C</ProviderNameSpace><Type>T</Type>" ++
        "<Version>1</Version><Regions>West US</Regions></ExtensionImage></ExtensionImages>") =
      .ok [⟨⟨"A&B", "T", "2"⟩, true, ""⟩, ⟨⟨"C", "T", "1"⟩, false, "West US"⟩] ∧
    Replication.readAll (
        "<ReplicationStatusList><ReplicationStatus><Location>&lt;West&gt;</Location>" ++
        "<Status>Completed</Status></ReplicationStatus></ReplicationStatusList>") =
      .ok [⟨"<West>", "Completed"⟩] := by
  have tight : ∀ one ∈ ([⟨⟨"A&B", "T", "2"⟩, true, ""⟩,
      ⟨⟨"C", "T", "1"⟩, false, "West US"⟩] : List PublishedVersion), ∀ text ∈ one.texts,
      isTight isLayout text.toList = true := by decide
  have tightState : ∀ one ∈ ([⟨"<West>", "Completed"⟩] : List Replication), ∀ text ∈ one.texts,
      isTight isLayout text.toList = true := by decide
  have capitals : SpellsFlag true ("\u00A0".toList ++ "TRUE".toList ++ "\n".toList) :=
    .mk (List.all_eq_true.mp (by decide)) (List.all_eq_true.mp (by decide)) (by decide)
  have nothing : ∀ c ∈ [], isLayout c = true := nofun
  have versions := lists_are_read_back.1 tight
    (.cons (.mk (.spelled capitals) .leftOut (Xml.spaced_flatten _))
      (.cons (.mk .leftOut (.written "West US") (Xml.spaced_flatten _)) .nil))
    (.next nothing (.next Xml.layout_newline (.last nothing)))
  have states := lists_are_read_back.2 tightState (.cons (.mk (Xml.spaced_flatten _)) .nil)
    (Xml.spaced_flatten _)
  constructor
  · rw [← versions]
    refine congrArg _ ?_
    simp only [Xml.of_list_enclosed, String.ofList_append]
    decide +kernel
  · rw [← states]
    refine congrArg _ ?_
    decide +kernel

end ExtensionPublisher
