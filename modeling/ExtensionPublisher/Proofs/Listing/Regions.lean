import ExtensionPublisher.Listing
import ExtensionPublisher.Proofs.Text.Trim
import Mathlib.Data.List.Forall2

/-!
# Regions are read back

The regions in a text are what stands between its commas, without the blanks around it. A comma between
two texts keeps their regions apart, `entries_append`, and blanks in front of a text are not seen,
`entries_blanks_append`. Everything about lists of regions follows from these two equations: regions
that are joined with commas, with or without blanks behind them, are read back.

So what a table shows of a version's regions holds all of them, in their order. The cell of the regions
is the last one of its row, and its lines stand one below the other at the right of the table.
-/
namespace ExtensionPublisher

/-! ## Parts and entries -/

/-- What stands between commas, without the blanks around it, and nothing else. -/
def entries (cs : List Char) : List (List Char) :=
  ((Text.parts ',' cs).map (Text.trim Text.isBlank)).filter (· ≠ [])

/-- The regions are the entries. What is said of entries is said without strings, as
lists of characters. -/
theorem regions_of_eq (text : String) : regionsOf text = (entries text.toList).map String.ofList := rfl

/-- A comma keeps entries apart, because it keeps parts apart and each part is
trimmed on its own. -/
theorem entries_append (front behind : List Char) :
    entries (front ++ ',' :: behind) = entries front ++ entries behind := by
  rw [entries, Text.parts_append, List.map_append, List.filter_append]
  rfl

/-- A blank in front of a text is not seen. It belongs to the first part, and is
trimmed there. -/
theorem entries_blank_cons {c : Char} (blank : Text.isBlank c = true) (cs : List Char) :
    entries (c :: cs) = entries cs := by
  have other : c ≠ ',' := by
    rintro rfl
    exact absurd blank (by decide)
  cases known : Text.parts ',' cs with
  | nil => exact absurd known (Text.parts_ne_nil ',' cs)
  | cons first others => simp [entries, Text.parts, other, known, Text.trim, blank]

/-- Blanks in front of a text are not seen, one after another. -/
theorem entries_blanks_append {blanks : List Char} (blank : ∀ c ∈ blanks, Text.isBlank c = true)
    (cs : List Char) : entries (blanks ++ cs) = entries cs := by
  induction blanks with
  | nil => rfl
  | cons c rest inductionHypothesis =>
    rw [List.cons_append, entries_blank_cons (blank c List.mem_cons_self),
      inductionHypothesis fun d member => blank d (List.mem_cons_of_mem _ member)]

/-! ## Regions -/

/-- A region as it stands in a list of regions: it has a name, no comma is in it, and no blank at its
ends. -/
structure IsRegion (region : String) : Prop where
  named : region ≠ ""
  free : ',' ∉ region.toList
  tight : Text.isTight Text.isBlank region.toList = true

/-- What is read as a region is one: parts are without commas, trimming leaves no
blank at the ends, and what is empty is left out. -/
theorem is_region_of_mem {text region : String} (member : region ∈ regionsOf text) :
    IsRegion region := by
  rw [regions_of_eq, List.mem_map] at member
  obtain ⟨entry, inside, rfl⟩ := member
  obtain ⟨trimmed, some_⟩ := List.mem_filter.mp inside
  obtain ⟨part, divided, rfl⟩ := List.mem_map.mp trimmed
  refine ⟨?_, ?_, ?_⟩
  · intro nothing
    rw [← String.toList_inj, String.toList_ofList] at nothing
    simp [nothing] at some_
  · rw [String.toList_ofList]
    exact fun comma => Text.not_mem_of_mem_parts divided (Text.mem_of_mem_trim comma)
  · rw [String.toList_ofList]
    exact Text.tight_trim Text.isBlank part

/-- A region is its own only entry, because it has no comma and nothing to be
trimmed. -/
theorem entries_of_region {region : String} (sound : IsRegion region) :
    entries region.toList = [region.toList] := by
  have some_ : region.toList ≠ [] := fun nothing => sound.named (String.toList_eq_nil_iff.mp nothing)
  rw [entries, Text.parts_of_free sound.free, List.map_singleton, Text.trim_eq_self_iff.mpr sound.tight]
  simpa using some_

/-- Regions that are joined with commas are read back, whatever blanks stand behind
the commas. The first region is in front of a comma, and the blanks behind it are in
front of the others. -/
theorem regions_of_joined (blanks : String) (blank : blanks.toList.all Text.isBlank = true)
    {regions : List String} (sound : ∀ region ∈ regions, IsRegion region) :
    regionsOf (String.intercalate ("," ++ blanks) regions) = regions := by
  induction regions with
  | nil => rfl
  | cons region rest inductionHypothesis =>
    have first := entries_of_region (sound region List.mem_cons_self)
    have behind := inductionHypothesis fun other member => sound other (List.mem_cons_of_mem _ member)
    cases rest with
    | nil =>
      rw [String.intercalate_singleton, regions_of_eq, first, List.map_singleton, String.ofList_toList]
    | cons next more =>
      have divided : (String.intercalate ("," ++ blanks) (region :: next :: more)).toList =
          region.toList ++ ',' ::
            (blanks.toList ++ (String.intercalate ("," ++ blanks) (next :: more)).toList) := by
        rw [String.intercalate_cons_cons]
        simp
      rw [regions_of_eq, divided, entries_append, entries_blanks_append (List.all_eq_true.mp blank),
        first, List.map_append, ← regions_of_eq, behind, List.map_singleton, String.ofList_toList,
        List.singleton_append]

/-- The cell of the regions is read back, if there are any. Otherwise it shows a
mark for nothing, which would be read as a region. -/
theorem regions_of_cell {published : PublishedVersion} (some_ : published.regionList ≠ []) :
    regionsOf published.regionsCell = published.regionList := by
  have cell : published.regionsCell = String.intercalate ", " published.regionList := by
    unfold PublishedVersion.regionsCell
    split
    · next nothing => exact absurd nothing some_
    · rfl
  rw [cell]
  exact regions_of_joined " " (by decide) fun _ member => is_region_of_mem member

/-! ## The table -/

namespace Table

/-- Lines of a table show a cell at their right: each line of the cell stands behind the mark in front
of the last column, with blanks up to the border. -/
def ShowAtRight (lines : List String) (cell : Cell) : Prop :=
  ∀ index (inside : index < cell.length), ∃ front blanks,
    lines[index]? = some (String.ofList
      (front ++ '┆' :: ' ' :: cell[index] ++ List.replicate blanks ' ' ++ ['│']))

/-- The last one of several joined parts stands behind a separator. That is where
the last column of a table is. -/
theorem join_concat {separator : Char} {init : List (List Char)} (some_ : init ≠ [])
    (last : List Char) :
    Text.join separator (init ++ [last]) = Text.join separator init ++ separator :: last := by
  induction init with
  | nil => exact absurd rfl some_
  | cons part rest inductionHypothesis =>
    cases rest with
    | nil => rfl
    | cons next more =>
      have behind := inductionHypothesis (List.cons_ne_nil next more)
      simp only [List.cons_append, Text.join] at behind ⊢
      rw [behind, List.append_assoc, List.cons_append]

/-- A number is not greater than the greatest one, with which a cell is at most as
high as its row. -/
theorem le_greatest {numbers : List Nat} {number : Nat} (member : number ∈ numbers) (least : Nat) :
    number ≤ numbers.foldl max least := by
  have grows (numbers : List Nat) (least : Nat) : least ≤ numbers.foldl max least := by
    induction numbers generalizing least with
    | nil => exact le_rfl
    | cons _ rest inductionHypothesis => exact (le_max_left _ _).trans (inductionHypothesis _)
  induction numbers generalizing least with
  | nil => cases member
  | cons first rest inductionHypothesis =>
    rcases List.mem_cons.mp member with rfl | later
    · exact (le_max_right _ _).trans (grows rest _)
    · exact inductionHypothesis later _

/-- One of the lines of a cell, in a column: the characters of that line and blanks
up to the width. -/
def lineOf (index width : Nat) (cell : Cell) : List Char := padded width (cell.getD index [])

/-- The lines of a row show its last cell at their right. A row has as many lines as
its highest cell, and a line of the row is the cells joined. -/
theorem row_shows_last {widths : List Nat} {init : List Cell} {last : Cell} (some_ : init ≠ [])
    (wide : widths.length = init.length + 1) :
    ShowAtRight ((rowLines widths (init ++ [last])).map String.ofList) last := by
  intro index inside
  rcases List.eq_nil_or_concat widths with rfl | ⟨front, width, rfl⟩
  · cases wide
  · have even : front.length = init.length := by simpa using wide
    have short : index < ((init ++ [last]).map List.length).foldl max 1 :=
      inside.trans_le (le_greatest (by simp) 1)
    have others : List.zipWith (lineOf index) front init ≠ [] := by
      intro nothing
      have none_ := congrArg List.length nothing
      rw [List.length_zipWith, even, min_self] at none_
      exact some_ (List.length_eq_zero_iff.mp none_)
    have joined : Text.join '┆' (List.zipWith (lineOf index) (front.concat width) (init ++ [last])) =
        Text.join '┆' (List.zipWith (lineOf index) front init) ++ '┆' :: padded width last[index] := by
      rw [List.concat_eq_append, List.zipWith_append even, List.zipWith_cons_cons,
        List.zipWith_nil_right, join_concat others]
      simp [lineOf, List.getD_eq_getElem?_getD, inside]
    refine ⟨'│' :: Text.join '┆' (List.zipWith (lineOf index) front init),
      width - Text.width last[index] + 1, ?_⟩
    rw [rowLines, List.getElem?_map, List.getElem?_map, List.getElem?_range short, Option.map_some,
      Option.map_some]
    refine congrArg (fun cs => some (String.ofList ('│' :: cs ++ ['│']))) (joined.trans ?_)
    simp [padded]

/-- The body has the lines of each row one below the other, and a rule between two
rows. There is none behind the last row. -/
theorem body_lines_eq (widths : List Nat) (rows : List (List Cell)) :
    (bodyLines widths rows).map String.ofList = [String.ofList (Rule.row.draw widths)].intercalate
      (rows.map fun row => (rowLines widths row).map String.ofList) := by
  induction rows with
  | nil => rfl
  | cons row rest inductionHypothesis =>
    cases rest with
    | nil => simp [bodyLines]
    | cons next more =>
      rw [bodyLines, List.map_append, List.map_cons, inductionHypothesis]
      · simp [List.intercalate_cons_cons]
      · exact List.cons_ne_nil next more

/-- A table shows its rows in order, and at the right of each the last cell of the
row. Above them is the heading, and below them the border. -/
theorem render_shows_rows {α : Type} (header : List String) (values : List α) (front : α → List String)
    (last : α → String) (some_ : ∀ value, front value ≠ [])
    (full : ∀ value, header.length = (front value).length + 1) :
    ∃ above rule below blocks,
      render header (values.map fun value => front value ++ [last value]) =
        above ++ [rule].intercalate blocks ++ below ∧
      List.Forall₂ (fun value lines => ShowAtRight lines (cell (last value))) values blocks := by
  let rows := values.map fun value => (front value).map cell ++ [cell (last value)]
  let widths := columnWidths header.length (header.map cell :: rows)
  refine ⟨(Rule.top.draw widths :: rowLines widths (header.map cell) ++
      [Rule.header.draw widths]).map String.ofList, String.ofList (Rule.row.draw widths),
    [String.ofList (Rule.bottom.draw widths)],
    rows.map fun row => (rowLines widths row).map String.ofList, ?_, ?_⟩
  · rw [← body_lines_eq]
    simp [render, widths, rows, Function.comp_def]
  · rw [List.map_map, List.forall₂_map_right_iff, List.forall₂_same]
    intro value _
    apply row_shows_last
    · simpa using some_ value
    · simp [widths, columnWidths, full value]

end Table

/-- Regions are read from a text without loss. A comma between two texts keeps their regions apart; what
is read is named, has no comma in it and no blank at its ends; and any list of such regions is read back
from the text that joins them with commas, with or without a blank behind each. So the table of versions
shows, in the last column of the row of each version that has regions, a text from which these are read
back in their order. -/
theorem regions_are_read_back :
    (∀ front behind : String,
      regionsOf (front ++ "," ++ behind) = regionsOf front ++ regionsOf behind) ∧
    (∀ text, ∀ region ∈ regionsOf text, IsRegion region) ∧
    (∀ regions : List String, (∀ region ∈ regions, IsRegion region) →
      regionsOf (String.intercalate "," regions) = regions ∧
      regionsOf (String.intercalate ", " regions) = regions) ∧
    (∀ text, regionsOf (String.intercalate ", " (regionsOf text)) = regionsOf text) ∧
    ∀ versions : List PublishedVersion, ∃ above rule below blocks,
      versionsTable versions = above ++ [rule].intercalate blocks ++ below ∧
      List.Forall₂ (fun published lines =>
        Table.ShowAtRight lines (Table.cell published.regionsCell) ∧
          (published.regionList ≠ [] → regionsOf published.regionsCell = published.regionList))
        versions blocks := by
  refine ⟨?_, fun _ _ => is_region_of_mem, ?_, ?_, ?_⟩
  · intro front behind
    rw [regions_of_eq, regions_of_eq, regions_of_eq, ← List.map_append, ← entries_append]
    simp
  · intro regions sound
    exact ⟨regions_of_joined "" (by decide) sound,
      regions_of_joined " " (by decide) sound⟩
  · intro text
    exact regions_of_joined " " (by decide) fun _ => is_region_of_mem
  · intro versions
    obtain ⟨above, rule, below, blocks, shown, right⟩ := Table.render_shows_rows
      ["Namespace", "Type", "Version", "Replication Completed", "Regions"] versions
      (fun version => [version.name.provider, version.name.type, version.name.version,
        if version.replicated then "true" else "false"])
      PublishedVersion.regionsCell (fun _ => List.cons_ne_nil _ _) fun _ => rfl
    exact ⟨above, rule, below, blocks, shown,
      right.imp fun _ _ visible => ⟨visible, regions_of_cell⟩⟩

/-- Regions with blanks around them and nothing between two commas are joined, shown
and read back. What is shown is tidier than what was given. -/
theorem untidy_regions_are_read_back :
    let published : PublishedVersion :=
      ⟨⟨"Contoso", "Agent", "1.0"⟩, true, " West US,,\u2003North Europe ,"⟩
    let regions := ["West US", "North Europe"]
    published.regionList = regions ∧ (∀ region ∈ regions, IsRegion region) ∧
      regionsOf (String.intercalate "," regions) = regions ∧
      ∃ above lines below, versionsTable [published] = above ++ lines ++ below ∧
        Table.ShowAtRight lines (Table.cell "West US, North Europe") ∧
        regionsOf "West US, North Europe" = regions := by
  intro published regions
  have list : published.regionList = regions := by decide
  have shown : published.regionsCell = "West US, North Europe" := by decide
  obtain ⟨_, sound, joined, _, table⟩ := regions_are_read_back
  have named : ∀ region ∈ regions, IsRegion region := list ▸ sound published.regions
  obtain ⟨above, rule, below, blocks, rendered, rows⟩ := table [published]
  cases rows with
  | cons right nothing =>
    cases nothing
    obtain ⟨visible, same⟩ := right
    rw [shown] at visible same
    refine ⟨list, named, (joined regions named).1, above, _, below, ?_, visible, ?_⟩
    · rw [rendered, List.intercalate_singleton]
    · rw [same (by simp [list, regions]), list]

end ExtensionPublisher
