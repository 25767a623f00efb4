import ExtensionPublisher.Text.Blank

/-!
# Tags and their names

What stands between the angle brackets of a start tag is a name and, from the first layout
character on, the text of its attributes. A name with a colon is divided at its first colon
into the abbreviation of a namespace and a local name; a name without one is all local.
-/
namespace ExtensionPublisher.Xml

open Text (isLayout)

/-- The number of bytes that characters take in UTF-8. -/
def byteCount (cs : List Char) : Nat := cs.foldr (fun c count => c.utf8Size + count) 0

@[simp] theorem byte_count_cons (c : Char) (cs : List Char) :
    byteCount (c :: cs) = c.utf8Size + byteCount cs := rfl

@[simp] theorem byte_count_append (cs others : List Char) :
    byteCount (cs ++ others) = byteCount cs + byteCount others := by
  induction cs with
  | nil => simp [byteCount]
  | cons c rest inductionHypothesis => simp [inductionHypothesis, Nat.add_assoc]

/-- A start tag: its name, and the uninterpreted text of its attributes. Attributes
are read only where they matter. -/
structure Tag where
  name : List Char
  attributes : List Char
  deriving DecidableEq, Repr

namespace Tag

/-- Divide the content of a start tag after its name, where layout begins. Nothing
is lost by this. -/
def ofContent (content : List Char) : Tag :=
  ⟨content.takeWhile fun c => !isLayout c, content.dropWhile fun c => !isLayout c⟩

/-- The content that a tag was divided from. -/
def content (tag : Tag) : List Char := tag.name ++ tag.attributes

end Tag

/-- The part of a name after its first colon, or all of a name that has none. -/
def localName (name : List Char) : List Char :=
  match name.dropWhile (· != ':') with
  | [] => name
  | _ :: rest => rest

/-- The abbreviation in front of the first colon of a name. -/
def abbreviation? (name : List Char) : Option (List Char) :=
  if name.contains ':' then some (name.takeWhile (· != ':')) else none

/-- A name without a colon is its own local name. -/
theorem local_name_of_not_mem {name : List Char} (plain : ':' ∉ name) : localName name = name := by
  have noneLeft : name.dropWhile (· != ':') = [] := by
    induction name with
    | nil => rfl
    | cons c rest inductionHypothesis =>
      simp only [List.mem_cons, not_or] at plain
      have other : (c != ':') = true := by simpa [bne_iff_ne] using Ne.symm plain.1
      simpa [other] using inductionHypothesis plain.2
  simp [localName, noneLeft]

end ExtensionPublisher.Xml
