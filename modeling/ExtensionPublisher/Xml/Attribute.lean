import ExtensionPublisher.Xml.Tag

/-!
# Attributes of a tag

The text behind the name of a tag is read character by character, like the document around
it. Between attributes the reader stands in a gap; then come the key, an equals sign that
blanks may surround, and the value between quotation marks. A fault spoils one attribute
only: reading goes on at the next blank, so what a tag says is a list of attributes and
faults, in order. Positions are bytes from the beginning of the tag's name.
-/
namespace ExtensionPublisher.Xml

open Text (isLayout)

/-- A key and its value, as written. References in the value are not resolved. -/
structure Attribute where
  key : List Char
  value : List Char
  deriving DecidableEq, Repr

/-- Why an attribute cannot be read, and where. Places are counted in bytes from the
beginning of the tag. -/
inductive AttributeFault where
  | missingEquals (position : Nat)
  | missingValue (position : Nat)
  | unquotedValue (position : Nat)
  | unclosedValue (position : Nat) (quote : Char)
  | repeated (position earlier : Nat)
  deriving DecidableEq, Repr

/-- The fault in words. -/
def AttributeFault.message : AttributeFault → String
  | .missingEquals position =>
    "position " ++ toString position ++ ": attribute key must be directly followed by `=` or space"
  | .missingValue position =>
    "position " ++ toString position ++ ": `=` must be followed by an attribute value"
  | .unquotedValue position =>
    "position " ++ toString position ++ ": attribute value must be enclosed in `\"` or `'`"
  | .unclosedValue position quote =>
    "position " ++ toString position ++ ": missing closing quote `" ++ quote.toString ++
      "` in attribute value"
  | .repeated position earlier =>
    "position " ++ toString position ++ ": duplicated attribute, previous declaration at position " ++
      toString earlier

/-- Where the reader of attributes stands. A key is kept with its position, characters newest
first. -/
inductive AttributeState where
  | gap
  | key (position : Nat) (read : List Char)
  /-- Behind a key and some layout. -/
  | keyEnd (position : Nat) (read : List Char)
  /-- Behind the equals sign. -/
  | equals (key : List Char)
  | value (quote : Char) (key : List Char) (read : List Char)
  /-- In what is left of a faulty attribute, up to the next layout character. -/
  | spoiled
  deriving DecidableEq, Repr

/-- What has been read of a tag's attributes: the position, the attribute begun, the keys met
with their positions, and what was found, newest first. -/
structure AttributeScan where
  position : Nat
  state : AttributeState := .gap
  keys : List (List Char × Nat) := []
  found : List (Except AttributeFault Attribute) := []

namespace AttributeScan

/-- The equals sign behind a key. A key met before is a fault when keys have to
differ, and where it was met is told. -/
def meetEquals (scan : AttributeScan) (distinct : Bool) (position : Nat) (read : List Char) :
    AttributeScan :=
  let key := read.reverse
  match if distinct then scan.keys.lookup key else none with
  | some earlier =>
    { scan with state := .spoiled, found := .error (.repeated position earlier) :: scan.found }
  | none => { scan with state := .equals key, keys := scan.keys ++ [(key, position)] }

/-- Read one character. -/
def step (distinct : Bool) (scan : AttributeScan) (c : Char) : AttributeScan :=
  let here := scan.position
  let scan := { scan with position := here + c.utf8Size }
  match scan.state with
  | .gap => if isLayout c then scan else { scan with state := .key here [c] }
  | .key position read =>
    if c = '=' then scan.meetEquals distinct position read
    else if isLayout c then { scan with state := .keyEnd position read }
    else { scan with state := .key position (c :: read) }
  | .keyEnd position read =>
    if isLayout c then scan
    else if c = '=' then scan.meetEquals distinct position read
    else { scan with state := .key here [c], found := .error (.missingEquals here) :: scan.found }
  | .equals key =>
    if isLayout c then scan
    else if c = '"' ∨ c = '\'' then { scan with state := .value c key [] }
    else { scan with state := .spoiled, found := .error (.unquotedValue here) :: scan.found }
  | .value quote key read =>
    if c = quote then { scan with state := .gap, found := .ok ⟨key, read.reverse⟩ :: scan.found }
    else { scan with state := .value quote key (c :: read) }
  | .spoiled => if isLayout c then { scan with state := .gap } else scan

/-- What a tag that ends here says, in order. An attribute that is not finished is a
fault. -/
def finish (scan : AttributeScan) : List (Except AttributeFault Attribute) :=
  let last : List (Except AttributeFault Attribute) :=
    match scan.state with
    | .gap | .spoiled => []
    | .key .. | .keyEnd .. => [.error (.missingEquals scan.position)]
    | .equals _ => [.error (.missingValue scan.position)]
    | .value quote .. => [.error (.unclosedValue scan.position quote)]
  (last ++ scan.found).reverse

end AttributeScan

namespace Tag

/-- The attributes and faults of a tag, in order. With `distinct` a repeated key is
a fault. Reading goes on behind a fault where that can be done. -/
def attributeList (distinct : Bool) (tag : Tag) : List (Except AttributeFault Attribute) :=
  (tag.attributes.foldl (AttributeScan.step distinct) { position := byteCount tag.name }).finish

/-- The first fault of a tag's attributes. Keys have to differ here. -/
def attributeFault? (tag : Tag) : Option AttributeFault :=
  (tag.attributeList true).findSome? fun
    | .error fault => some fault
    | .ok _ => none

/-- A tag that is only a name has no attributes, and so no faulty ones. -/
theorem attribute_list_of_bare {tag : Tag} (bare : tag.attributes = []) (distinct : Bool) :
    tag.attributeList distinct = [] := by
  simp [attributeList, bare, AttributeScan.finish]

end Tag

end ExtensionPublisher.Xml
