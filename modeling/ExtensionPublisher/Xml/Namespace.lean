import ExtensionPublisher.Xml.Attribute

/-!
# Namespaces

An attribute whose key begins with `xmlns:` gives an abbreviation a meaning in the element it
stands on and in everything inside it. Two abbreviations and two names are reserved to each
other. A scope lists the meanings in force, the innermost first. The attribute `xmlns` alone is
about names without an abbreviation; an attribute with such a name is of no vocabulary.

The only name from another vocabulary that this library knows is `nil`, by which an element
declares that it stands for no value.
-/
namespace ExtensionPublisher.Xml

/-- The meanings of abbreviations, the innermost first, so that a declaration hides
those around it. -/
abbrev Scope := List (List Char × List Char)

/-- The name that the abbreviation `xml` always has. -/
def xmlName : List Char := "http://www.w3.org/XML/1998/namespace".toList

/-- The name that the abbreviation `xmlns` always has. -/
def xmlnsName : List Char := "http://www.w3.org/2000/xmlns/".toList

/-- The name of the vocabulary that has the attribute `nil`. -/
def instanceName : List Char := "http://www.w3.org/2001/XMLSchema-instance".toList

/-- Why a declaration of an abbreviation is refused. Two abbreviations and their
names are reserved. -/
inductive NamespaceFault where
  | xmlRebound (name : List Char)
  | xmlnsRebound (name : List Char)
  | boundToXml (abbreviation : List Char)
  | boundToXmlns (abbreviation : List Char)
  deriving DecidableEq, Repr

/-- The upper-case hexadecimal digits of a byte, without leading zeros. -/
def byteDigits (b : UInt8) : List Char := (Nat.toDigits 16 b.toNat).map Char.toUpper

/-- One byte of a name shown between quotation marks: visible ASCII as itself, a quotation
mark behind a backslash, any other byte by its number. -/
def shownByte (b : UInt8) : List Char :=
  if b = 0x22 then ['\\', '"']
  else if 0x20 ≤ b ∧ b ≤ 0x7E then [Char.ofNat b.toNat]
  else '0' :: 'x' :: byteDigits b

/-- A name between quotation marks, byte by byte, as it is shown in a fault. -/
def shownBytes (name : List Char) : String :=
  String.ofList ('"' :: (name.flatMap String.utf8EncodeChar).flatMap shownByte ++ ['"'])

/-- The fault in words. -/
def NamespaceFault.message : NamespaceFault → String
  | .xmlRebound name => "the namespace prefix 'xml' cannot be bound to '" ++ shownBytes name ++ "'"
  | .xmlnsRebound name =>
    "the namespace prefix 'xmlns' cannot be bound to '" ++ shownBytes name ++ "'"
  | .boundToXml abbreviation =>
    "the namespace prefix '" ++ shownBytes abbreviation ++ "' cannot be bound to '" ++
      String.ofList xmlName ++ "'"
  | .boundToXmlns abbreviation =>
    "the namespace prefix '" ++ shownBytes abbreviation ++ "' cannot be bound to '" ++
      String.ofList xmlnsName ++ "'"

/-- The abbreviation that an attribute declares. Other attributes declare none. -/
def Attribute.declared? (given : Attribute) : Option (List Char) :=
  match given.key with
  | 'x' :: 'm' :: 'l' :: 'n' :: 's' :: ':' :: abbreviation => some abbreviation
  | _ => none

/-- Whether an abbreviation may stand for a name. A reserved abbreviation stands for
its own name only, and no other one for that name. -/
def checkMeaning (abbreviation name : List Char) : Except NamespaceFault Unit :=
  if abbreviation = "xml".toList then
    if name = xmlName then .ok () else .error (.xmlRebound name)
  else if abbreviation = "xmlns".toList then .error (.xmlnsRebound name)
  else if name = xmlName then .error (.boundToXml abbreviation)
  else if name = xmlnsName then .error (.boundToXmlns abbreviation)
  else .ok ()

/-- The meanings that attributes declare. They are read up to the first faulty
attribute; a declaration behind that is never seen. -/
def declarations : List (Except AttributeFault Attribute) → Except NamespaceFault Scope
  | .ok given :: rest =>
    match given.declared? with
    | none => declarations rest
    | some abbreviation => do
      checkMeaning abbreviation given.value
      return (← declarations rest) ++ [(abbreviation, given.value)]
  | _ => .ok []

/-- The scope inside a tag: what the tag declares, in front of what was in force
outside. -/
def Tag.extend (tag : Tag) (scope : Scope) : Except NamespaceFault Scope :=
  return (← declarations (tag.attributeList false)) ++ scope

/-- What an abbreviation stands for. The empty one stands for nothing. -/
def Scope.meaning? (scope : Scope) (abbreviation : List Char) : Option (List Char) :=
  if abbreviation.isEmpty then none else scope.lookup abbreviation

/-- Whether an attribute is `nil` and its value is affirmative. The name in front of
the colon has to stand for the right vocabulary. -/
def Attribute.affirmsNil (scope : Scope) (given : Attribute) : Bool :=
  localName given.key == "nil".toList &&
  ((abbreviation? given.key).bind scope.meaning? == some instanceName) &&
  (given.value == "true".toList || given.value == "1".toList)

/-- Whether an element declares that it stands for no value. One attribute that does
so is enough. -/
def Tag.isNil (scope : Scope) (tag : Tag) : Bool :=
  (tag.attributeList true).any fun
    | .ok given => given.affirmsNil scope
    | .error _ => false

/-- A tag without attributes declares nothing, so the scope inside it is the one
outside. -/
theorem Tag.extend_of_bare {tag : Tag} (bare : tag.attributes = []) (scope : Scope) :
    tag.extend scope = .ok scope := by
  simp [Tag.extend, Tag.attribute_list_of_bare bare, declarations, bind, Except.bind, pure, Except.pure]

end ExtensionPublisher.Xml
