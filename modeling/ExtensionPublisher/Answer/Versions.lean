import ExtensionPublisher.Answer.Fault
import ExtensionPublisher.Text.Case
import ExtensionPublisher.Version

/-!
# The list of published versions

The root is a list of records. A record names its version by three texts; the state of its
replication is a flag that may be left out, and the regions are a text that may be left out.
The records are returned in the order of the document.
-/
namespace ExtensionPublisher

/-- The value of a flag. Case and outer blanks do not matter, and nothing means no. -/
def flag? (text : String) : Option Bool :=
  let word := Text.lowered (Text.trimmed text)
  if word = "" ∨ word = "0" ∨ word = "false" then some false
  else if word = "1" ∨ word = "true" then some true
  else none

namespace PublishedVersion

/-- The fields of a listed version. A flag that is not understood is refused when it
is read. -/
def fields : List (Xml.Field String) := [
  .text "ProviderNameSpace",
  .text "Type",
  .text "Version",
  .text "ReplicationCompleted" fun text =>
    if (flag? text).isSome then .ok () else .error (.invalidFlag (Text.trimmed text)),
  .text "Regions"]

/-- The version that fields describe. Its name may not be missing; without a flag it
is not replicated, and without regions it has none. -/
def ofFields (found : List (String × String)) : Except Xml.RecordFault PublishedVersion := do
  let provider ← Xml.required found "ProviderNameSpace"
  let type ← Xml.required found "Type"
  let version ← Xml.required found "Version"
  let replicated := ((found.lookup "ReplicationCompleted").bind flag?).getD false
  return ⟨⟨provider, type, version⟩, replicated, (found.lookup "Regions").getD ""⟩

/-- The shape of the list. -/
def listShape : Xml.ListShape PublishedVersion where
  name := "ExtensionImage"
  kind := "ExtensionVersionInfo"
  read scope tag content := do ofFields (← Xml.readRecord fields scope tag content)

/-- Read the list of published versions, in the order in which they stand. -/
def readAll (text : String) : Except AnswerFault (List PublishedVersion) :=
  readAnswer "ExtensionImages" "ExtensionImages" (Xml.readList listShape) text

end PublishedVersion

end ExtensionPublisher
