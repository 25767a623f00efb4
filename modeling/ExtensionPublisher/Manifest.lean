import ExtensionPublisher.Text.Blank
import ExtensionPublisher.Version
import ExtensionPublisher.Xml.Reference

/-!
# Manifests

A manifest is a document that describes one version of an extension. Its fields stand in a
fixed order, one on a line, under a heading that is always the same. Values are escaped, so
no value can change which fields there are.

A manifest for publishing has a placeholder where the address of the package belongs; it is
filled in by hand, and a manifest that still has it must not be submitted.
-/
namespace ExtensionPublisher.Manifest

/-- What a manifest for publishing describes. The texts are those of the command
line, and may be anything. -/
structure Details where
  name : VersionName
  label : String
  description : String
  eulaUrl : String
  privacyUrl : String
  homepageUrl : String
  company : String
  supportedOs : String
  deriving DecidableEq, Repr

/-- A line of a manifest below its heading: an element that holds a text, or a
comment. -/
inductive Entry where
  | field (name value : String)
  | comment (content : String)
  deriving DecidableEq, Repr

/-- An entry as it is written, two blanks in front. The value of a field is escaped;
its name and a comment are not, as they are fixed. -/
def Entry.text : Entry → List Char
  | .field name value =>
    "  <".toList ++ name.toList ++ '>' :: Xml.escape value.toList ++ "</".toList ++ name.toList ++ ['>']
  | .comment content => "  <!--".toList ++ content.toList ++ "-->".toList

/-- What stands where the address of the package belongs. Whoever publishes a
version has to put the address there by hand. -/
def packagePlaceholder : String := "%BLOB_URL%"

/-- What stands in front of the entries: the declaration, and the start tag of the
root. -/
def heading : String :=
  "<?xml version=\"1.0\" encoding=\"utf-8\" ?>\n" ++
  "<ExtensionImage xmlns=\"http://schemas.microsoft.com/windowsazure\"  " ++
  "xmlns:i=\"http://www.w3.org/2001/XMLSchema-instance\">\n"

/-- A manifest with entries, up to its last bracket. -/
def document (entries : List Entry) : List Char :=
  heading.toList ++ entries.flatMap (fun entry => entry.text ++ ['\n']) ++ "</ExtensionImage>".toList

/-- The entries that every manifest begins with: the warning about their order, and
the name of the version. -/
def opening (name : VersionName) : List Entry := [
  .comment " WARNING: Ordering of fields matter in this file. ",
  .field "ProviderNameSpace" name.provider,
  .field "Type" name.type,
  .field "Version" name.version]

/-- The entries of a manifest for publishing, in the order that the service asks
for. -/
def publishEntries (details : Details) : List Entry := opening details.name ++ [
  .field "Label" details.label,
  .field "HostingResources" "VmRole",
  .field "MediaLink" packagePlaceholder,
  .field "Description" details.description,
  .field "IsInternalExtension" "true",
  .field "Eula" details.eulaUrl,
  .field "PrivacyUri" details.privacyUrl,
  .field "HomepageUri" details.homepageUrl,
  .field "IsJsonExtension" "true",
  .field "CompanyName" details.company,
  .field "SupportedOS" details.supportedOs,
  .comment "%REGIONS%"]

/-- The entries of a manifest for unpublishing. They name the version, and say
nothing of what was published with it. -/
def unpublishEntries (name : VersionName) : List Entry := opening name ++ [
  .field "IsInternalExtension" "true",
  .field "IsJsonExtension" "true"]

/-- The manifest that publishes a version for internal use. It ends with a line
break, as a file does. -/
def publish (details : Details) : String :=
  String.ofList (document (publishEntries details) ++ ['\n'])

/-- The manifest that makes a version internal again. It is sent as it is, and never
shown. -/
def unpublish (name : VersionName) : String := String.ofList (document (unpublishEntries name))

/-- Whether a word occurs in a text. It is looked for at every place, from the
front. -/
def occurs (word : List Char) : List Char → Bool
  | [] => word.isEmpty
  | c :: rest => word.isPrefixOf (c :: rest) || occurs word rest

/-- Why a manifest must not be submitted. -/
inductive Flaw where
  | empty
  /-- The address of the package has not been filled in. -/
  | unfilled
  deriving DecidableEq, Repr

/-- The flaw in words. -/
def Flaw.message : Flaw → String
  | .empty => "manifest is empty"
  | .unfilled =>
    "manifest still contains the " ++ packagePlaceholder ++
      " placeholder; set <MediaLink> to the package blob URL"

/-- Whether a manifest may be submitted. Whether it is markup at all is left to the
service to judge. -/
def check (manifest : String) : Except Flaw Unit :=
  if Text.blank manifest then .error .empty
  else if occurs packagePlaceholder.toList manifest.toList then .error .unfilled
  else .ok ()

end ExtensionPublisher.Manifest
