import ExtensionPublisher.Text.Blank
import ExtensionPublisher.Text.Parts

/-!
# Extension versions

A version of an extension is named by its provider's namespace, its type and its number. The
service lists the versions a subscription has published, each with the state of its
replication and the regions it is offered in, as one text.
-/
namespace ExtensionPublisher

/-- The name of one version of an extension: who provides the extension, what it is
called, and which version it is. -/
structure VersionName where
  provider : String
  type : String
  version : String
  deriving DecidableEq, Repr

/-- The regions in a comma-separated text, without the blanks around them. Empty entries are
left out. -/
def regionsOf (text : String) : List String :=
  ((Text.parts ',' text.toList).map (Text.trim Text.isBlank)).filter (· ≠ []) |>.map String.ofList

/-- A version as the service lists it. -/
structure PublishedVersion where
  name : VersionName
  /-- Whether all regions have the version. -/
  replicated : Bool
  /-- The regions as the service wrote them. -/
  regions : String
  deriving DecidableEq, Repr

/-- The regions of a published version, one by one. They are told in one text, which
is divided here. -/
def PublishedVersion.regionList (published : PublishedVersion) : List String :=
  regionsOf published.regions

end ExtensionPublisher
