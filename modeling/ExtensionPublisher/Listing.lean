import ExtensionPublisher.Replication
import ExtensionPublisher.Table
import ExtensionPublisher.Version

/-!
# Listings

What the service lists is shown as tables, one row for each entry, in the service's order.
-/
namespace ExtensionPublisher

/-- The regions of a version in one cell, a dash when there are none. A comma and a
blank stand between regions, whatever stood there in the answer. -/
def PublishedVersion.regionsCell (published : PublishedVersion) : String :=
  match published.regionList with
  | [] => "-"
  | regions => String.intercalate ", " regions

/-- The table of published versions, in the order in which the service lists them.
-/
def versionsTable (versions : List PublishedVersion) : List String :=
  Table.render ["Namespace", "Type", "Version", "Replication Completed", "Regions"] <|
    versions.map fun version =>
      [version.name.provider, version.name.type, version.name.version,
        if version.replicated then "true" else "false", version.regionsCell]

/-- The table of replication states, in the order in which the service lists them.
-/
def replicationTable (replications : List Replication) : List String :=
  Table.render ["Location", "Status"] <|
    replications.map fun replication => [replication.location, replication.status]

end ExtensionPublisher
