import ExtensionPublisher.Text.Case

/-!
# Replication

How far the copying of an extension version to one location has come, in the service's own
words. One of these words is known to mean that it is done.
-/
namespace ExtensionPublisher

/-- The state of replication at one location, both as the service writes them. -/
structure Replication where
  location : String
  status : String
  deriving DecidableEq, Repr

/-- Whether replication is done. Case does not matter. -/
def Replication.isComplete (replication : Replication) : Bool :=
  Text.sameWord replication.status "completed"

end ExtensionPublisher
