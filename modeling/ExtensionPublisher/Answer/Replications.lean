import ExtensionPublisher.Answer.Fault
import ExtensionPublisher.Replication

/-!
# The list of replication states

The root is a list of records of two texts, a location and its state, both required.
-/
namespace ExtensionPublisher.Replication

/-- The fields of a replication state. -/
def fields : List (Xml.Field String) := [.text "Location", .text "Status"]

/-- The replication state that fields describe. Neither of the two may be missing.
-/
def ofFields (found : List (String × String)) : Except Xml.RecordFault Replication := do
  let location ← Xml.required found "Location"
  let status ← Xml.required found "Status"
  return ⟨location, status⟩

/-- The shape of the list. -/
def listShape : Xml.ListShape Replication where
  name := "ReplicationStatus"
  kind := "ReplicationStatusEntry"
  read scope tag content := do ofFields (← Xml.readRecord fields scope tag content)

/-- Read the list of replication states, in the order in which they stand. -/
def readAll (text : String) : Except AnswerFault (List Replication) :=
  readAnswer "ReplicationStatusList" "ReplicationStatusList" (Xml.readList listShape) text

end ExtensionPublisher.Replication
