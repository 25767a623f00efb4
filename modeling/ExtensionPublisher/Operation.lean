/-!
# Operations

Changing what is published is an operation of the service: it is accepted at once, and its
progress is asked for later. A report says that it is still running, or how it ended.
-/
namespace ExtensionPublisher

/-- What the service reports about an operation. There are no other states: one that
is not known is a malformed response. -/
inductive OperationReport where
  | inProgress
  | succeeded
  | failed (code message : String)
  deriving DecidableEq, Repr

/-- Whether nothing will change any more, so that asking again would be no use. -/
def OperationReport.isFinal : OperationReport → Bool
  | .inProgress => false
  | .succeeded | .failed .. => true

end ExtensionPublisher
