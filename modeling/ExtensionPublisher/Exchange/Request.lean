/-!
# Requests

A request names a resource below the subscription by the segments of its path, unescaped.
Escaping them is the business of whoever sends the request.
-/
namespace ExtensionPublisher

/-- What is done to a resource. -/
inductive Method where
  | get
  | put
  | delete
  deriving DecidableEq, Repr

/-- The word for it in a request line. -/
def Method.word : Method → String
  | .get => "GET"
  | .put => "PUT"
  | .delete => "DELETE"

/-- A request about a resource of the subscription. It says what is asked, and not
yet where and by whom. -/
structure Request where
  method : Method
  segments : List String
  query : List (String × String) := []
  body : Option (List UInt8) := none
  deriving DecidableEq, Repr

/-- The segments on one line. -/
def Request.path (request : Request) : String := String.intercalate "/" request.segments

end ExtensionPublisher
