import Interception.Web.Callable

/-!
# Requests and responses
-/

namespace Interception

/-- What is sent back. -/
structure Response where
  status : UInt16
  headers : List (String × String)
  body : String
deriving DecidableEq

namespace Response

/-- A response without headers and body. -/
def empty (status : UInt16) : Response := ⟨status, [], ""⟩

/-- Adds a last header. -/
def addHeader (response : Response) (name value : String) : Response :=
  { response with headers := response.headers ++ [(name, value)] }

/-- The value of the first header of that name, in any case. -/
def header? (response : Response) (name : String) : Option String :=
  (response.headers.find? fun header => Text.sameLetters header.1 name).map Prod.snd

end Response

/-- What came of looking for a route. -/
inductive RouteStatus where
  | notFound
  | found
  | methodNotAllowed
deriving DecidableEq

/-- The status as it is written. -/
def RouteStatus.text : RouteStatus → String
  | .notFound => "NotFound"
  | .found => "Found"
  | .methodNotAllowed => "MethodNotAllowed"

/-- What routing leaves on a request. -/
structure Route where
  status : RouteStatus
  handler : Option Callable
deriving DecidableEq

/-- A request on its way to its handler. -/
structure Request where
  id : String
  /-- What came of routing, if it has taken place. -/
  route : Option Route
  /-- The response that early answers are made from. -/
  context : Response
deriving DecidableEq

end Interception
