import Interception.Capability.Memo
import Interception.Container
import Interception.Settings
import Interception.Web.Pipeline

/-!
# The gate

The gate stands before the handler of a routed request.  Of the parameters of the handler, in order,
each whose type implements the marker interface is got from the container and asked to validate
itself.  A caller without authority is answered at once with the forbidden status; invalid input is a
fault; and when all of them accept, the request goes on.
-/

namespace Interception

/-- What the gate works with. -/
structure Gate (σ : Type) where
  source : Source σ
  container : Container σ
  settings : GateSettings

/-- What comes of looking at one parameter. -/
inductive Check where
  /-- It does not validate itself. -/
  | unguarded
  | accepted
  /-- Its type, an instance of which denied authority with this message. -/
  | forbidden (type message : String)
  | failed (fault : Fault)

/-- What the answer of an instance of a type comes to. -/
def Check.ofAnswer (type : String) : Except Rejection Unit → Check
  | .ok () => .accepted
  | .error (.unauthorized message) => .forbidden type message
  | .error (.invalid message) => .failed (.invalid type message)

/-- What comes of looking at all parameters. -/
inductive Verdict where
  /-- All that validate themselves have accepted; so many there were. -/
  | passed (validated : Nat)
  /-- The parameter and its type, an instance of which denied authority with this message. -/
  | forbidden (type parameter message : String)
  | failed (fault : Fault)

namespace Gate

variable {σ : Type} (gate : Gate σ)

/-- Whether instances of a type validate themselves. -/
def guards (type : String) : Act (Session σ) (Except Fault Bool) :=
  if Name.isBuiltin type then pure (.ok false)
  else do
    match ← Session.interfaces gate.source type with
    | .error fault => return .error fault
    | .ok set => return .ok (set.contains gate.settings.marker)

/-- Has an instance of a type validate itself. -/
def validate (type : String) : Act (Session σ) Check := do
  match ← Session.outside (gate.container type) with
  | .error fault => return .failed fault
  | .ok validator => return .ofAnswer type (← Session.outside validator)

/-- Looks at one parameter. -/
def check (parameter : Parameter) : Act (Session σ) Check :=
  match parameter.classType with
  | none => pure .unguarded
  | some type => do
    match ← gate.guards type with
    | .error fault => return .failed fault
    | .ok false => return .unguarded
    | .ok true => gate.validate type

/-- Looks at the parameters in order, up to the first that does not accept; so many have accepted
before. -/
def checkAll (validated : Nat) : List Parameter → Act (Session σ) Verdict
  | [] => pure (.passed validated)
  | first :: others => do
    match ← gate.check first with
    | .unguarded => checkAll validated others
    | .accepted => checkAll (validated + 1) others
    | .forbidden type message => return .forbidden type first.name message
    | .failed fault => return .failed fault

/-- The answer to a caller who is not authorized. -/
def forbidden (request : Request) : Response :=
  { request.context with status := gate.settings.forbiddenStatus }

/-- Leaves a remark about a request. -/
def remark (level : Level) (request : Request) (text : String) : Act (Session σ) Unit :=
  Act.note (.remark level request.id text)

/-- Lets the request for a handler pass, or answers it. -/
def handle (next : Handler (Session σ)) (request : Request) (handler : Callable) :
    Act (Session σ) (Except Fault Response) := do
  match ← Session.outside (handler.parameters gate.source.lookup) with
  | .error fault => return .error fault
  | .ok parameters =>
    match ← gate.checkAll 0 parameters with
    | .failed fault => return .error fault
    | .forbidden type parameter message =>
      remark .warning request (type ++ " rejected $" ++ parameter ++ " for " ++ handler.text ++
        ": " ++ message)
      return .ok (gate.forbidden request)
    -- no parameter asked for validation, so there is nothing to remark
    | .passed 0 => next request
    | .passed validated =>
      remark .debug request (validated.repr ++ " parameter(s) of " ++ handler.text ++ " validated")
      next request

/-- The gate as a middleware.  A request has to have been routed, and a found route to have a
handler; where no route was found there is nothing to validate. -/
def process : Middleware (Session σ) := fun next request =>
  match request.route with
  | none => pure (.error (.misrouted "request carries no dispatch result"))
  | some ⟨.found, some handler⟩ => gate.handle next request handler
  | some ⟨.found, none⟩ => pure (.error (.misrouted "found route carries no handler"))
  | some ⟨status, _⟩ => do
    remark .debug request ("route status " ++ status.text ++ ", skipping validation")
    next request

end Gate

end Interception
