import Interception.Ancestry
import Interception.Text.Brace
import Interception.Text.Cut

/-!
# Handlers by reference

A route leads to a closure or to an action of a controller, written as one text with `@` or `::` in
it, or as two.  The parameters of a handler tell what it needs; the type names in their hints are
given in full, resolved where the action is declared.
-/

namespace Interception

open Name Text

/-- A reference to what handles a request. -/
inductive Callable where
  /-- A closure with the parameters that it declares. -/
  | inline (parameters : List Parameter)
  /-- A controller and an action in one text. -/
  | written (callback : String)
  /-- A controller and an action, each by itself. -/
  | apart (controller action : String)
deriving DecidableEq

namespace Callable

/-- How a reference is written. -/
def text : Callable → String
  | .inline _ => braced "closure"
  | .written callback => callback
  | .apart controller action => controller ++ "::" ++ action

/-- The controller and the action before they are looked at closer.  A callback is cut at its first
`@`, or else at its first `::`. -/
def parts? : Callable → Option (String × String)
  | .inline _ => none
  | .written callback => (cut? "@" callback).or (cut? "::" callback)
  | .apart controller action => some (controller, action)

/-- The controller and the action.  Neither may be empty, and an action has no `::` in it. -/
def split (callable : Callable) : Except Fault (String × String) :=
  match callable.parts? with
  | some (controller, action) =>
    if controller ≠ "" ∧ action ≠ "" ∧ (cut? "::" action).isNone then .ok (controller, action)
    else .error (.unknownHandler callable.text)
  | none => .error (.unknownHandler callable.text)

variable {m : Type → Type} [Monad m] (lookup : String → m (Except Fault Declaration))

/-- The parameters of an action as the type that declares it means them. -/
def resolved (sighting : Sighting) : List Parameter :=
  sighting.method.parameters.map (·.qualifiedIn (namespaceOf sighting.owner))

/-- The parameters of the handler.  Hints of a closure are resolved in the global namespace, those of
an action in the namespace of the type that declares it. -/
def parameters (callable : Callable) : m (Except Fault (List Parameter)) :=
  match callable with
  | .inline declared => pure (.ok (declared.map (·.qualifiedIn "")))
  | _ =>
    match callable.split with
    | .error fault => pure (.error fault)
    | .ok (controller, action) => do
      match ← Ancestry.find lookup controller action with
      | .error fault => return .error fault
      | .ok none => return .error (.unknownHandler callable.text)
      | .ok (some sighting) => return .ok (resolved sighting)

end Callable

end Interception
