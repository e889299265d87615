import Interception.Name
import Interception.Version

/-!
# Settings

What can be chosen about woven proxies and about the gate, with the choices that hold unless others
are made.
-/

namespace Interception

/-- What can be chosen about woven proxies. -/
structure WeaveSettings where
  /-- The runtime that the proxies are for. -/
  version : Version
  /-- Whether a proxy asks for strict types. -/
  strictTypes : Bool
  /-- The comment at the head of a proxy; none if empty. -/
  banner : String
  /-- The trait that dispatches calls. -/
  proxyTrait : String
  /-- The trait that handles properties. -/
  propertyTrait : String
deriving DecidableEq

/-- The settings that hold unless others are made. -/
def WeaveSettings.standard : WeaveSettings where
  version := ⟨8, 1, 0⟩
  strictTypes := true
  banner := "/**\n * This file was generated by proxy-weave.\n *\n" ++
    " * Changes are overwritten the next time the proxy is woven.\n */"
  proxyTrait := "\\Weave\\Aop\\ProxyTrait"
  propertyTrait := "\\Weave\\Aop\\PropertyHandlerTrait"

/-- What can be chosen about the gate. -/
structure GateSettings where
  /-- The interface of the types that validate themselves. -/
  marker : String
  /-- The status of the answer to a caller who is not authorized. -/
  forbiddenStatus : UInt16
deriving DecidableEq

/-- The settings that hold unless others are made. -/
def GateSettings.standard : GateSettings where
  marker := "Weave\\Validation\\Contract\\ValidatesWhenResolved"
  forbiddenStatus := 403

/-- Chooses the interface of the types that validate themselves, written with or without leading
separators. -/
def GateSettings.withMarker (settings : GateSettings) (marker : String) : GateSettings :=
  { settings with marker := Name.normalize marker }

end Interception
