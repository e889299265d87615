import Interception.Act
import Interception.Fault

/-!
# Containers

A container hands out instances of types.  All that matters here about an instance is that it can be
asked to validate itself, so an instance is that act.  `Bindings` is a container that is set up type by
type: with a factory, which makes a new instance each time, or with one instance for all times.
-/

namespace Interception

open Name

/-- An instance: the act of validating itself. -/
abbrev Validator (σ : Type) : Type := Act σ (Except Rejection Unit)

/-- Hands out an instance of a type. -/
abbrev Container (σ : Type) : Type := String → Act σ (Except Fault (Validator σ))

/-- The ways to get instances, by type; later ones come first. -/
structure Bindings (σ : Type) where
  entries : List (String × Act σ (Validator σ))

namespace Bindings

variable {σ : Type}

/-- No type is bound. -/
def empty : Bindings σ := ⟨[]⟩

/-- Binds a type to a factory that makes its instances, in place of any earlier one. -/
def register (bindings : Bindings σ) (type : String) (factory : Act σ (Validator σ)) :
    Bindings σ :=
  ⟨(normalize type, factory) :: bindings.entries⟩

/-- Binds a type to one instance. -/
def share (bindings : Bindings σ) (type : String) (validator : Validator σ) : Bindings σ :=
  bindings.register type (pure validator)

/-- The factory of a type. -/
def factory? (bindings : Bindings σ) (type : String) : Option (Act σ (Validator σ)) :=
  bindings.entries.lookup (normalize type)

/-- Whether a type is bound. -/
def contains (bindings : Bindings σ) (type : String) : Bool := (bindings.factory? type).isSome

/-- The container that the bindings make. -/
def get (bindings : Bindings σ) : Container σ := fun type =>
  match bindings.factory? type with
  | some factory => do return .ok (← factory)
  | none => pure (.error (.unresolved (normalize type) "no binding registered"))

end Bindings

end Interception
