import Interception.Advice

/-!
# Registered advice

A registry lists advice in the order of its registration.  An aspect's targets can be assigned
together, which forgets the earlier ones, or one by one, and all advice can be forgotten.  What applies
to a set of types is answered in an order that does not hang on the order of registration.
-/

namespace Interception

/-- Advice in the order of registration. -/
structure Registry where
  advice : List Advice
deriving DecidableEq

namespace Registry

/-- The registry without any advice. -/
def empty : Registry := ⟨[]⟩

/-- Binds `aspect` around each of the targets and around nothing else. -/
def assign (registry : Registry) (aspect : String) (targets : List String) (priority : Int32) :
    Registry :=
  ⟨registry.advice.filter (fun advice => advice.aspect ≠ aspect) ++
    targets.map fun target => Advice.bound aspect target priority⟩

/-- Adds an advice at the end, unless it is registered already. -/
def add (registry : Registry) (advice : Advice) : Registry :=
  if advice ∈ registry.advice then registry else ⟨registry.advice ++ [advice]⟩

/-- Forgets all advice. -/
def clear (_ : Registry) : Registry := empty

/-- All advice whose target lies on one of the types, first what applies first. -/
def applicable (registry : Registry) (types : List String) : List Advice :=
  (registry.advice.filter fun advice => types.contains advice.targetType).mergeSort Advice.precedes

/-- What is done to a registry at a time. -/
inductive Change where
  | assign (aspect : String) (targets : List String) (priority : Int32)
  | add (advice : Advice)
  | clear

/-- The registry after a change. -/
def change (registry : Registry) : Change → Registry
  | .assign aspect targets priority => registry.assign aspect targets priority
  | .add advice => registry.add advice
  | .clear => registry.clear

/-- The registry after changes, one after the other, to the one without any advice. -/
def after (changes : List Change) : Registry := changes.foldl change empty

end Registry

end Interception
