import Interception.Declaration
import Interception.Fault

/-!
# Finding a method among the ancestors of a type

A method is looked for on the type itself, then on the traits it uses, in order, then in the same way
on its parent and on the parent's parent.  Declarations come from a `lookup` whose every call may be
an effect, so the search is written for any monad.  Because declarations may name each other in a
circle, the climb stops after `limit` parents.
-/

namespace Interception

/-- A method and the name of the type that declares it; the names in its signature are written
relative to that type's namespace. -/
structure Sighting where
  owner : String
  method : Method
deriving DecidableEq

namespace Ancestry

/-- How many parents are looked up at most. -/
def limit : Nat := 64

variable {m : Type → Type} [Monad m] (lookup : String → m (Except Fault Declaration))

/-- The method as the declaration itself has it. -/
def own? (decl : Declaration) (name : String) : Option Sighting :=
  (decl.method? name).map (⟨decl.name, ·⟩)

/-- The method of the first of the traits that has it; traits that cannot be looked up are skipped. -/
def amongTraits (name : String) : List String → m (Option Sighting)
  | [] => pure none
  | first :: others => do
    match ← lookup first with
    | .ok decl =>
      match own? decl name with
      | some sighting => pure (some sighting)
      | none => amongTraits name others
    | .error _ => amongTraits name others

/-- The method on the type or on one of its traits. -/
def onType (decl : Declaration) (name : String) : m (Option Sighting) :=
  match own? decl name with
  | some sighting => pure (some sighting)
  | none => amongTraits lookup name decl.traits

/-- The method on the type or above it, with `steps` parents to look up at most.  A parent that
cannot be looked up ends the search. -/
def climb (name : String) : Nat → Declaration → m (Option Sighting)
  | 0, decl => onType lookup decl name
  | steps + 1, decl => do
    match ← onType lookup decl name with
    | some sighting => pure (some sighting)
    | none =>
      match decl.parent with
      | none => pure none
      | some parent =>
        match ← lookup parent with
        | .ok ancestor => climb name steps ancestor
        | .error _ => pure none

/-- The method `name` as the type called `type` has or inherits it.  Only the look-up of the type
itself can fail. -/
def find (type name : String) : m (Except Fault (Option Sighting)) := do
  match ← lookup type with
  | .ok decl => return .ok (← climb lookup name limit decl)
  | .error fault => return .error fault

end Ancestry

/-- The search for a method when looking up has no effects. -/
def Ancestry.findIn (lookup : String → Except Fault Declaration) (type name : String) :
    Except Fault (Option Sighting) :=
  Id.run (Ancestry.find (fun type => (pure (lookup type) : Id _)) type name)

end Interception
