import Interception.Capability.NameSet
import Interception.Declaration
import Interception.Fault

/-!
# All interfaces of a type

A type implements the interfaces that it lists, those that they extend, and those of its ancestors.
They are found by visiting every type that can be reached over parents and interfaces, each once.
Types that nobody declares lead no further; any other fault of a look-up is the fault of the search.
The search is written for any monad, and gives up after a number of look-ups that the caller sets.
-/

namespace Interception.Closure

variable {m : Type → Type} [Monad m] (lookup : String → m (Except Fault Declaration))

/-- The types that a declaration leads to, in the order in which they are visited. -/
def leads (decl : Declaration) : List String := decl.parent.toList ++ decl.interfaces.reverse

/-- Visits the types that are still to be visited, looking up at most as many as the first argument
says, and collects the interfaces that they list. -/
def visit (root : String) (visited pending : List String) (found : NameSet) :
    Nat → m (Except Fault NameSet)
  | 0 =>
    match pending.dropWhile visited.contains with
    | [] => pure (.ok found)
    | _ :: _ => pure (.error (.unbounded root))
  | steps + 1 =>
    match pending.dropWhile visited.contains with
    | [] => pure (.ok found)
    | name :: others => do
      match ← lookup name with
      | .ok decl =>
        -- what a type leads to is visited before what was still to be visited
        visit root (name :: visited) (leads decl ++ others) (found.insertAll decl.interfaces) steps
      | .error (.unknownType _) => visit root (name :: visited) others found steps
      | .error fault => pure (.error fault)

/-- The interfaces of the type `root`, found with at most `bound` look-ups. -/
def interfaces (bound : Nat) (root : String) : m (Except Fault NameSet) :=
  visit lookup root [] [root] NameSet.empty bound

end Interception.Closure
