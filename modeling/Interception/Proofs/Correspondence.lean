import Interception.Act
import Interception.Capability.Closure
import Interception.Web.Callable

/-!
# Searches in corresponding monads

The search for a method and the search for interfaces are written for any monad.  A `Correspondence`
relates work in one monad to work in another, in such a way that finished work corresponds and that
steps which correspond make sequences which do.  Main statements: over look-ups that correspond, the
searches correspond.

Three correspondences are used throughout: `seen` relates acts in a world to acts in the part of it
that they see, `keeping` tells what an act leaves as it was, and `relating` tells that two acts which
begin in related worlds give the same value and end in related worlds.
-/

namespace Interception

/-- A relation between work in two monads that finished work and sequences respect. -/
structure Correspondence (m n : Type → Type) [Monad m] [Monad n] where
  holds {α : Type} : m α → n α → Prop
  done {α : Type} (a : α) : holds (pure a : m α) (pure a : n α)
  next {α β : Type} {x : m α} {y : n α} {f : α → m β} {g : α → n β} :
    holds x y → (∀ a, holds (f a) (g a)) → holds (x >>= f) (y >>= g)

section Searches

variable {m n : Type → Type} [Monad m] [Monad n] (C : Correspondence m n)
  {lookup : String → m (Except Fault Declaration)} {lookup' : String → n (Except Fault Declaration)}

namespace Ancestry

theorem amongTraits_corresponds (h : ∀ name, C.holds (lookup name) (lookup' name))
    (name : String) (traits : List String) :
    C.holds (amongTraits lookup name traits) (amongTraits lookup' name traits) := by
  induction traits with
  | nil => exact C.done none
  | cons first others ih =>
    rw [amongTraits, amongTraits]
    -- after corresponding look-ups, both go on with one and the same answer
    refine C.next (h first) fun found => ?_
    cases found with
    | error fault => exact ih
    | ok decl =>
      dsimp only
      cases own? decl name with
      | none => exact ih
      | some sighting => exact C.done (some sighting)

theorem onType_corresponds (h : ∀ name, C.holds (lookup name) (lookup' name))
    (decl : Declaration) (name : String) :
    C.holds (onType lookup decl name) (onType lookup' decl name) := by
  rw [onType, onType]
  cases own? decl name with
  | none => exact amongTraits_corresponds C h name decl.traits
  | some sighting => exact C.done (some sighting)

theorem climb_corresponds (h : ∀ name, C.holds (lookup name) (lookup' name))
    (name : String) (steps : Nat) (decl : Declaration) :
    C.holds (climb lookup name steps decl) (climb lookup' name steps decl) := by
  induction steps generalizing decl with
  | zero => exact onType_corresponds C h decl name
  | succ steps ih =>
    rw [climb, climb]
    refine C.next (onType_corresponds C h decl name) fun found => ?_
    cases found with
    | some sighting => exact C.done (some sighting)
    | none =>
      dsimp only
      cases decl.parent with
      | none => exact C.done none
      | some parent =>
        refine C.next (h parent) fun answer => ?_
        cases answer with
        | error fault => exact C.done none
        | ok ancestor => exact ih ancestor

/-- The search for a method corresponds over look-ups that do. -/
theorem find_corresponds (h : ∀ name, C.holds (lookup name) (lookup' name)) (type name : String) :
    C.holds (find lookup type name) (find lookup' type name) := by
  rw [find, find]
  refine C.next (h type) fun answer => ?_
  cases answer with
  | error fault => exact C.done _
  | ok decl => exact C.next (climb_corresponds C h name limit decl) fun found => C.done _

end Ancestry

/-- So does finding the parameters of a handler. -/
theorem Callable.parameters_corresponds (h : ∀ name, C.holds (lookup name) (lookup' name))
    (callable : Callable) :
    C.holds (callable.parameters lookup) (callable.parameters lookup') := by
  unfold parameters
  split
  · exact C.done _
  · split
    · exact C.done _
    · next controller action _ =>
      refine C.next (Ancestry.find_corresponds C h controller action) fun found => ?_
      split <;> exact C.done _

namespace Closure

theorem visit_corresponds (h : ∀ name, C.holds (lookup name) (lookup' name)) (root : String)
    (visited pending : List String) (found : NameSet) (steps : Nat) :
    C.holds (visit lookup root visited pending found steps)
      (visit lookup' root visited pending found steps) := by
  induction steps generalizing visited pending found with
  | zero =>
    rw [visit, visit]
    split <;> exact C.done _
  | succ steps ih =>
    rw [visit, visit]
    split
    · exact C.done _
    · next name others hpending =>
      -- found, unknown, or another fault: the first two go on with one step less
      refine C.next (h name) fun answer => ?_
      split
      · exact ih _ _ _
      · exact ih _ _ _
      · exact C.done _

/-- The search for interfaces corresponds over look-ups that do. -/
theorem interfaces_corresponds (h : ∀ name, C.holds (lookup name) (lookup' name)) (bound : Nat)
    (root : String) :
    C.holds (interfaces lookup bound root) (interfaces lookup' bound root) :=
  visit_corresponds C h root [] [root] NameSet.empty bound

end Closure

end Searches

namespace Noted

/-- What was noted in a world, as it looks in the part of the world that `view` shows. -/
def through {α σ τ : Type} (view : τ → σ) (noted : Noted (α × τ)) : Noted (α × σ) :=
  ⟨(noted.value.1, view noted.value.2), noted.events⟩

end Noted

namespace Correspondence

variable {σ τ : Type}

/-- An act in a world and an act in the part of it that `view` shows, which do the same there. -/
def seen (view : τ → σ) : Correspondence (StateT τ Noted) (StateT σ Noted) where
  holds x y := ∀ world, (x world).through view = y (view world)
  done a := fun world => rfl
  next := by
    intro α β x y f g hx hf world
    have hthen := hf (x world).value.1 (x world).value.2
    simp only [Noted.through, Noted.ext_iff, Prod.ext_iff] at hx hthen ⊢
    -- the second act starts where the first one ends, in the world and in what is seen of it
    obtain ⟨⟨hvalue, hworld⟩, hevents⟩ := hx world
    simp only [bind, StateT.bind]
    rw [← hvalue, ← hworld, ← hevents]
    exact ⟨hthen.1, by rw [hthen.2]⟩

/-- An act whose world afterwards stands in `kept` to its world before. -/
def keeping (kept : τ → τ → Prop) (hrefl : ∀ world, kept world world)
    (htrans : ∀ {a b c}, kept a b → kept b c → kept a c) :
    Correspondence (StateT τ Noted) (StateT τ Noted) where
  holds x _ := ∀ world, kept world (x world).value.2
  done _ := hrefl
  next := by
    intro α β x y f g hx hf world
    exact htrans (hx world) (hf (x world).value.1 (x world).value.2)

/-- Acts that give the same value in worlds which stand in `related`, and keep them so. -/
def relating (related : τ → τ → Prop) : Correspondence (StateT τ Noted) (StateT τ Noted) where
  holds x y := ∀ first second, related first second →
    (x first).value.1 = (y second).value.1 ∧ related (x first).value.2 (y second).value.2
  done a := fun first second h => ⟨rfl, h⟩
  next := by
    intro α β x y f g hx hf first second h
    obtain ⟨hvalue, hafter⟩ := hx first second h
    have hthen := hf (x first).value.1 _ _ hafter
    -- both go on with the value that they have in common
    simp only [bind, StateT.bind]
    rw [← hvalue]
    exact hthen

end Correspondence

end Interception
