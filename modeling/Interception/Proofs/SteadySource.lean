import Interception.Capability.Memo
import Interception.Proofs.AncestrySearch
import Interception.Proofs.Correspondence

/-!
# Sources that do not change their mind

A source is steady when its answers are those of a function of the name and asking it leaves the world
as it is.  Main statements: over a steady source the searches find what they find over the function,
and the memo comes to know what the search finds.
-/

namespace Interception

variable {σ : Type}

/-- The source answers as `lookup` says, in every world, which it leaves as it is. -/
def Source.Answers (source : Source σ) (lookup : String → Except Fault Declaration) : Prop :=
  ∀ name world, (source.lookup name world).value = (lookup name, world)

/-- The search for interfaces when looking up has no effects. -/
def Closure.interfacesIn (lookup : String → Except Fault Declaration) (bound : Nat)
    (root : String) : Except Fault NameSet :=
  Id.run (interfaces (Ancestry.quiet lookup) bound root)

/-- An act that gives the value of quiet work and leaves the world as it is. -/
def Correspondence.quietly : Correspondence (StateT σ Noted) Id where
  holds x y := ∀ world, (x world).value = (Id.run y, world)
  done _ := fun _ => rfl
  next := by
    intro α β x y f g hx hf world
    have hthen := hf (Id.run y) world
    rw [Id.run_bind, ← hthen]
    exact Act.value_bind_of_eq (hx world)

namespace Source.Answers

variable {source : Source σ} {lookup : String → Except Fault Declaration}

theorem quietly (h : source.Answers lookup) (name : String) :
    Correspondence.quietly.holds (source.lookup name) (Ancestry.quiet lookup name) := h name

/-- A steady source has the parameters of a handler that the function has. -/
theorem parameters (h : source.Answers lookup) (handler : Callable) (world : σ) :
    (handler.parameters source.lookup world).value =
      (Id.run (handler.parameters (Ancestry.quiet lookup)), world) :=
  Callable.parameters_corresponds Correspondence.quietly h.quietly handler world

/-- A type has the interfaces over a steady source that it has over the function. -/
theorem interfaces (h : source.Answers lookup) (bound : Nat) (root : String) (world : σ) :
    (Closure.interfaces source.lookup bound root world).value =
      (Closure.interfacesIn lookup bound root, world) :=
  Closure.interfaces_corresponds Correspondence.quietly h.quietly bound root world

end Source.Answers

/-- The memo after a search: it learns the interfaces of a type, and no fault. -/
def Memo.learn (memo : Memo) (name : String) : Except Fault NameSet → Memo
  | .ok set => memo.remember name set
  | .error _ => memo

namespace Session

variable {source : Source σ} {lookup : String → Except Fault Declaration}

/-- An act of the world leaves the memo as it is. -/
theorem outside_of_eq {α : Type} {act : Act σ α} {a : α} {session : Session σ} {world : σ}
    (h : (act session.world).value = (a, world)) :
    (outside act session).value = (a, ⟨session.memo, world⟩) := by
  simp only [outside, Act.within, h]

/-- A steady source has a type's interfaces searched for with one and the same outcome, of which
the memo learns. -/
theorem search_value (h : source.Answers lookup) (name : String) (session : Session σ) :
    (search source name session).value =
      (Closure.interfacesIn lookup (source.reach name) name,
        ⟨session.memo.learn name (Closure.interfacesIn lookup (source.reach name) name),
          session.world⟩) := by
  have hworld := h.interfaces (source.reach name) name session.world
  have hfound := outside_of_eq hworld
  refine (Act.value_bind_of_eq hfound).trans ?_
  cases Closure.interfacesIn lookup (source.reach name) name <;> rfl

end Session

end Interception
