import Interception.Act
import Interception.Capability.Closure

/-!
# Remembering the interfaces of types

Declarations do not change, so the interfaces of a type are found once and remembered under its
name.  A `Memo` is what is remembered; it stands beside the world in a `Session`.  Failures are not
remembered.
-/

namespace Interception

/-- Where declarations come from. -/
structure Source (σ : Type) where
  /-- Asks for the declaration of a name. -/
  lookup : String → Act σ (Except Fault Declaration)
  /-- How many names the search from a type may look up. -/
  reach : String → Nat

/-- The interfaces found so far, by type. -/
structure Memo where
  entries : List (String × NameSet)
  /-- How often they had to be searched for. -/
  lookups : Nat

namespace Memo

/-- Nothing is known yet. -/
def empty : Memo := ⟨[], 0⟩

/-- What is known of a type. -/
def find? (memo : Memo) (name : String) : Option NameSet := memo.entries.lookup name

/-- Remembers the interfaces of a type of which nothing was known before the search. -/
def remember (memo : Memo) (name : String) (set : NameSet) : Memo :=
  { entries := (name, set) :: memo.entries
    lookups := memo.lookups + 1 }

/-- How many types are remembered. -/
def size (memo : Memo) : Nat := memo.entries.length

/-- What is remembered of a type is seen under its name and nowhere else. -/
theorem find?_remember (memo : Memo) (name other : String) (set : NameSet) :
    (memo.remember name set).find? other = if other = name then some set else memo.find? other := by
  unfold remember find?
  by_cases h : other = name
  · rw [if_pos h, h]
    exact List.lookup_cons_self
  · have hne : (other == name) = false := by simpa using h
    rw [if_neg h, List.lookup_cons, hne]

end Memo

/-- A world and what has been remembered in it. -/
structure Session (σ : Type) where
  memo : Memo
  world : σ

namespace Session

variable {σ α : Type}

/-- An act of the world, which leaves the memo alone. -/
def outside (act : Act σ α) : Act (Session σ) α :=
  act.within Session.world fun session world => { session with world := world }

/-- Searches for the interfaces of a type and remembers them. -/
def search (source : Source σ) (name : String) : Act (Session σ) (Except Fault NameSet) := do
  match ← outside (Closure.interfaces source.lookup (source.reach name) name) with
  | .error fault => return .error fault
  | .ok set =>
    Act.note (.memoized name set.names.length)
    modify fun session => { session with memo := session.memo.remember name set }
    return .ok set

/-- The interfaces of a type, searched for if they are not known. -/
def interfaces (source : Source σ) (type : String) : Act (Session σ) (Except Fault NameSet) := do
  let name := Name.normalize type
  match (← get).memo.find? name with
  | some set => return .ok set
  | none => search source name

/-- What is known of a type is the answer. -/
theorem interfaces_of_known {source : Source σ} {type : String} {session : Session σ}
    {set : NameSet} (h : session.memo.find? (Name.normalize type) = some set) :
    interfaces source type session = ⟨(.ok set, session), []⟩ := by
  unfold interfaces
  rw [Act.get_bind, h]
  rfl

/-- What is not known is searched for. -/
theorem interfaces_of_unknown {source : Source σ} {type : String} {session : Session σ}
    (h : session.memo.find? (Name.normalize type) = none) :
    interfaces source type session = search source (Name.normalize type) session := by
  unfold interfaces
  rw [Act.get_bind, h]

end Session

end Interception
