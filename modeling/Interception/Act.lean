import Interception.Log

/-!
# Acts

Some of the library's work asks collaborators that it knows nothing about: a source of declarations,
a container of instances, the handler of a request.  Such work is an `Act σ`: a step in a world of
type `σ` that also leaves events.  Nothing can read the events back, so what is noted never changes
what is done.  Main statement: acts and noted values obey the laws of a monad.
-/

namespace Interception

/-- A value and the events on the way to it. -/
structure Noted (α : Type) where
  value : α
  events : List Event

namespace Noted

instance : Monad Noted where
  pure value := ⟨value, []⟩
  bind first next :=
    ⟨(next first.value).value, first.events ++ (next first.value).events⟩

@[simp] theorem value_pure {α : Type} (a : α) : (pure a : Noted α).value = a := rfl

@[simp] theorem events_pure {α : Type} (a : α) : (pure a : Noted α).events = [] := rfl

@[simp] theorem value_bind {α β : Type} (first : Noted α) (next : α → Noted β) :
    (first >>= next).value = (next first.value).value := rfl

@[simp] theorem events_bind {α β : Type} (first : Noted α) (next : α → Noted β) :
    (first >>= next).events = first.events ++ (next first.value).events := rfl

theorem ext_iff {α : Type} {a b : Noted α} : a = b ↔ a.value = b.value ∧ a.events = b.events := by
  cases a
  cases b
  simp

instance : LawfulMonad Noted :=
  LawfulMonad.mk' Noted
    (fun x => by
      change (⟨x.value, x.events ++ []⟩ : Noted _) = x
      rw [List.append_nil])
    (fun _ _ => rfl)
    (fun x f g => by simp [ext_iff, List.append_assoc])

end Noted

/-- A step in a world `σ` that leaves events. -/
abbrev Act (σ α : Type) : Type := StateT σ Noted α

namespace Act

variable {σ τ α : Type}

/-- Leaves one event. -/
def note (event : Event) : Act σ Unit := fun world => ⟨((), world), [event]⟩

/-- The same act in a larger world, of which it sees and changes one part. -/
def within (get : τ → σ) (set : τ → σ → τ) (act : Act σ α) : Act τ α := fun world =>
  let done := act (get world)
  ⟨(done.value.1, set world done.value.2), done.events⟩

@[simp] theorem pure_apply (a : α) (world : σ) : (pure a : Act σ α) world = ⟨(a, world), []⟩ := rfl

/-- An act that begins with a look at the world. -/
theorem get_bind (next : σ → Act σ α) (world : σ) : (get >>= next) world = next world world := rfl

/-- A sequence of acts whose first is known. -/
theorem bind_of_eq {β : Type} {first : Act σ α} {next : α → Act σ β} {world world' : σ} {a : α}
    {events : List Event} (h : first world = ⟨(a, world'), events⟩) :
    (first >>= next) world = ⟨(next a world').value, events ++ (next a world').events⟩ := by
  change (⟨(next (first world).value.1 (first world).value.2).value, _ ++ _⟩ : Noted _) = _
  rw [h]

/-- The outcome of a sequence of acts when that of the first is known. -/
theorem value_bind_of_eq {β : Type} {first : Act σ α} {next : α → Act σ β} {world world' : σ}
    {a : α} (h : (first world).value = (a, world')) :
    ((first >>= next) world).value = (next a world').value := by
  change (next (first world).value.1 (first world).value.2).value = _
  rw [h]

end Act

end Interception
