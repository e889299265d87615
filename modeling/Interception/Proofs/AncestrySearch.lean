import Interception.Ancestry

/-!
# The search for a method without effects

Where looking up has no effects, the search for a method is a function of what is looked up.  Main
statements: the search finds what is near the type, on the type itself or on its traits, and otherwise
what it finds from the parent on; and taking more steps loses nothing.
-/

namespace Interception.Ancestry

variable {lookup : String → Except Fault Declaration} {type name : String} {decl : Declaration}
  {sighting : Sighting}

/-- The look-up that `findIn` searches with. -/
def quiet (lookup : String → Except Fault Declaration) (type : String) :
    Id (Except Fault Declaration) := pure (lookup type)

theorem run_quiet (type : String) : Id.run (quiet lookup type) = lookup type := rfl

/-- The method on the type or on one of its traits. -/
def near (lookup : String → Except Fault Declaration) (decl : Declaration) (name : String) :
    Option Sighting := Id.run (onType (quiet lookup) decl name)

/-- The method on the type or above it, with `steps` parents to look up at most. -/
def reached (lookup : String → Except Fault Declaration) (name : String) (steps : Nat)
    (decl : Declaration) : Option Sighting := Id.run (climb (quiet lookup) name steps decl)

theorem findIn_of_ok (h : lookup type = .ok decl) :
    findIn lookup type name = .ok (reached lookup name limit decl) := by
  simp only [findIn, find, h]
  rfl

theorem findIn_of_error {fault : Fault} (h : lookup type = .error fault) :
    findIn lookup type name = .error fault := by
  simp only [findIn, find, h]
  rfl

/-! ## Near the type -/

/-- Nothing is found among traits none of which can be looked up and has the method. -/
theorem amongTraits_eq_none_iff (traits : List String) :
    Id.run (amongTraits (quiet lookup) name traits) = none ↔
      ∀ trait ∈ traits, ∀ decl, lookup trait = .ok decl → decl.method? name = none := by
  induction traits with
  | nil => simp [amongTraits]
  | cons first others ih =>
    rw [List.forall_mem_cons, ← ih, amongTraits, Id.run_bind, run_quiet]
    cases lookup first with
    | error fault => simp
    | ok decl => cases hown : decl.method? name <;> simp [own?, hown]

/-- Nothing is near a type that lacks the method and whose traits lack it too. -/
theorem near_eq_none_iff (decl : Declaration) :
    near lookup decl name = none ↔ decl.method? name = none ∧
      ∀ trait ∈ decl.traits, ∀ mixin, lookup trait = .ok mixin → mixin.method? name = none := by
  rw [← amongTraits_eq_none_iff, near, onType, own?]
  cases decl.method? name <;> simp

/-- What the type declares comes before what its traits declare. -/
theorem near_of_method {method : Method} (h : decl.method? name = some method) :
    near lookup decl name = some ⟨decl.name, method⟩ := by
  rw [near, onType, own?, h]
  rfl

/-! ## Above the type -/

/-- One step of the search. -/
theorem reached_succ (steps : Nat) (decl : Declaration) :
    reached lookup name (steps + 1) decl = (near lookup decl name).or
      (decl.parent.bind fun parent => (lookup parent).toOption.bind (reached lookup name steps)) := by
  unfold reached near
  rw [climb, Id.run_bind]
  cases Id.run (onType (quiet lookup) decl name) with
  | some sighting => rfl
  | none =>
    cases decl.parent with
    | none => rfl
    | some parent =>
      simp only [Option.none_or, Option.bind_some, Id.run_bind, run_quiet]
      cases lookup parent <;> rfl

/-- What is near the type is found in any number of steps. -/
theorem reached_of_near (h : near lookup decl name = some sighting) (steps : Nat) :
    reached lookup name steps decl = some sighting := by
  cases steps with
  | zero => exact h
  | succ steps => rw [reached_succ, h, Option.some_or]

/-- What is found within some steps is found within one more. -/
theorem reached_mono {steps : Nat} (h : reached lookup name steps decl = some sighting) :
    reached lookup name (steps + 1) decl = some sighting := by
  induction steps generalizing decl with
  | zero => exact reached_of_near h 1
  | succ steps ih =>
    rw [reached_succ, Option.or_eq_some_iff] at h ⊢
    rcases h with hnear | ⟨hnear, habove⟩
    · exact .inl hnear
    · -- the parent is reached with one step fewer
      obtain ⟨parent, hparent, hfound⟩ := Option.bind_eq_some_iff.1 habove
      obtain ⟨ancestor, hancestor, hreached⟩ := Option.bind_eq_some_iff.1 hfound
      refine .inr ⟨hnear, ?_⟩
      rw [hparent, Option.bind_some, hancestor, Option.bind_some]
      exact ih hreached

/-- The search finds what the type declares. -/
theorem findIn_of_method {method : Method} (hdecl : lookup type = .ok decl)
    (h : decl.method? name = some method) :
    findIn lookup type name = .ok (some ⟨decl.name, method⟩) := by
  rw [findIn_of_ok hdecl, reached_of_near (near_of_method h)]

/-- What is found, but not near the type, is found from its parent on. -/
theorem findIn_parent (hdecl : lookup type = .ok decl)
    (hfound : findIn lookup type name = .ok (some sighting))
    (hnear : near lookup decl name = none) :
    ∃ parent, decl.parent = some parent ∧ findIn lookup parent name = .ok (some sighting) := by
  rw [findIn_of_ok hdecl, Except.ok.injEq] at hfound
  -- a search from the parent may take one step more than the search from the type has left
  rw [show limit = 63 + 1 from rfl, reached_succ, hnear, Option.none_or] at hfound
  obtain ⟨parent, hparent, habove⟩ := Option.bind_eq_some_iff.1 hfound
  refine ⟨parent, hparent, ?_⟩
  cases hancestor : lookup parent with
  | error fault =>
    rw [hancestor] at habove
    cases habove
  | ok ancestor =>
    rw [hancestor] at habove
    rw [findIn_of_ok hancestor]
    exact congrArg Except.ok (reached_mono habove)

end Interception.Ancestry
