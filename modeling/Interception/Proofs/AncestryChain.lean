import Interception.Proofs.SteadySource
import Interception.Proofs.Watched
import Mathlib.Data.Fintype.Pigeonhole

/-!
# The first type that has a method

A type, its parent, the parent of that and so on are a chain, which ends where a parent is missing or
unknown, or never where the types name each other in a circle.  A type of the chain has a method if it
declares it, or else if one of the traits that it uses does; of these the first counts.

Main statement: the search finds the method where the first type of the chain has it, if that is one
of the first 65, and in a chain that is made of no more than 65 types it is.  The search comes to its
end whatever the source answers.
-/

namespace Interception

open Text

/-- `method` is the first method that the type declares under `name`, in any case. -/
def Declaration.Declares (decl : Declaration) (name : String) (method : Method) : Prop :=
  ∃ before after, decl.methods = before ++ method :: after ∧
    sameLetters method.name name = true ∧ ∀ other ∈ before, sameLetters other.name name = false

theorem Declaration.declares_iff {decl : Declaration} {name : String} {method : Method} :
    decl.Declares name method ↔ decl.method? name = some method := by
  rw [method?, List.find?_eq_some_iff_append, Declares]
  constructor
  · rintro ⟨before, after, hmethods, hname, hbefore⟩
    exact ⟨hname, before, after, hmethods, by simpa using hbefore⟩
  · rintro ⟨hname, before, after, hmethods, hbefore⟩
    exact ⟨before, after, hmethods, hname, by simpa using hbefore⟩

namespace Ancestry

variable {lookup : String → Except Fault Declaration} {name : String} {decl : Declaration}
  {sighting : Sighting}

/-! ## One type of the chain -/

/-- What a type of the chain has under a name. -/
inductive Has (lookup : String → Except Fault Declaration) (decl : Declaration) (name : String) :
    Sighting → Prop where
  /-- The method that it declares. -/
  | declared {method : Method} (hmethod : decl.Declares name method) :
    Has lookup decl name ⟨decl.name, method⟩
  /-- The method of the first trait that is known and declares it, if the type itself does not. -/
  | mixed {passed others : List String} {trait : String} {mixin : Declaration} {method : Method}
    (hlacks : ∀ method, ¬decl.Declares name method) (htraits : decl.traits = passed ++ trait :: others)
    (hpassed : ∀ earlier ∈ passed, ∀ other, lookup earlier = .ok other →
      ∀ method, ¬other.Declares name method)
    (hmixin : lookup trait = .ok mixin) (hmethod : mixin.Declares name method) :
    Has lookup decl name ⟨mixin.name, method⟩

theorem own?_eq_some_iff : own? decl name = some sighting ↔
    ∃ method, decl.Declares name method ∧ sighting = ⟨decl.name, method⟩ := by
  simp only [own?, Option.map_eq_some_iff, Declaration.declares_iff, eq_comm (a := sighting)]

theorem own?_eq_none_iff : own? decl name = none ↔ ∀ method, ¬decl.Declares name method := by
  rw [own?, Option.map_eq_none_iff, Option.eq_none_iff_forall_ne_some]
  simp only [Declaration.declares_iff, ne_eq]

/-- What a trait has, if it is known. -/
def ofTrait? (lookup : String → Except Fault Declaration) (name trait : String) : Option Sighting :=
  (lookup trait).toOption.bind (own? · name)

theorem ofTrait?_eq_some_iff {trait : String} : ofTrait? lookup name trait = some sighting ↔
    ∃ mixin, lookup trait = .ok mixin ∧ own? mixin name = some sighting := by
  unfold ofTrait?
  cases lookup trait with
  | error fault => simp [Except.toOption]
  | ok mixin => simp [Except.toOption]

theorem ofTrait?_eq_none_iff {trait : String} : ofTrait? lookup name trait = none ↔
    ∀ mixin, lookup trait = .ok mixin → ∀ method, ¬mixin.Declares name method := by
  unfold ofTrait?
  cases lookup trait with
  | error fault => simp [Except.toOption]
  | ok mixin => simp [Except.toOption, own?_eq_none_iff]

/-- Of some traits the first that is known and has the method counts. -/
theorem amongTraits_eq_findSome? (traits : List String) :
    Id.run (amongTraits (quiet lookup) name traits) = traits.findSome? (ofTrait? lookup name) := by
  induction traits with
  | nil => rfl
  | cons first others ih =>
    rw [List.findSome?_cons, ← ih, amongTraits, Id.run_bind, run_quiet, ofTrait?]
    cases lookup first with
    | error fault => rfl
    | ok mixin =>
      simp only [Except.toOption, Option.bind_some]
      cases own? mixin name <;> rfl

theorem near_eq_some_iff : near lookup decl name = some sighting ↔ Has lookup decl name sighting := by
  rw [near, onType]
  cases hown : own? decl name with
  | some found =>
    obtain ⟨method, hmethod, rfl⟩ := own?_eq_some_iff.mp hown
    rw [Id.run_pure, Option.some.injEq]
    constructor
    · rintro rfl
      exact .declared hmethod
    · rintro (⟨hmethod'⟩ | ⟨hlacks⟩)
      · rw [← Option.some.injEq, ← hown]
        exact own?_eq_some_iff.mpr ⟨_, hmethod', rfl⟩
      · exact absurd hmethod (hlacks method)
  | none =>
    have hlacks := own?_eq_none_iff.mp hown
    rw [amongTraits_eq_findSome?, List.findSome?_eq_some_iff]
    constructor
    · rintro ⟨passed, trait, others, htraits, hfound, hpassed⟩
      obtain ⟨mixin, hmixin, hown'⟩ := ofTrait?_eq_some_iff.mp hfound
      obtain ⟨method, hmethod, rfl⟩ := own?_eq_some_iff.mp hown'
      refine .mixed hlacks htraits ?_ hmixin hmethod
      intro earlier hearlier
      exact ofTrait?_eq_none_iff.mp (hpassed earlier hearlier)
    · rintro (⟨hmethod⟩ | ⟨-, htraits, hpassed, hmixin, hmethod⟩)
      · exact absurd hmethod (hlacks _)
      · refine ⟨_, _, _, htraits, ?_, ?_⟩
        · exact ofTrait?_eq_some_iff.mpr ⟨_, hmixin, own?_eq_some_iff.mpr ⟨_, hmethod, rfl⟩⟩
        · intro earlier hearlier
          exact ofTrait?_eq_none_iff.mpr (hpassed earlier hearlier)

/-! ## The chain -/

/-- The declaration of the parent, if there is one and it is known. -/
def parent? (lookup : String → Except Fault Declaration) (decl : Declaration) : Option Declaration :=
  decl.parent.bind fun parent => (lookup parent).toOption

/-- The declaration that stands so many parents above a type, as far as parents are known. -/
def ancestor? (lookup : String → Except Fault Declaration) (decl : Declaration) :
    Nat → Option Declaration
  | 0 => some decl
  | index + 1 => (ancestor? lookup decl index).bind (parent? lookup)

theorem ancestor?_add (decl : Declaration) (first second : Nat) :
    ancestor? lookup decl (first + second) =
      (ancestor? lookup decl first).bind (ancestor? lookup · second) := by
  induction second with
  | zero => simp [ancestor?]
  | succ second ih =>
    show (ancestor? lookup decl (first + second)).bind (parent? lookup) = _
    rw [ih, Option.bind_assoc]
    rfl

/-- The chain from the parent on is the rest of the chain. -/
theorem ancestor?_succ (decl : Declaration) (index : Nat) : ancestor? lookup decl (index + 1) =
    (parent? lookup decl).bind (ancestor? lookup · index) := by
  rw [Nat.add_comm, ancestor?_add]
  rfl

/-- The type that stands so many parents above has the method. -/
def HasAt (lookup : String → Except Fault Declaration) (decl : Declaration) (name : String)
    (index : Nat) (sighting : Sighting) : Prop :=
  ∃ ancestor, ancestor? lookup decl index = some ancestor ∧ Has lookup ancestor name sighting

/-- It is the first type of the chain that has one. -/
def FirstAt (lookup : String → Except Fault Declaration) (decl : Declaration) (name : String)
    (index : Nat) (sighting : Sighting) : Prop :=
  HasAt lookup decl name index sighting ∧
    ∀ below < index, ∀ other, ¬HasAt lookup decl name below other

theorem hasAt_zero_iff : HasAt lookup decl name 0 sighting ↔ near lookup decl name = some sighting := by
  rw [near_eq_some_iff]
  simp [HasAt, ancestor?]

theorem hasAt_succ_iff {index : Nat} : HasAt lookup decl name (index + 1) sighting ↔
    ∃ parent, parent? lookup decl = some parent ∧ HasAt lookup parent name index sighting := by
  simp only [HasAt, ancestor?_succ, Option.bind_eq_some_iff]
  constructor
  · rintro ⟨ancestor, ⟨parent, hparent, hancestor⟩, hhas⟩
    exact ⟨parent, hparent, ancestor, hancestor, hhas⟩
  · rintro ⟨parent, hparent, ancestor, hancestor, hhas⟩
    exact ⟨ancestor, ⟨parent, hparent, hancestor⟩, hhas⟩

theorem firstAt_zero_iff :
    FirstAt lookup decl name 0 sighting ↔ near lookup decl name = some sighting := by
  simp [FirstAt, hasAt_zero_iff]

theorem firstAt_succ_iff {index : Nat} : FirstAt lookup decl name (index + 1) sighting ↔
    near lookup decl name = none ∧
      ∃ parent, parent? lookup decl = some parent ∧ FirstAt lookup parent name index sighting := by
  constructor
  · rintro ⟨hhas, hbelow⟩
    obtain ⟨parent, hparent, hhas⟩ := hasAt_succ_iff.mp hhas
    refine ⟨?_, parent, hparent, hhas, ?_⟩
    · rw [Option.eq_none_iff_forall_ne_some]
      intro other hnear
      exact hbelow 0 (Nat.succ_pos index) other (hasAt_zero_iff.mpr hnear)
    · intro below hless other hother
      exact hbelow (below + 1) (by omega) other (hasAt_succ_iff.mpr ⟨parent, hparent, hother⟩)
  · rintro ⟨hnear, parent, hparent, hhas, hbelow⟩
    refine ⟨hasAt_succ_iff.mpr ⟨parent, hparent, hhas⟩, ?_⟩
    intro below hless other hother
    cases below with
    | zero =>
      rw [hasAt_zero_iff, hnear] at hother
      cases hother
    | succ below =>
      obtain ⟨parent', hparent', hother⟩ := hasAt_succ_iff.mp hother
      obtain rfl := Option.some.inj (hparent.symm.trans hparent')
      exact hbelow below (by omega) other hother

/-- The search in so many steps finds what the first type of the chain has, unless this stands further
up. -/
theorem reached_eq_some_iff {steps : Nat} : reached lookup name steps decl = some sighting ↔
    ∃ index ≤ steps, FirstAt lookup decl name index sighting := by
  induction steps generalizing decl with
  | zero => simp only [Nat.le_zero, exists_eq_left, firstAt_zero_iff]; rfl
  | succ steps ih =>
    rw [reached_succ, Option.or_eq_some_iff, ← firstAt_zero_iff]
    constructor
    · rintro (hfirst | ⟨hnear, habove⟩)
      · exact ⟨0, Nat.zero_le _, hfirst⟩
      · rw [← Option.bind_assoc] at habove
        obtain ⟨parent, hparent, hreached⟩ := Option.bind_eq_some_iff.mp habove
        obtain ⟨index, hindex, hfirst⟩ := ih.mp hreached
        exact ⟨index + 1, by omega, firstAt_succ_iff.mpr ⟨hnear, parent, hparent, hfirst⟩⟩
    · rintro ⟨index, hindex, hfirst⟩
      cases index with
      | zero => exact .inl hfirst
      | succ index =>
        obtain ⟨hnear, parent, hparent, hfirst⟩ := firstAt_succ_iff.mp hfirst
        refine .inr ⟨hnear, ?_⟩
        rw [← Option.bind_assoc]
        exact Option.bind_eq_some_iff.mpr ⟨parent, hparent, ih.mpr ⟨index, by omega, hfirst⟩⟩

/-- A chain in which some type has the method has a first one that does. -/
theorem HasAt.exists_firstAt {index : Nat} (h : HasAt lookup decl name index sighting) :
    ∃ first ≤ index, ∃ other, FirstAt lookup decl name first other := by
  induction index using Nat.strongRecOn generalizing sighting with
  | ind index ih =>
    by_cases hbelow : ∃ below < index, ∃ other, HasAt lookup decl name below other
    · obtain ⟨below, hless, other, hother⟩ := hbelow
      obtain ⟨first, hfirst, hfound⟩ := ih below hless hother
      exact ⟨first, by omega, hfound⟩
    · refine ⟨index, Nat.le_refl index, sighting, h, ?_⟩
      intro below hless other hother
      exact hbelow ⟨below, hless, other, hother⟩

/-- Nothing is found exactly when none of the types has the method that can be reached. -/
theorem reached_eq_none_iff {steps : Nat} : reached lookup name steps decl = none ↔
    ∀ index ≤ steps, ∀ other, ¬HasAt lookup decl name index other := by
  rw [Option.eq_none_iff_forall_ne_some]
  constructor
  · intro hnone index hindex other hother
    obtain ⟨first, hless, found, hfirst⟩ := hother.exists_firstAt
    exact hnone found (reached_eq_some_iff.mpr ⟨first, by omega, hfirst⟩)
  · intro hnone found hreached
    obtain ⟨index, hindex, hfirst⟩ := reached_eq_some_iff.mp hreached
    exact hnone index hindex found hfirst.1

/-! ## Chains of few types -/

/-- A chain stays among types that lead to each other. -/
theorem mem_of_ancestor? {types : List Declaration} (hdecl : decl ∈ types)
    (hclosed : ∀ one ∈ types, ∀ parent, parent? lookup one = some parent → parent ∈ types)
    {index : Nat} {ancestor : Declaration} (h : ancestor? lookup decl index = some ancestor) :
    ancestor ∈ types := by
  induction index generalizing ancestor with
  | zero =>
    obtain rfl := Option.some.inj h
    exact hdecl
  | succ index ih =>
    obtain ⟨below, hbelow, hparent⟩ := Option.bind_eq_some_iff.mp h
    exact hclosed below (ih hbelow) ancestor hparent

/-- Among the first places of a chain, one more than there are types in it, two have the same type. -/
theorem exists_repeated {types : List Declaration}
    (htypes : ∀ place ≤ types.length, ∃ one ∈ types, ancestor? lookup decl place = some one) :
    ∃ early late, early < late ∧ late ≤ types.length ∧
      ancestor? lookup decl early = ancestor? lookup decl late := by
  have hcard : types.toFinset.card < (Finset.range (types.length + 1)).card := by
    rw [Finset.card_range]
    have := types.toFinset_card_le
    omega
  have hmaps : Set.MapsTo (fun place => (ancestor? lookup decl place).getD decl)
      (Finset.range (types.length + 1)) types.toFinset := by
    intro place hplace
    obtain ⟨one, hone, hplaced⟩ := htypes place (by simpa [Nat.lt_succ_iff] using hplace)
    simpa [hplaced] using hone
  obtain ⟨first, hfirst, second, hsecond, hne, hsame⟩ :=
    Finset.exists_ne_map_eq_of_card_lt_of_maps_to hcard hmaps
  rw [Finset.mem_range, Nat.lt_succ_iff] at hfirst hsecond
  -- the places hold types, so the values are those of the places
  obtain ⟨one, -, hone⟩ := htypes first hfirst
  obtain ⟨other, -, hother⟩ := htypes second hsecond
  have heq : ancestor? lookup decl first = ancestor? lookup decl second := by
    simp only [hone, hother, Option.getD_some] at hsame ⊢
    rw [hsame]
  rcases Nat.lt_or_gt_of_ne hne with hless | hless
  · exact ⟨first, second, hless, hsecond, heq⟩
  · exact ⟨second, first, hless, hfirst, heq.symm⟩

/-- Every type of a chain stands among its first places, as many as there are types in it. -/
theorem exists_ancestor?_eq {types : List Declaration}
    (htypes : ∀ index ancestor, ancestor? lookup decl index = some ancestor → ancestor ∈ types)
    {index : Nat} {ancestor : Declaration} (h : ancestor? lookup decl index = some ancestor) :
    ∃ early < types.length, ancestor? lookup decl early = some ancestor := by
  induction index using Nat.strongRecOn with
  | ind index ih =>
    by_cases hshort : index < types.length
    · exact ⟨index, hshort, h⟩
    · have hknown : ∀ place ≤ types.length,
          ∃ one ∈ types, ancestor? lookup decl place = some one := by
        intro place hplace
        have hsplit : ancestor? lookup decl (place + (index - place)) = _ := ancestor?_add decl _ _
        rw [Nat.add_sub_cancel' (by omega), h] at hsplit
        obtain ⟨one, hone, -⟩ := Option.bind_eq_some_iff.mp hsplit.symm
        exact ⟨one, htypes place one hone, hone⟩
      obtain ⟨early, late, hless, hlate, hsame⟩ := exists_repeated hknown
      -- from the repeated type on the chain goes on in the same way
      have hback : ancestor? lookup decl (early + (index - late)) = some ancestor := by
        rw [ancestor?_add, hsame, ← ancestor?_add, Nat.add_sub_cancel' (by omega), h]
      exact ih (early + (index - late)) (by omega) hback

end Ancestry

/-! ## Sources -/

variable {σ : Type}

/-- Whatever asking does to its world, the source answers as `lookup` says. -/
def Source.Gives (source : Source σ) (lookup : String → Except Fault Declaration) : Prop :=
  ∀ name world, (source.lookup name world).value.1 = lookup name

/-- An act that gives the value of quiet work, whatever it does to its world. -/
def Correspondence.giving : Correspondence (StateT σ Noted) Id where
  holds x y := ∀ world, (x world).value.1 = Id.run y
  done _ := fun _ => rfl
  next := by
    intro α β x y f g hx hf world
    have hthen := hf (Id.run y) (x world).value.2
    rw [← hx world] at hthen
    rw [Id.run_bind, ← hx world]
    exact hthen

/-- The search over such a source finds what it finds over the function. -/
theorem Source.Gives.find {source : Source σ} {lookup : String → Except Fault Declaration}
    (h : source.Gives lookup) (type name : String) (world : σ) :
    (Ancestry.find source.lookup type name world).value.1 = Ancestry.findIn lookup type name := by
  have hlookup : ∀ asked, Correspondence.giving.holds (source.lookup asked)
      (Ancestry.quiet lookup asked) := h
  exact Ancestry.find_corresponds Correspondence.giving hlookup type name world

/-- The source gives this declaration in answer to some question. -/
def Source.HandsOut (source : Source σ) (decl : Declaration) : Prop :=
  ∃ name world, (source.lookup name world).value.1 = .ok decl

/-! ## How much is asked -/

/-- The act asks a watched source for declarations only: so many times, and besides at most once for
each trait of so many types that the source hands out. -/
def Source.Searches {α : Type} (source : Source σ) (act : Act (Watched σ) α) (lookups stations : Nat) :
    Prop :=
  ∀ before, ∃ (names : List String) (types : List Declaration),
    (act before).value.2.calls = before.calls ++ names.map Call.declaration ∧
      (∀ decl ∈ types, source.HandsOut decl) ∧ types.length ≤ stations ∧
      names.length ≤ lookups + (types.flatMap Declaration.traits).length

namespace Source.Searches

variable {α β : Type} {source : Source σ}

theorem done (a : α) (lookups stations : Nat) :
    source.Searches (pure a : Act (Watched σ) α) lookups stations := by
  intro before
  exact ⟨[], [], by simp, by simp, Nat.zero_le _, Nat.zero_le _⟩

theorem next {act : Act (Watched σ) α} {rest : α → Act (Watched σ) β} {a b c d : Nat}
    (hact : source.Searches act a b)
    (hrest : ∀ answer, (∃ before, (act before).value.1 = answer) → source.Searches (rest answer) c d) :
    source.Searches (act >>= rest) (a + c) (b + d) := by
  intro before
  obtain ⟨names, types, hcalls, hgiven, hstations, hlookups⟩ := hact before
  obtain ⟨names', types', hcalls', hgiven', hstations', hlookups'⟩ :=
    hrest (act before).value.1 ⟨before, rfl⟩ (act before).value.2
  refine ⟨names ++ names', types ++ types', ?_, ?_, ?_, ?_⟩
  · rw [List.map_append, ← List.append_assoc, ← hcalls]
    exact hcalls'
  · intro decl hdecl
    rcases List.mem_append.mp hdecl with hfirst | hsecond
    · exact hgiven decl hfirst
    · exact hgiven' decl hsecond
  · rw [List.length_append]
    omega
  · rw [List.length_append, List.flatMap_append, List.length_append]
    omega

theorem mono {act : Act (Watched σ) α} {a b c d : Nat} (h : source.Searches act a b) (hlookups : a ≤ c)
    (hstations : b ≤ d) : source.Searches act c d := by
  intro before
  obtain ⟨names, types, hcalls, hgiven, hfew, hbound⟩ := h before
  exact ⟨names, types, hcalls, hgiven, by omega, by omega⟩

theorem lookup (name : String) : source.Searches (source.watched.lookup name) 1 0 := by
  intro before
  exact ⟨[name], [], rfl, by simp, Nat.le_refl _, by simp⟩

theorem amongTraits (name : String) (traits : List String) :
    source.Searches (Ancestry.amongTraits source.watched.lookup name traits) traits.length 0 := by
  induction traits with
  | nil => exact done none 0 0
  | cons first others ih =>
    rw [Ancestry.amongTraits, List.length_cons]
    apply mono (a := 1 + others.length) (b := 0 + 0) _ (by omega) (by omega)
    apply next (lookup first)
    intro answer _
    cases answer with
    | error fault => exact ih
    | ok decl =>
      dsimp only
      cases Ancestry.own? decl name with
      | none => exact ih
      | some sighting => exact done _ _ _

/-- On a type that the source handed out, each of its traits is looked up at most once. -/
theorem onType {decl : Declaration} (hdecl : source.HandsOut decl) (name : String) :
    source.Searches (Ancestry.onType source.watched.lookup decl name) 0 1 := by
  rw [Ancestry.onType]
  cases Ancestry.own? decl name with
  | some sighting => exact done _ _ _
  | none =>
    intro before
    obtain ⟨names, types, hcalls, hgiven, hfew, hbound⟩ := amongTraits name decl.traits before
    refine ⟨names, decl :: types, hcalls, ?_, ?_, ?_⟩
    · exact List.forall_mem_cons.mpr ⟨hdecl, hgiven⟩
    · rw [List.length_cons]
      omega
    · rw [List.flatMap_cons, List.length_append]
      omega

theorem climb {decl : Declaration} (hdecl : source.HandsOut decl) (name : String) (steps : Nat) :
    source.Searches (Ancestry.climb source.watched.lookup name steps decl) steps (steps + 1) := by
  induction steps generalizing decl with
  | zero => exact onType hdecl name
  | succ steps ih =>
    rw [Ancestry.climb]
    apply mono (a := 0 + (1 + steps)) (b := 1 + (0 + (steps + 1))) _ (by omega) (by omega)
    apply next (onType hdecl name)
    intro found _
    cases found with
    | some sighting => exact done _ _ _
    | none =>
      dsimp only
      cases decl.parent with
      | none => exact done _ _ _
      | some parent =>
        apply next (lookup parent)
        rintro answer ⟨before, hanswer⟩
        cases answer with
        | error fault => exact done _ _ _
        | ok ancestor => exact ih ⟨parent, before.world, hanswer⟩

/-- A search looks at 65 types at most, and on each of these at its traits. -/
theorem find (type name : String) :
    source.Searches (Ancestry.find source.watched.lookup type name) 65 65 := by
  rw [Ancestry.find]
  apply mono (a := 1 + (64 + 0)) (b := 0 + (65 + 0)) _ (by omega) (by omega)
  apply next (lookup type)
  rintro answer ⟨before, hanswer⟩
  cases answer with
  | error fault => exact done _ _ _
  | ok decl =>
    apply next (climb ⟨type, before.world, hanswer⟩ name Ancestry.limit)
    intro found _
    exact done _ _ _

end Source.Searches

namespace Ancestry

/-- The search for a method ends after it has stood on 65 types at most, whatever the source does.  If
the source answers the same question in the same way each time, the search fails when and as the
look-up of the type itself fails; otherwise it finds what the first type of the chain has, if that is
one of the first 65, and nothing if none of these has the method.  In a chain made of 65 types at most,
be it closed, it finds what the first type of all has. -/
theorem find_first (source : Source σ) (type name : String) :
    source.Searches (find source.watched.lookup type name) 65 65 ∧
      ∀ lookup, source.Gives lookup → ∀ world,
        (∀ fault, (find source.lookup type name world).value.1 = .error fault ↔
          lookup type = .error fault) ∧
        ∀ decl, lookup type = .ok decl →
          (∀ sighting, (find source.lookup type name world).value.1 = .ok (some sighting) ↔
            ∃ index ≤ 64, FirstAt lookup decl name index sighting) ∧
          ((find source.lookup type name world).value.1 = .ok none ↔
            ∀ index ≤ 64, ∀ other, ¬HasAt lookup decl name index other) ∧
          ∀ types : List Declaration, types.length ≤ 65 →
            (∀ index ancestor, ancestor? lookup decl index = some ancestor → ancestor ∈ types) →
            ((find source.lookup type name world).value.1 = .ok none ↔
              ∀ index other, ¬HasAt lookup decl name index other) ∧
            ∀ sighting, (find source.lookup type name world).value.1 = .ok (some sighting) ↔
              ∃ index, FirstAt lookup decl name index sighting := by
  refine ⟨Source.Searches.find type name, ?_⟩
  intro lookup hgives world
  rw [hgives.find type name world]
  constructor
  · intro fault
    cases hdecl : lookup type with
    | error other => rw [findIn_of_error hdecl, Except.error.injEq, Except.error.injEq]
    | ok decl => simp [findIn_of_ok hdecl]
  intro decl hdecl
  rw [findIn_of_ok hdecl]
  simp only [Except.ok.injEq]
  have hsome : ∀ sighting, reached lookup name limit decl = some sighting ↔
      ∃ index ≤ 64, FirstAt lookup decl name index sighting := fun _ => reached_eq_some_iff
  have hnone : reached lookup name limit decl = none ↔
      ∀ index ≤ 64, ∀ other, ¬HasAt lookup decl name index other := reached_eq_none_iff
  refine ⟨hsome, hnone, ?_⟩
  intro types hfew htypes
  -- whatever stands in the chain stands in its beginning
  have hearly : ∀ index other, HasAt lookup decl name index other →
      ∃ early ≤ 64, ∃ found, FirstAt lookup decl name early found := by
    rintro index other ⟨ancestor, hancestor, hhas⟩
    obtain ⟨early, hless, hplaced⟩ := exists_ancestor?_eq htypes hancestor
    have hthere : HasAt lookup decl name early other := ⟨ancestor, hplaced, hhas⟩
    obtain ⟨first, hfirst, found, hfound⟩ := hthere.exists_firstAt
    exact ⟨first, by omega, found, hfound⟩
  constructor
  · rw [hnone]
    constructor
    · intro hlacks index other hother
      obtain ⟨early, hless, found, hfound⟩ := hearly index other hother
      exact hlacks early hless found hfound.1
    · intro hlacks index _ other
      exact hlacks index other
  · intro sighting
    rw [hsome]
    constructor
    · rintro ⟨index, -, hfirst⟩
      exact ⟨index, hfirst⟩
    · rintro ⟨index, hfirst⟩
      obtain ⟨early, hless, found, hfound⟩ := hearly index sighting hfirst.1
      refine ⟨index, ?_, hfirst⟩
      -- the first place of all is no later than any other
      by_contra hlate
      exact hfirst.2 early (by omega) found hfound.1

/-- The class `A` uses an unknown trait and the trait `T`, and it and the class `B` extend each other. -/
def loopFamily (name : String) : Except Fault Declaration :=
  if name = "A" then
    .ok (((Declaration.empty "A" .classKind).mixing "Ghost").mixing "T" |>.extending "B")
  else if name = "B" then
    .ok (((Declaration.empty "B" .classKind).extending "A").addMethod (.empty "store"))
  else if name = "T" then .ok ((Declaration.empty "T" .traitKind).addMethod (.empty "Load"))
  else .error (.unknownType name)

/-- The source of that family counts what it is asked. -/
def loopSource : Source Nat :=
  ⟨fun name asked => ⟨(loopFamily name, asked + 1), []⟩, fun _ => 4⟩

/-- From `B` on the method of the trait that `A` uses is found, and what no type of the circle has is
not found. -/
theorem find_of_loopFamily :
    ∃ decl, loopSource.Gives loopFamily ∧ loopFamily "B" = .ok decl ∧
      (find loopSource.lookup "B" "LOAD" 7).value = (.ok (some ⟨"T", .empty "Load"⟩), 11) ∧
      (∃ index ≤ 64, FirstAt loopFamily decl "LOAD" index ⟨"T", .empty "Load"⟩) ∧
      (find loopSource.lookup "B" "drop" 7).value.1 = .ok none ∧
      ∀ index other, ¬HasAt loopFamily decl "drop" index other := by
  have hgives : loopSource.Gives loopFamily := fun _ _ => rfl
  obtain ⟨decl, hdecl⟩ : ∃ decl, loopFamily "B" = .ok decl := ⟨_, rfl⟩
  obtain ⟨above, habove⟩ : ∃ above, loopFamily "A" = .ok above := ⟨_, rfl⟩
  have hload : (find loopSource.lookup "B" "LOAD" 7).value = (.ok (some ⟨"T", .empty "Load"⟩), 11) := by
    decide +kernel
  have hdrop : (find loopSource.lookup "B" "drop" 7).value.1 = .ok none := by decide +kernel
  have hclosed : ∀ one ∈ [decl, above], ∀ parent,
      parent? loopFamily one = some parent → parent ∈ [decl, above] := by
    have hdown : (loopFamily "B").toOption.bind (parent? loopFamily) =
        (loopFamily "A").toOption := by decide +kernel
    have hup : (loopFamily "A").toOption.bind (parent? loopFamily) =
        (loopFamily "B").toOption := by decide +kernel
    simp only [hdecl, habove, Except.toOption, Option.bind_some] at hdown hup
    simp [hdown, hup]
  obtain ⟨-, hloads⟩ := find_first loopSource "B" "LOAD"
  obtain ⟨-, hdrops⟩ := find_first loopSource "B" "drop"
  obtain ⟨-, hfound⟩ := hloads loopFamily hgives 7
  obtain ⟨-, hlost⟩ := hdrops loopFamily hgives 7
  obtain ⟨-, -, hcircle⟩ := hlost decl hdecl
  have hnowhere := (hcircle [decl, above] (by simp) fun index ancestor hancestor =>
    mem_of_ancestor? List.mem_cons_self hclosed hancestor).1
  refine ⟨decl, hgives, hdecl, hload, ?_, hdrop, hnowhere.mp hdrop⟩
  exact ((hfound decl hdecl).1 _).mp (congrArg Prod.fst hload)

/-- The name of a floor of a tower, one character. -/
def floorName (floor : Nat) : String := String.ofList [Char.ofNat (0x4e00 + floor)]

/-- A class for each floor has a method of its own name, and the next floor for a parent. -/
def towerFamily (name : String) : Except Fault Declaration :=
  match name.toList with
  | [c] => .ok (((Declaration.empty name .classKind).extending
      (floorName (c.toNat - 0x4e00 + 1))).addMethod (.empty name))
  | _ => .error (.unknownType name)

example : findIn towerFamily (floorName 0) (floorName 64) =
      .ok (some ⟨floorName 64, .empty (floorName 64)⟩) ∧
    findIn towerFamily (floorName 0) (floorName 65) = .ok none := by
  decide +kernel

end Ancestry

end Interception
