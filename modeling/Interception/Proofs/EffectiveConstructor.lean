import Interception.Proofs.WovenConstructor

/-!
# The constructor a class really has

The constructor that a class has is found on the class, on the traits it uses or further up.  Weaving
looks on the class itself and then at what it inherits.  Main statement: the two agree, so that the
woven constructor takes what the class takes, except for a class whose constructor comes from a trait
that it uses; there the made constructor stands in front of the other one.
-/

namespace Interception

open Name Text

/-! ## What the class has and what it inherits -/

section

variable {lookup : String → Except Fault Declaration} {decl : Declaration} {sighting : Sighting}

/-- A class inherits what is found from its parent on, whether the parent declares it or not. -/
theorem Inheritance.parameters_of_findIn {parent : String} (hparent : decl.parent = some parent)
    (hfound : Ancestry.findIn lookup parent constructorName = .ok (some sighting)) :
    (find lookup decl).parameters =
      (sighting.method.movedTo sighting.owner decl.space).parameters := by
  unfold find
  rw [hparent]
  cases hancestor : lookup parent with
  | error fault =>
    rw [Ancestry.findIn_of_error hancestor] at hfound
    cases hfound
  | ok ancestor =>
    cases hctor : ancestor.constructor? with
    | none =>
      simp only [hancestor, hctor, hfound]
      rfl
    | some ctor =>
      -- the search ends at the parent, whose constructor is inherited directly
      rw [Ancestry.findIn_of_method hancestor (ancestor.constructor?_eq ▸ hctor)] at hfound
      simp only [hancestor, hctor]
      cases hfound
      rfl

/-- The class has no constructor of its own, but one of the traits that it uses has. -/
def Declaration.MixesIn (lookup : String → Except Fault Declaration) (decl : Declaration) : Prop :=
  decl.constructor? = none ∧
    ∃ trait ∈ decl.traits, ∃ mixin, lookup trait = .ok mixin ∧ mixin.constructor? ≠ none

/-- The woven class has a constructor: its own, or the one made for what it inherits. -/
theorem Declaration.wovenType_constructor (lookup : String → Except Fault Declaration)
    (advice : List Advice) (settings : WeaveSettings) (hkind : decl.kind = .classKind) :
    ∃ node, (decl.wovenType lookup advice settings).method? constructorName = some node ∧
      node.parameters = match decl.constructor? with
        | some ctor => ctor.parameters
        | none => (Inheritance.find lookup decl).parameters := by
  have hlacks : decl.lacksConstructor = decl.constructor?.isNone := by
    rw [lacksConstructor, hkind]
    rfl
  rw [WovenType.method?, wovenType_methods, hlacks]
  cases hctor : decl.constructor? with
  | none =>
    refine ⟨(Inheritance.find lookup decl).synthesized, ?_, rfl⟩
    rw [Option.isNone_none, if_pos rfl, List.singleton_append]
    exact List.find?_cons_of_pos (sameLetters_refl constructorName)
  | some ctor =>
    -- treating a method leaves its name, so the first constructor stays the first
    have hname : ((fun node : WovenMethod => sameLetters node.name constructorName) ∘
        fun method => Method.treated decl.kind advice method) = Method.isConstructor := by
      funext method
      exact congrArg (sameLetters · constructorName)
        (method.treated_keepsSignature decl.kind advice).name
    refine ⟨ctor.treated decl.kind advice, ?_, (ctor.treated_keepsSignature _ _).parameters⟩
    rw [Option.isNone_some, if_neg Bool.false_ne_true, List.nil_append, List.find?_map, hname]
    rw [constructor?] at hctor
    rw [hctor, Option.map_some]

/-- There is one way to inherit. -/
theorem Declaration.Inherits.parameters_eq {parameters : List Parameter} {call : List Stmt}
    (h : decl.Inherits lookup parameters call) :
    (Inheritance.find lookup decl).parameters = parameters := by
  unfold Inheritance.find
  cases h with
  | alone halone => rw [halone]; rfl
  | direct hname hparent hctor hparameters =>
    simp only [hname, hparent, hctor]
    exact Method.readsIn_iff.1 hparameters
  | found hname hparent hctor hfound hparameters =>
    simp only [hname, hparent, hctor, hfound]
    exact Method.readsIn_iff.1 hparameters
  | missing hname hparent hctor hmissing => simp only [hname, hparent, hctor, hmissing]; rfl
  | unknown hname hparent => simp only [hname, hparent]; rfl

/-- Without a constructor of its own and without one from a trait, there is none near a class. -/
theorem Ancestry.near_constructor (hctor : decl.constructor? = none)
    (hmixes : ¬decl.MixesIn lookup) : near lookup decl constructorName = none := by
  rw [near_eq_none_iff, ← decl.constructor?_eq]
  refine ⟨hctor, fun trait htrait mixin hmixin => ?_⟩
  by_contra hsome
  exact hmixes ⟨hctor, trait, htrait, mixin, hmixin, hsome⟩

end

/-- The constructor of a woven class takes what the constructor that the class really has takes,
unless that one comes from a trait that the class uses.  Then it takes what the class would inherit
without the trait, which is the same only by chance. -/
theorem weave_constructor_iff {lookup : String → Except Fault Declaration}
    {advising : List String → List Advice} {settings : WeaveSettings} {name : String}
    {proxy : Proxy} {decl : Declaration} {sighting : Sighting}
    (h : weave lookup advising settings name = .ok proxy) (hdecl : lookup name = .ok decl)
    (hkind : decl.kind = .classKind)
    (hfound : Ancestry.findIn lookup name constructorName = .ok (some sighting)) :
    (∃ node, proxy.file.type.method? constructorName = some node ∧
      sighting.method.ReadsIn sighting.owner decl.space node.parameters) ↔
    (decl.MixesIn lookup → ∃ parameters call, decl.Inherits lookup parameters call ∧
      sighting.method.ReadsIn sighting.owner decl.space parameters) := by
  obtain ⟨_, hother, -, rfl⟩ := weave_eq_ok_iff.1 h
  obtain rfl := Except.ok.inj (hdecl.symm.trans hother)
  obtain ⟨node, hnode, hparameters⟩ :=
    Declaration.wovenType_constructor lookup (decl.applicable advising) settings hkind
  have hwoven : (∃ node, (decl.wovenType lookup (decl.applicable advising) settings).method?
        constructorName = some node ∧ sighting.method.ReadsIn sighting.owner decl.space node.parameters) ↔
      (sighting.method.movedTo sighting.owner decl.space).parameters = node.parameters := by
    rw [hnode]
    simp [Method.readsIn_iff]
  refine hwoven.trans ?_
  cases hctor : decl.constructor? with
  | some ctor =>
    -- the constructor is the class's own, and stays in its namespace
    rw [Ancestry.findIn_of_method hdecl (decl.constructor?_eq ▸ hctor)] at hfound
    obtain rfl := Option.some.inj (Except.ok.inj hfound)
    rw [hctor] at hparameters
    have hsame : (ctor.movedTo decl.name decl.space).parameters = ctor.parameters := by
      rw [Method.movedTo, if_pos (show namespaceOf decl.name = decl.space from rfl)]
    refine iff_of_true (hsame.trans hparameters.symm) fun hmixes => ?_
    rw [hmixes.1] at hctor
    cases hctor
  | none =>
    rw [hctor] at hparameters
    by_cases hmixes : decl.MixesIn lookup
    · rw [hparameters]
      constructor
      · intro hsame _
        exact ⟨_, _, Inheritance.find_inherits lookup decl, Method.readsIn_iff.2 hsame⟩
      · intro hchance
        obtain ⟨parameters, call, hinherits, hreads⟩ := hchance hmixes
        rw [hinherits.parameters_eq]
        exact Method.readsIn_iff.1 hreads
    · -- the search from the class and the search from its parent end at the same constructor
      obtain ⟨parent, hparent, habove⟩ := Ancestry.findIn_parent hdecl hfound
        (Ancestry.near_constructor hctor hmixes)
      refine iff_of_true ?_ fun hmixes' => absurd hmixes' hmixes
      rw [hparameters, Inheritance.parameters_of_findIn hparent habove]

/-- The constructor made for a class without traits takes what the one of its parent takes. -/
theorem weave_constructor_of_clockFamily :
    ∃ proxy decl sighting, weave clockFamily Registry.empty.applicable .standard "A" = .ok proxy ∧
      clockFamily "A" = .ok decl ∧ decl.kind = .classKind ∧
      Ancestry.findIn clockFamily "A" constructorName = .ok (some sighting) ∧
      ∃ node, proxy.file.type.method? constructorName = some node ∧
        sighting.method.ReadsIn sighting.owner decl.space node.parameters := by
  have hwoven : weave clockFamily Registry.empty.applicable .standard "A" = .ok _ :=
    weave_eq_ok_iff.2 ⟨_, rfl, by decide +kernel, rfl⟩
  refine ⟨_, _, ⟨"B\\P", _⟩, hwoven, rfl, rfl, rfl, ?_⟩
  refine (weave_constructor_iff hwoven rfl rfl rfl).2 fun hmixes => ?_
  obtain ⟨-, trait, htrait, -⟩ := hmixes
  exact absurd htrait List.not_mem_nil

/-- A class `A` that has its constructor from the trait `T`. -/
def mixingFamily (name : String) : Except Fault Declaration :=
  if name = "T" then
    .ok ((Declaration.empty "T" .traitKind).addMethod
      (((Method.empty "__construct").addParameter (.typed "id" "int")).addStatement
        "$this->id = $id;"))
  else .ok ((Declaration.empty "A" .classKind).mixing "T")

/-- The search finds the constructor of the trait, but the woven class has one that takes nothing. -/
theorem weave_constructor_of_mixingFamily :
    ∃ proxy decl sighting, weave mixingFamily Registry.empty.applicable .standard "A" = .ok proxy ∧
      mixingFamily "A" = .ok decl ∧ decl.kind = .classKind ∧
      Ancestry.findIn mixingFamily "A" constructorName = .ok (some sighting) ∧
      sighting.method.parameters = [.typed "id" "int"] ∧
      ¬∃ node, proxy.file.type.method? constructorName = some node ∧
        sighting.method.ReadsIn sighting.owner decl.space node.parameters := by
  refine ⟨_, _, ⟨"T", _⟩, weave_eq_ok_iff.2 ⟨_, rfl, by decide +kernel, rfl⟩, rfl, rfl, rfl, rfl, ?_⟩
  rintro ⟨node, hnode, hreads⟩
  have hnone : node.parameters = [] := by
    have hmade : some node = some Inheritance.noParent.synthesized := hnode.symm.trans rfl
    rw [Option.some.inj hmade]
    rfl
  rw [hnone] at hreads
  cases hreads

end Interception
