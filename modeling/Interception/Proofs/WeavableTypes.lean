import Interception.Proxy.Weave

/-!
# Which types can be woven

A type is woven from its declaration, and besides that its ancestors and the advice on it are looked up.
Main statement: only the declaration decides whether there is a proxy.  There is none exactly if the
source has no declaration, whose fault is then the outcome, or if something in the declaration stands
in the way; what the source says of other types, and what advice there is, makes no difference.
-/

namespace Interception

open Text

/-- A method can stand in any type if it is not both abstract and with a body, and if it is not a static
constructor. -/
theorem Method.obstacle?_eq_none_iff {method : Method} :
    method.obstacle? = none ↔ (method.isAbstract = true → method.body = none) ∧
      (method.isConstructor = true → method.isStatic = false) := by
  have hbody : (method.isAbstract && method.hasBody) = false ↔
      (method.isAbstract = true → method.body = none) := by
    simp [hasBody]
  have hstatic : (method.isConstructor && method.isStatic) = false ↔
      (method.isConstructor = true → method.isStatic = false) := by
    simp
  rw [← hbody, ← hstatic, obstacle?]
  cases method.isAbstract && method.hasBody <;> cases method.isConstructor && method.isStatic <;> simp

namespace Declaration

variable {decl : Declaration}

/-! ## What goes with the kind of a type -/

theorem kindObstacle?_of_interface (hkind : decl.kind = .interfaceKind) :
    decl.kindObstacle? = none ↔ decl.parent = none ∧ decl.traits = [] ∧ decl.properties = [] ∧
      ∀ method ∈ decl.methods, method.body = none := by
  rw [kindObstacle?, hkind]
  by_cases hparent : decl.parent = none
  · by_cases htraits : decl.traits = []
    · by_cases hproperties : decl.properties = []
      · simp [hparent, htraits, hproperties, Method.hasBody]
      · simp [hparent, htraits, hproperties]
    · simp [hparent, htraits]
  · simp [hparent, Option.isSome_iff_ne_none]

theorem kindObstacle?_of_trait (hkind : decl.kind = .traitKind) :
    decl.kindObstacle? = none ↔ decl.parent = none ∧ decl.interfaces = [] := by
  rw [kindObstacle?, hkind]
  simp

theorem kindObstacle?_of_class (hkind : decl.kind = .classKind) :
    decl.kindObstacle? = none ↔
      decl.isAbstract = true ∨ ∀ method ∈ decl.methods, method.isAbstract = false := by
  rw [kindObstacle?, hkind]
  by_cases hclass : decl.isAbstract = true
  · simp [hclass]
  · simp [hclass]

/-! ## What stands in the way of a proxy -/

/-- Something in the declaration keeps the type from being woven. -/
inductive Obstructed (decl : Declaration) : Prop where
  | parentOfInterface (hkind : decl.kind = .interfaceKind) (hparent : decl.parent ≠ none)
  | traitInInterface (hkind : decl.kind = .interfaceKind) (htraits : decl.traits ≠ [])
  | propertyOfInterface (hkind : decl.kind = .interfaceKind) (hproperties : decl.properties ≠ [])
  | bodyInInterface (hkind : decl.kind = .interfaceKind) {method : Method}
    (hmethod : method ∈ decl.methods) (hbody : method.body ≠ none)
  | parentOfTrait (hkind : decl.kind = .traitKind) (hparent : decl.parent ≠ none)
  | interfaceOfTrait (hkind : decl.kind = .traitKind) (hinterfaces : decl.interfaces ≠ [])
  | abstractInConcrete (hkind : decl.kind = .classKind) (hconcrete : decl.isAbstract = false)
    {method : Method} (hmethod : method ∈ decl.methods) (habstract : method.isAbstract = true)
  /-- In a type of any kind, an abstract method has a body. -/
  | abstractWithBody {method : Method} (hmethod : method ∈ decl.methods)
    (habstract : method.isAbstract = true) (hbody : method.body ≠ none)
  /-- In a type of any kind, a constructor is static, in whatever case its name is written. -/
  | staticConstructor {method : Method} (hmethod : method ∈ decl.methods)
    (hname : sameLetters method.name "__construct" = true) (hstatic : method.isStatic = true)

theorem Obstructed.obstacle?_ne_none (h : decl.Obstructed) : decl.obstacle? ≠ none := by
  rw [obstacle?, ne_eq, Option.or_eq_none_iff, List.findSome?_eq_none_iff]
  simp only [Method.obstacle?_eq_none_iff]
  rintro ⟨hkinds, hmethods⟩
  cases h with
  | parentOfInterface hkind hparent =>
    exact hparent ((kindObstacle?_of_interface hkind).1 hkinds).1
  | traitInInterface hkind htraits =>
    exact htraits ((kindObstacle?_of_interface hkind).1 hkinds).2.1
  | propertyOfInterface hkind hproperties =>
    exact hproperties ((kindObstacle?_of_interface hkind).1 hkinds).2.2.1
  | bodyInInterface hkind hmethod hbody =>
    exact hbody (((kindObstacle?_of_interface hkind).1 hkinds).2.2.2 _ hmethod)
  | parentOfTrait hkind hparent => exact hparent ((kindObstacle?_of_trait hkind).1 hkinds).1
  | interfaceOfTrait hkind hinterfaces =>
    exact hinterfaces ((kindObstacle?_of_trait hkind).1 hkinds).2
  | abstractInConcrete hkind hconcrete hmethod habstract =>
    rcases (kindObstacle?_of_class hkind).1 hkinds with hclass | hnone
    · exact Bool.eq_false_iff.1 hconcrete hclass
    · exact Bool.eq_false_iff.1 (hnone _ hmethod) habstract
  | abstractWithBody hmethod habstract hbody => exact hbody ((hmethods _ hmethod).1 habstract)
  | staticConstructor hmethod hname hstatic =>
    exact Bool.eq_false_iff.1 ((hmethods _ hmethod).2 hname) hstatic

theorem kindObstacle?_eq_none (h : ¬decl.Obstructed) : decl.kindObstacle? = none := by
  cases hkind : decl.kind with
  | interfaceKind =>
    refine (kindObstacle?_of_interface hkind).2 ⟨?_, ?_, ?_, fun method hmethod => ?_⟩
    · exact Decidable.of_not_not fun hparent => h (.parentOfInterface hkind hparent)
    · exact Decidable.of_not_not fun htraits => h (.traitInInterface hkind htraits)
    · exact Decidable.of_not_not fun hproperties => h (.propertyOfInterface hkind hproperties)
    · exact Decidable.of_not_not fun hbody => h (.bodyInInterface hkind hmethod hbody)
  | traitKind =>
    refine (kindObstacle?_of_trait hkind).2 ⟨?_, ?_⟩
    · exact Decidable.of_not_not fun hparent => h (.parentOfTrait hkind hparent)
    · exact Decidable.of_not_not fun hinterfaces => h (.interfaceOfTrait hkind hinterfaces)
  | classKind =>
    refine (kindObstacle?_of_class hkind).2 ?_
    cases hclass : decl.isAbstract with
    | true => exact .inl rfl
    | false =>
      refine .inr fun method hmethod => Bool.eq_false_iff.2 fun habstract => ?_
      exact h (.abstractInConcrete hkind hclass hmethod habstract)

/-- The check finds something in the way exactly if there is something. -/
theorem obstacle?_eq_none_iff : decl.obstacle? = none ↔ ¬decl.Obstructed := by
  constructor
  · exact fun hnone hobstructed => hobstructed.obstacle?_ne_none hnone
  · intro h
    rw [obstacle?, kindObstacle?_eq_none h, Option.none_or, List.findSome?_eq_none_iff]
    intro method hmethod
    refine Method.obstacle?_eq_none_iff.2 ⟨fun habstract => ?_, fun hname => ?_⟩
    · exact Decidable.of_not_not fun hbody => h (.abstractWithBody hmethod habstract hbody)
    · exact Bool.eq_false_iff.2 fun hstatic => h (.staticConstructor hmethod hname hstatic)

instance (decl : Declaration) : Decidable decl.Obstructed :=
  decidable_of_iff (decl.obstacle? ≠ none)
    ((not_congr obstacle?_eq_none_iff).trans Classical.not_not)

end Declaration

/-! ## Outcomes of weaving -/

theorem weave_of_fault {lookup : String → Except Fault Declaration} {name : String} {fault : Fault}
    (h : lookup name = .error fault) (advising : List String → List Advice)
    (settings : WeaveSettings) : weave lookup advising settings name = .error fault := by
  simp only [weave, weavable, h, Except.map]

theorem weave_of_obstacle {lookup : String → Except Fault Declaration} {name : String}
    {decl : Declaration} {obstacle : Obstacle} (hdecl : lookup name = .ok decl)
    (hobstacle : decl.obstacle? = some obstacle) (advising : List String → List Advice)
    (settings : WeaveSettings) :
    weave lookup advising settings name = .error (.unsupported decl.name obstacle.text) := by
  simp only [weave, weavable, hdecl, hobstacle, Except.map]

/-- If the source has no declaration of a type, its fault is the outcome.  If it has one, the type that
is declared is unsupported exactly if something in the declaration stands in the way, and else there is
a proxy; whatever else the source may say or fail to say, whatever advice there is, and however weaving
is set up. -/
theorem weave_decided (lookup : String → Except Fault Declaration)
    (advising : List String → List Advice) (settings : WeaveSettings) (name : String) :
    (∀ fault, lookup name = .error fault → weave lookup advising settings name = .error fault) ∧
      ∀ decl, lookup name = .ok decl →
        ((∃ construct, weave lookup advising settings name =
            .error (.unsupported decl.name construct)) ↔ decl.Obstructed) ∧
        ((∃ proxy, weave lookup advising settings name = .ok proxy) ↔ ¬decl.Obstructed) := by
  refine ⟨fun fault hfault => weave_of_fault hfault advising settings, fun decl hdecl => ?_⟩
  rw [← Declaration.obstacle?_eq_none_iff, ← Decidable.not_not (p := decl.Obstructed),
    ← Declaration.obstacle?_eq_none_iff]
  cases hobstacle : decl.obstacle? with
  | none =>
    have hwoven : weave lookup advising settings name =
        .ok (decl.proxy lookup (decl.applicable advising) settings) :=
      weave_eq_ok_iff.2 ⟨decl, hdecl, hobstacle, rfl⟩
    simp [hwoven]
  | some obstacle => simp [weave_of_obstacle hdecl hobstacle]

/-- A class that is its own ancestor, with a trait and an interface that cannot be read, an abstract and a
static method, and no constructor. -/
def strandedClass : Declaration :=
  { (((((Declaration.empty "A" .classKind).extending "A").mixing "T").implementing "I").addMethod
      (Method.empty "draw").makeAbstract).addMethod
        { Method.empty "make" with isStatic := true } with isAbstract := true }

/-- A trait with a static constructor. -/
def fixedTrait : Declaration :=
  (Declaration.empty "F" .traitKind).addMethod { Method.empty "__Construct" with isStatic := true }

/-- Nothing but these two can be read. -/
def strandedFamily (name : String) : Except Fault Declaration :=
  if name = "A" then .ok strandedClass
  else if name = "F" then .ok fixedTrait
  else .error (.unresolved name "offline")

/-- The class is woven all the same, with advice on all its methods; the trait is not, and what cannot be
read has the fault of the source. -/
theorem weave_decided_of_strandedFamily :
    let advising := fun _ : List String => [Advice.bound "Log" "A" 0]
    (∃ proxy, weave strandedFamily advising .standard "A" = .ok proxy) ∧
      (∃ construct, weave strandedFamily advising .standard "F" =
        .error (.unsupported "F" construct)) ∧
      weave strandedFamily advising .standard "T" = .error (.unresolved "T" "offline") := by
  intro advising
  have hclass := (weave_decided strandedFamily advising .standard "A").2 strandedClass rfl
  have htrait := (weave_decided strandedFamily advising .standard "F").2 fixedTrait rfl
  have hother := (weave_decided strandedFamily advising .standard "T").1 (.unresolved "T" "offline") rfl
  exact ⟨hclass.2.2 (by decide +kernel), htrait.1.2 (by decide +kernel), hother⟩

end Interception
