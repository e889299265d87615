import Interception.Proofs.PrintedBodies
import Interception.Proofs.WovenConstructor
import Interception.Proofs.WovenNames

/-!
# The shape of a woven type

The language that proxies are written in wants a method of a class or a trait to have a body unless it
is abstract, and allows each kind of type certain relatives and members only.  A declaration that
nothing stands in the way of has been looked at before its methods were treated; what is wanted is a
matter of the woven type.  Main statement: all that is wanted holds of every woven type, with one
exception.  A declared method that is neither abstract nor has a body stays so, and is printed so.
-/

namespace Interception

open Text

/-! ## What is wanted of a woven type -/

namespace WovenType

/-- Modifiers, members and relatives go together, and what is abstract has no body. -/
structure Consistent (type : WovenType) : Prop where
  /-- In a class or a trait, abstract methods have no body. -/
  bodiless : type.kind ≠ .interfaceKind → ∀ method ∈ type.methods, method.isAbstract = true →
    method.body = none
  /-- In a class, they need an abstract class. -/
  abstracts : type.kind = .classKind → ∀ method ∈ type.methods, method.isAbstract = true →
    type.isAbstract = true
  /-- No constructor is static. -/
  constructors : ∀ method ∈ type.methods, sameLetters method.name constructorName = true →
    method.isStatic = false
  /-- An interface has signatures only, and uses no traits. -/
  ofInterface : type.kind = .interfaceKind → type.mixins = [] ∧
    (∀ property, .property property ∉ type.members) ∧ ∀ method ∈ type.methods, method.body = none
  /-- A trait neither extends nor implements anything. -/
  ofTrait : type.kind = .traitKind → type.parents = [] ∧ type.contracts = []

/-- Besides, the methods of a class or a trait that are not abstract have bodies. -/
structure WellFormed (type : WovenType) : Prop extends type.Consistent where
  bodies : type.kind ≠ .interfaceKind → ∀ method ∈ type.methods, method.body = none →
    method.isAbstract = true

end WovenType

/-! ## What is known of a declaration that can be woven -/

/-- Treated or not, a method has a body if it was declared with one, and in no other case. -/
theorem Method.treated_body_eq_none_iff {method : Method} (kind : Kind) (advice : List Advice) :
    (method.treated kind advice).body = none ↔ method.body = none := by
  refine ⟨fun h => ?_, treated_body_of_no_body kind advice⟩
  rw [treated] at h
  -- the hook and the dispatcher stand in front of or around a body, never in place of one
  cases htreatment : method.treatment kind advice with
  | dispatched => simp [htreatment, dispatched] at h
  | hooked => simpa [htreatment, hooked, woven] using h
  | plain => simpa [htreatment, woven] using h
  | unwrappable => simpa [htreatment, woven] using h

namespace Declaration

variable {decl : Declaration}

theorem methodObstacle?_of_accepted (h : decl.obstacle? = none) {method : Method}
    (hmethod : method ∈ decl.methods) : method.obstacle? = none :=
  List.findSome?_eq_none_iff.1 (Option.or_eq_none_iff.1 h).2 method hmethod

/-- An abstract method that can be woven has no body. -/
theorem body_of_abstract (h : decl.obstacle? = none) {method : Method}
    (hmethod : method ∈ decl.methods) (habstract : method.isAbstract = true) :
    method.body = none :=
  (Method.obstacle?_eq_none_iff.1 (methodObstacle?_of_accepted h hmethod)).1 habstract

/-- A constructor that can be woven is not static. -/
theorem not_static_of_constructor (h : decl.obstacle? = none) {method : Method}
    (hmethod : method ∈ decl.methods) (hctor : method.isConstructor = true) :
    method.isStatic = false :=
  (Method.obstacle?_eq_none_iff.1 (methodObstacle?_of_accepted h hmethod)).2 hctor

/-- A class that can be woven is abstract if one of its methods is. -/
theorem abstract_of_method (h : decl.obstacle? = none) (hkind : decl.kind = .classKind)
    {method : Method} (hmethod : method ∈ decl.methods) (habstract : method.isAbstract = true) :
    decl.isAbstract = true := by
  rcases (kindObstacle?_of_class hkind).1 (kindObstacle?_of_accepted h) with hclass | hnone
  · exact hclass
  · exact absurd habstract (Bool.eq_false_iff.1 (hnone method hmethod))

/-- An interface that can be woven has no properties, and its methods have no bodies. -/
theorem members_of_interface (h : decl.obstacle? = none) (hkind : decl.kind = .interfaceKind) :
    decl.properties = [] ∧ ∀ method ∈ decl.methods, method.body = none := by
  obtain ⟨-, -, hproperties, hbodies⟩ :=
    (kindObstacle?_of_interface hkind).1 (kindObstacle?_of_accepted h)
  exact ⟨hproperties, hbodies⟩

/-! ## What holds of the woven type -/

section Woven

variable (lookup : String → Except Fault Declaration) (advice : List Advice)
  (settings : WeaveSettings)

/-- A method of the woven type is the constructor made for a class, or a declared method after its
treatment. -/
theorem mem_wovenType_methods {node : WovenMethod}
    (hnode : node ∈ (decl.wovenType lookup advice settings).methods) :
    (decl.kind = .classKind ∧ node = (Inheritance.find lookup decl).synthesized) ∨
      ∃ method ∈ decl.methods, node = method.treated decl.kind advice := by
  rw [wovenType_methods, List.mem_append] at hnode
  rcases hnode with hmade | hkept
  · by_cases hlacks : decl.lacksConstructor = true
    · rw [if_pos hlacks, List.mem_singleton] at hmade
      exact .inl ⟨(decl.lacksConstructor_iff.1 hlacks).1, hmade⟩
    · rw [if_neg hlacks] at hmade
      exact absurd hmade List.not_mem_nil
  · obtain ⟨method, hmethod, rfl⟩ := List.mem_map.1 hkept
    exact .inr ⟨method, hmethod, rfl⟩

/-- A declared method is a method of the woven type after its treatment. -/
theorem treated_mem_wovenType {method : Method} (hmethod : method ∈ decl.methods) :
    method.treated decl.kind advice ∈ (decl.wovenType lookup advice settings).methods := by
  rw [wovenType_methods]
  exact List.mem_append_right _ (List.mem_map_of_mem hmethod)

theorem consistent_wovenType (h : decl.obstacle? = none) :
    (decl.wovenType lookup advice settings).Consistent where
  bodiless := by
    intro _ node hnode habstract
    rcases mem_wovenType_methods lookup advice settings hnode with
      ⟨-, rfl⟩ | ⟨method, hmethod, rfl⟩
    · exact Bool.noConfusion habstract
    · rw [(method.treated_keepsSignature _ _).isAbstract] at habstract
      rw [Method.treated_body_eq_none_iff]
      exact body_of_abstract h hmethod habstract
  abstracts := by
    intro hkind node hnode habstract
    rcases mem_wovenType_methods lookup advice settings hnode with
      ⟨-, rfl⟩ | ⟨method, hmethod, rfl⟩
    · exact Bool.noConfusion habstract
    · rw [(method.treated_keepsSignature _ _).isAbstract] at habstract
      exact abstract_of_method h hkind hmethod habstract
  constructors := by
    intro node hnode hctor
    rcases mem_wovenType_methods lookup advice settings hnode with
      ⟨-, rfl⟩ | ⟨method, hmethod, rfl⟩
    · rfl
    · rw [(method.treated_keepsSignature _ _).name] at hctor
      rw [(method.treated_keepsSignature _ _).isStatic]
      exact not_static_of_constructor h hmethod hctor
  ofInterface := by
    intro hkind
    have hdecl : decl.kind = .interfaceKind := hkind
    obtain ⟨-, htraits⟩ := relatives_of_interface h hdecl
    obtain ⟨hproperties, hbodies⟩ := members_of_interface h hdecl
    refine ⟨?_, ?_, ?_⟩
    · simp [wovenType, hdecl, addedTraits, htraits]
    · intro property hmem
      -- the only properties among the members are the declared ones
      simp [wovenType, wovenMembers, hproperties, madeConstructor, lacksConstructor, hdecl] at hmem
    · intro node hnode
      rcases mem_wovenType_methods lookup advice settings hnode with
        ⟨hclass, -⟩ | ⟨method, hmethod, rfl⟩
      · cases hdecl.symm.trans hclass
      · exact (Method.treated_body_eq_none_iff _ _).2 (hbodies method hmethod)
  ofTrait := by
    intro hkind
    have hdecl : decl.kind = .traitKind := hkind
    obtain ⟨hparent, hinterfaces⟩ := relatives_of_trait h hdecl
    simp [wovenType, hdecl, hparent, hinterfaces]

/-- The woven type of a declaration that can be woven is well formed unless it is a class or a trait
with a declared method that lacks a body without being abstract. -/
theorem wellFormed_wovenType_iff (h : decl.obstacle? = none) :
    (decl.wovenType lookup advice settings).WellFormed ↔ decl.kind = .interfaceKind ∨
      ∀ method ∈ decl.methods, method.body = none → method.isAbstract = true := by
  constructor
  · intro hwell
    by_cases hkind : decl.kind = .interfaceKind
    · exact .inl hkind
    · refine .inr fun method hmethod hbody => ?_
      have hnode := treated_mem_wovenType lookup advice settings hmethod
      have hnone := (Method.treated_body_eq_none_iff decl.kind advice).2 hbody
      rw [← (method.treated_keepsSignature decl.kind advice).isAbstract]
      exact hwell.bodies hkind _ hnode hnone
  · intro hbodies
    refine ⟨consistent_wovenType lookup advice settings h, ?_⟩
    intro hkind node hnode hbody
    rcases mem_wovenType_methods lookup advice settings hnode with
      ⟨-, rfl⟩ | ⟨method, hmethod, rfl⟩
    · -- the constructor made for a class has a body
      cases hbody
    · rw [(method.treated_keepsSignature _ _).isAbstract]
      exact hbodies.resolve_left hkind method hmethod
        ((Method.treated_body_eq_none_iff _ _).1 hbody)

/-- A declared method without a body is a line of the printed proxy. -/
theorem signature_mem_lines {method : Method} (hmethod : method ∈ decl.methods)
    (hbody : method.body = none) :
    "    " ++ Layout.signature method.woven ++ ";" ∈
      Layout.lines (decl.proxy lookup advice settings).file := by
  obtain ⟨head, hlines⟩ := decl.lines_proxy lookup advice settings
  have hprinted := (decl.prints_treated advice method).signature hbody
  have hlists : Layout.member (.method (method.treated decl.kind advice)) ∈
      decl.methods.map fun method => Layout.member (.method (method.treated decl.kind advice)) :=
    List.mem_map_of_mem hmethod
  have hline : "    " ++ Layout.signature method.woven ++ ";" ∈
      Layout.member (.method (method.treated decl.kind advice)) := by
    rw [hprinted]
    exact List.mem_singleton_self _
  rw [hlines]
  exact List.mem_append_left _ (List.mem_append_right _ (List.mem_flatten_of_mem hlists hline))

end Woven

end Declaration

/-- Whatever its kind, a declaration that nothing stands in the way of has a proxy whose type is
consistent.  The type is well formed exactly if it is an interface, or if every declared method
without a body is abstract; every method without a body is printed as a mere signature. -/
theorem weave_wellFormed_iff {lookup : String → Except Fault Declaration} {name : String}
    {decl : Declaration} (hdecl : lookup name = .ok decl) (haccepted : decl.obstacle? = none)
    (advising : List String → List Advice) (settings : WeaveSettings) :
    ∃ proxy, weave lookup advising settings name = .ok proxy ∧ proxy.file.type.Consistent ∧
      (proxy.file.type.WellFormed ↔ decl.kind = .interfaceKind ∨
        ∀ method ∈ decl.methods, method.body = none → method.isAbstract = true) ∧
      ∀ method ∈ decl.methods, method.body = none →
        "    " ++ Layout.signature method.woven ++ ";" ∈ Layout.lines proxy.file := by
  refine ⟨_, weave_eq_ok_iff.2 ⟨decl, hdecl, haccepted, rfl⟩, ?_, ?_, ?_⟩
  · exact decl.consistent_wovenType lookup _ settings haccepted
  · exact decl.wellFormed_wovenType_iff lookup _ settings haccepted
  · exact fun method => decl.signature_mem_lines lookup _ settings

/-- An abstract class with an abstract constructor and a method that has a body. -/
def draftedClass : Declaration :=
  { ((Declaration.empty "A" .classKind).addMethod (Method.empty "__construct").makeAbstract).addMethod
      ((Method.empty "run").addStatement "return 1;") with isAbstract := true }

/-- Every name leads to that class. -/
def draftedFamily (_ : String) : Except Fault Declaration := .ok draftedClass

/-- The constructor of that class has no body, and is abstract; so the woven class is well formed. -/
theorem weave_wellFormed_of_draftedClass :
    draftedClass.obstacle? = none ∧
      ∃ proxy, weave draftedFamily (fun _ => [Advice.bound "Log" "A" 0]) .standard "A" = .ok proxy ∧
        proxy.file.type.WellFormed ∧
        "    public abstract function __construct();" ∈ Layout.lines proxy.file := by
  have hdecl : draftedFamily "A" = .ok draftedClass := rfl
  have haccepted : draftedClass.obstacle? = none := by decide +kernel
  obtain ⟨proxy, hwoven, -, hiff, hlines⟩ :=
    weave_wellFormed_iff hdecl haccepted (fun _ => [Advice.bound "Log" "A" 0]) .standard
  have hbodies : ∀ method ∈ draftedClass.methods, method.body = none → method.isAbstract = true := by
    decide +kernel
  have hline := hlines (Method.empty "__construct").makeAbstract (by decide +kernel) rfl
  have hsignature : "    " ++ Layout.signature (Method.empty "__construct").makeAbstract.woven ++ ";" =
      "    public abstract function __construct();" := by decide +kernel
  rw [hsignature] at hline
  exact ⟨haccepted, proxy, hwoven, hiff.2 (.inr hbodies), hline⟩

/-- A class with a method that is not abstract and has no body. -/
def hollowClass : Declaration := (Declaration.empty "A" .classKind).addMethod (.signature "run")

/-- Every name leads to that class. -/
def hollowFamily (_ : String) : Except Fault Declaration := .ok hollowClass

/-- Nothing stands in the way of that class, and its proxy has the method without a body. -/
theorem weave_hollowClass_not_wellFormed :
    hollowClass.obstacle? = none ∧ hollowClass.isAbstract = false ∧
      ∃ proxy, weave hollowFamily Registry.empty.applicable .standard "A" = .ok proxy ∧
        ¬proxy.file.type.WellFormed ∧ "    public function run();" ∈ Layout.lines proxy.file := by
  have haccepted : hollowClass.obstacle? = none := by decide +kernel
  refine ⟨haccepted, rfl, _, weave_eq_ok_iff.2 ⟨hollowClass, rfl, haccepted, rfl⟩, ?_, by decide +kernel⟩
  intro hwell
  have hbodies := ((hollowClass.wellFormed_wovenType_iff _ _ _ haccepted).1 hwell).resolve_left
    (by decide)
  exact absurd hbodies (by decide +kernel)

end Interception
