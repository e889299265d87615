import Mathlib.Data.List.Forall2
import Interception.Advice.Registry
import Interception.Proofs.AdviceTargets
import Interception.Proxy.Weave

/-!
# The members of a woven type

A woven type has the constants and the properties of its declaration, then at most one constructor
made for it, then one method for each declared method.  Main statement: this is so for every woven
type, every method keeps its signature, and a body is handed to the dispatcher exactly when there is
a body to wrap and advice that targets it.
-/

namespace Interception

open Text

/-! ## What a woven method shows -/

/-- The woven method says of itself what the declared one does. -/
structure Method.KeepsSignature (method : Method) (node : WovenMethod) : Prop where
  name : node.name = method.name
  access : node.access = method.access
  isStatic : node.isStatic = method.isStatic
  isAbstract : node.isAbstract = method.isAbstract
  isFinal : node.isFinal = method.isFinal
  parameters : node.parameters = method.parameters
  returns : node.returns = method.returns

/-- Two words are kept in variables, and then there is one call of the dispatcher. -/
def dispatcherForm : List Stmt → Bool
  | [.keep function .ofFunction, .keep method .ofMethod, .dispatch _ _ _ _] =>
    function == "__function__" && method == "__method__"
  | _ => false

/-- Whether the body of the method has the form that calls the dispatcher. -/
def WovenMethod.isDispatched (node : WovenMethod) : Bool := node.body.any dispatcherForm

namespace Method

theorem treated_keepsSignature (method : Method) (kind : Kind) (advice : List Advice) :
    method.KeepsSignature (method.treated kind advice) := by
  unfold treated
  split <;> exact ⟨rfl, rfl, rfl, rfl, rfl, rfl, rfl⟩

theorem isDispatched_woven (method : Method) : method.woven.isDispatched = false := by
  -- declared statements are all verbatim, so none of them is the first of the dispatcher's form
  unfold WovenMethod.isDispatched woven
  cases method.body with
  | none => rfl
  | some statements => cases statements <;> rfl

theorem isDispatched_hooked (method : Method) : method.hooked.isDispatched = false := by
  unfold WovenMethod.isDispatched hooked woven
  cases method.body <;> rfl

theorem isDispatched_dispatched (method : Method) (kind : Kind) :
    (method.dispatched kind).isDispatched = true := rfl

/-- The dispatcher is called in a method treated that way and in no other. -/
theorem isDispatched_treated (method : Method) (kind : Kind) (advice : List Advice) :
    (method.treated kind advice).isDispatched = true ↔
      method.treatment kind advice = .dispatched := by
  unfold treated
  cases method.treatment kind advice with
  | plain => simp [isDispatched_woven]
  | hooked => simp [isDispatched_hooked]
  | dispatched => simp [isDispatched_dispatched]
  | unwrappable => simp [isDispatched_woven]

/-- A body can be wrapped when there is one, and it belongs to an instance that exists already. -/
theorem isWrappable_iff (method : Method) :
    method.isWrappable = true ↔ method.isAbstract = false ∧ method.isStatic = false ∧
      method.body.isSome = true ∧ method.isConstructor = false := by
  unfold isWrappable isConcrete hasBody
  simp only [Bool.and_eq_true, Bool.not_eq_true']
  exact ⟨fun ⟨⟨⟨habstract, hbody⟩, hstatic⟩, hctor⟩ => ⟨habstract, hstatic, hbody, hctor⟩,
    fun ⟨habstract, hstatic, hbody, hctor⟩ => ⟨⟨⟨habstract, hbody⟩, hstatic⟩, hctor⟩⟩

/-- A method is dispatched when advice covers it and its body can be wrapped. -/
theorem treatment_eq_dispatched_iff (method : Method) (kind : Kind) (advice : List Advice) :
    method.treatment kind advice = .dispatched ↔
      kind ≠ .interfaceKind ∧ advice.any (fun one => one.covers method.name) = true ∧
        method.isWrappable = true := by
  unfold treatment
  by_cases hhook : kind = .classKind ∧ method.isConstructor = true
  · -- a constructor is hooked, and its body cannot be wrapped
    rw [if_pos hhook]
    have hwrap : method.isWrappable ≠ true := by
      intro hwrap
      have hctor := (method.isWrappable_iff.1 hwrap).2.2.2
      rw [hhook.2] at hctor
      exact Bool.noConfusion hctor
    simp [hwrap]
  · rw [if_neg hhook]
    by_cases hadvised : kind ≠ .interfaceKind ∧ advice.any (fun one => one.covers method.name) = true
    · rw [if_pos hadvised]
      cases method.isWrappable <;> simp [hadvised]
    · rw [if_neg hadvised]
      exact iff_of_false Treatment.noConfusion fun h => hadvised ⟨h.1, h.2.1⟩

/-- A method is hooked when it is the constructor of a class. -/
theorem treatment_eq_hooked_iff (method : Method) (kind : Kind) (advice : List Advice) :
    method.treatment kind advice = .hooked ↔ kind = .classKind ∧ method.isConstructor = true := by
  unfold treatment
  by_cases hhook : kind = .classKind ∧ method.isConstructor = true
  · simp [hhook]
  · rw [if_neg hhook]
    have hother : (if kind ≠ .interfaceKind ∧ advice.any (fun one => one.covers method.name) = true
        then if method.isWrappable = true then Treatment.dispatched else .unwrappable
        else .plain) ≠ .hooked := by
      split
      · split <;> exact Treatment.noConfusion
      · exact Treatment.noConfusion
    exact iff_of_false hother hhook

/-- The constructor of a class has the hook before its statements, if it has any. -/
theorem treated_body_of_hooked {method : Method} {kind : Kind} {advice : List Advice}
    (h : method.treatment kind advice = .hooked) :
    (method.treated kind advice).body =
      method.body.map fun statements => .handleProperties :: statements.map .verbatim := by
  rw [treated, h]
  show (method.body.map (List.map Stmt.verbatim)).map _ = _
  rw [Option.map_map]
  rfl

/-- A method that is neither hooked nor dispatched has the body that it was declared with. -/
theorem treated_body_of_kept {method : Method} {kind : Kind} {advice : List Advice}
    (hhooked : method.treatment kind advice ≠ .hooked)
    (hdispatched : method.treatment kind advice ≠ .dispatched) :
    (method.treated kind advice).body = method.body.map (List.map .verbatim) := by
  rw [treated]
  cases htreatment : method.treatment kind advice with
  | plain => rfl
  | hooked => exact absurd htreatment hhooked
  | dispatched => exact absurd htreatment hdispatched
  | unwrappable => rfl

/-- The result goes back to the caller unless the declared type says that there is none. -/
theorem givesResult_eq_false_iff (method : Method) :
    method.givesResult = false ↔ ∃ type, method.returns = some type ∧
      (sameLetters type "void" = true ∨ sameLetters type "never" = true) := by
  unfold givesResult
  cases method.returns with
  | none => simp
  | some type =>
    show (!(sameLetters type "void" || sameLetters type "never")) = false ↔ _
    rw [Bool.not_eq_false', Bool.or_eq_true]
    exact ⟨fun h => ⟨type, rfl, h⟩, fun ⟨_, htype, h⟩ => by cases htype; exact h⟩

end Method

/-! ## What advice a method is under -/

namespace Registry

/-- Some advice lies on the type, on one of its traits or on one of its interfaces, and takes in the
methods of that name. -/
def Targets (registry : Registry) (decl : Declaration) (name : String) : Prop :=
  ∃ advice ∈ registry.advice,
    (∃ type, (type = decl.name ∨ type ∈ decl.traits ∨ type ∈ decl.interfaces) ∧ advice.On type) ∧
      advice.TakesIn name

/-- The calls of the method go through the dispatcher. -/
structure Intercepts (registry : Registry) (decl : Declaration) (method : Method) : Prop where
  kind : decl.kind = .classKind ∨ decl.kind = .traitKind
  isAbstract : method.isAbstract = false
  isStatic : method.isStatic = false
  hasBody : method.body.isSome = true
  isConstructor : method.isConstructor = false
  targeted : registry.Targets decl method.name

theorem mem_applicable {registry : Registry} {types : List String} {advice : Advice} :
    advice ∈ registry.applicable types ↔ advice ∈ registry.advice ∧ advice.targetType ∈ types := by
  unfold applicable
  rw [List.mem_mergeSort, List.mem_filter, List.contains_iff_mem]

/-- Sorting the advice does not change which methods it covers. -/
theorem any_covers_iff {registry : Registry} {decl : Declaration} {name : String} :
    (registry.applicable decl.adviceTypes).any (fun one => one.covers name) = true ↔
      registry.Targets decl name := by
  rw [List.any_eq_true]
  refine exists_congr fun advice => ?_
  rw [mem_applicable, ← Advice.takesIn_iff, and_assoc]
  simp only [Declaration.adviceTypes, List.mem_cons, List.mem_append, Advice.on_iff, exists_eq_right']

/-- The treatment of a method is decided by what the registry says of it. -/
theorem treatment_eq_dispatched_iff {registry : Registry} {decl : Declaration} {method : Method} :
    method.treatment decl.kind (decl.applicable registry.applicable) = .dispatched ↔
      registry.Intercepts decl method := by
  rw [Method.treatment_eq_dispatched_iff, Method.isWrappable_iff, Declaration.applicable]
  constructor
  · -- an interface has no advice at all; elsewhere the registry is asked
    rintro ⟨hkind, hcovers, habstract, hstatic, hbody, hctor⟩
    rw [if_neg hkind, any_covers_iff] at hcovers
    have hkinds : decl.kind = .classKind ∨ decl.kind = .traitKind := by
      cases hdecl : decl.kind with
      | classKind => exact .inl rfl
      | traitKind => exact .inr rfl
      | interfaceKind => exact absurd hdecl hkind
    exact ⟨hkinds, habstract, hstatic, hbody, hctor, hcovers⟩
  · intro h
    have hkind : decl.kind ≠ .interfaceKind := by
      intro hdecl
      rcases h.kind with hclass | htrait
      · exact absurd (hclass.symm.trans hdecl) (by decide)
      · exact absurd (htrait.symm.trans hdecl) (by decide)
    rw [if_neg hkind, any_covers_iff]
    exact ⟨hkind, h.targeted, h.isAbstract, h.isStatic, h.hasBody, h.isConstructor⟩

end Registry

/-! ## The methods of a woven type -/

/-- The body hands the statements of the method over to the dispatcher. -/
def Method.HandsOver (kind : Kind) (method : Method) (body : Option (List Stmt)) : Prop :=
  ∃ returns statements,
    method.body = some statements ∧
    (returns = false ↔ ∃ type, method.returns = some type ∧
      (sameLetters type "void" = true ∨ sameLetters type "never" = true)) ∧
    body = some [.keep "__function__" .ofFunction, .keep "__method__" .ofMethod,
      .dispatch (if kind = .traitKind then .ofTrait else .ofClass) returns
        (⟨"__function__", false⟩ :: ⟨"__method__", false⟩ ::
          method.parameters.map fun parameter => ⟨parameter.name, parameter.byRef⟩)
        (statements.map .verbatim)]

theorem Method.handsOver_dispatched {kind : Kind} {method : Method}
    (hbody : method.body.isSome = true) : method.HandsOver kind (method.dispatched kind).body := by
  obtain ⟨statements, hstatements⟩ := Option.isSome_iff_exists.1 hbody
  refine ⟨method.givesResult, statements, hstatements, method.givesResult_eq_false_iff, ?_⟩
  have hscope : scopeOf kind = if kind = .traitKind then .ofTrait else .ofClass := by
    cases kind <;> rfl
  have hgiven : method.woven.body.getD [] = statements.map .verbatim := by
    simp only [woven, hstatements, Option.map_some, Option.getD_some]
  rw [dispatched, hscope, hgiven]
  rfl

namespace Registry

/-- What a woven type has for a declared method. -/
structure Rendered (registry : Registry) (decl : Declaration) (method : Method)
    (node : WovenMethod) : Prop where
  signature : method.KeepsSignature node
  dispatched_iff : node.isDispatched = true ↔ registry.Intercepts decl method
  dispatched : registry.Intercepts decl method → method.HandsOver decl.kind node.body
  hooked : decl.kind = .classKind → method.isConstructor = true →
    node.body = method.body.map fun statements => .handleProperties :: statements.map .verbatim
  verbatim : ¬registry.Intercepts decl method →
    ¬(decl.kind = .classKind ∧ method.isConstructor = true) →
    node.body = method.body.map (List.map .verbatim)

theorem rendered_treated (registry : Registry) (decl : Declaration) (method : Method) :
    registry.Rendered decl method
      (method.treated decl.kind (decl.applicable registry.applicable)) where
  signature := method.treated_keepsSignature _ _
  dispatched_iff := (method.isDispatched_treated _ _).trans treatment_eq_dispatched_iff
  dispatched := by
    intro h
    rw [Method.treated, treatment_eq_dispatched_iff.2 h]
    exact Method.handsOver_dispatched h.hasBody
  hooked := by
    intro hkind hctor
    exact Method.treated_body_of_hooked ((method.treatment_eq_hooked_iff _ _).2 ⟨hkind, hctor⟩)
  verbatim := by
    intro hplain hother
    apply Method.treated_body_of_kept
    · exact mt (method.treatment_eq_hooked_iff _ _).1 hother
    · exact mt treatment_eq_dispatched_iff.1 hplain

end Registry

namespace Declaration

/-- What holds of every method and its treated form holds along the lists of both. -/
theorem forall₂_treated {related : Method → WovenMethod → Prop} (advice : List Advice)
    (decl : Declaration) (h : ∀ method, related method (method.treated decl.kind advice)) :
    List.Forall₂ related decl.methods
      (decl.methods.map fun method => method.treated decl.kind advice) := by
  rw [List.forall₂_map_right_iff]
  exact List.forall₂_same.2 fun method _ => h method

/-- The names of the methods that go through the dispatcher are those of the dispatched nodes. -/
theorem intercepted_eq (advice : List Advice) (decl : Declaration) :
    decl.intercepted advice =
      ((decl.methods.map fun method => method.treated decl.kind advice).filter
        WovenMethod.isDispatched).map WovenMethod.name := by
  unfold intercepted
  induction decl.methods with
  | nil => rfl
  | cons first others ih =>
    have hname := (first.treated_keepsSignature decl.kind advice).name
    have hiff := first.isDispatched_treated decl.kind advice
    -- the name is listed and the node is dispatched in the same case
    by_cases hfirst : first.treatment decl.kind advice = .dispatched
    · have hnode := hiff.2 hfirst
      simp [hfirst, hnode, hname, ih]
    · have hnode : (first.treated decl.kind advice).isDispatched = false :=
        Bool.eq_false_iff.2 (mt hiff.1 hfirst)
      simp [hfirst, hnode, ih]

/-- A constructor is missing from a class none of whose methods is one. -/
theorem lacksConstructor_iff (decl : Declaration) :
    decl.lacksConstructor = true ↔
      decl.kind = .classKind ∧ ∀ method ∈ decl.methods, method.isConstructor = false := by
  unfold lacksConstructor constructor?
  rw [Bool.and_eq_true, decide_eq_true_iff, Option.isNone_iff_eq_none, List.find?_eq_none]
  simp only [Bool.not_eq_true]

/-- What is made for a type is a single constructor, where one is missing. -/
theorem madeConstructor_eq (lookup : String → Except Fault Declaration) (decl : Declaration) :
    ∃ made : Option WovenMethod, decl.madeConstructor lookup = made.toList.map .method ∧
      made.isSome = decl.lacksConstructor ∧ ∀ node ∈ made, node.name = constructorName := by
  unfold madeConstructor
  cases decl.lacksConstructor with
  | true => exact ⟨some _, rfl, rfl, fun node hnode => by cases hnode; rfl⟩
  | false => exact ⟨none, rfl, rfl, by simp⟩

end Declaration

/-! ## The members of a woven type -/

/-- The proxy has the members of the declaration in this order: the constants, the properties, what
was made for it, one method for each declared one.  The methods listed as intercepted are those whose
body is handed to the dispatcher. -/
structure Registry.Members (registry : Registry) (decl : Declaration) (proxy : Proxy)
    (made : Option WovenMethod) (nodes : List WovenMethod) : Prop where
  members : proxy.file.type.members = decl.constants.map .constant ++
    decl.properties.map .property ++ made.toList.map .method ++ nodes.map .method
  made_iff : made.isSome = true ↔
    decl.kind = .classKind ∧ ∀ method ∈ decl.methods, method.isConstructor = false
  made : ∀ node ∈ made, node.name = constructorName
  rendered : List.Forall₂ (registry.Rendered decl) decl.methods nodes
  intercepted : proxy.intercepted = (nodes.filter WovenMethod.isDispatched).map WovenMethod.name

/-- Every proxy that is woven has the members of its declaration, with a body handed to the
dispatcher exactly where there is one to wrap and advice that targets it. -/
theorem weave_members {lookup : String → Except Fault Declaration} {registry : Registry}
    {settings : WeaveSettings} {name : String} {proxy : Proxy}
    (h : weave lookup registry.applicable settings name = .ok proxy) :
    ∃ decl made nodes, lookup name = .ok decl ∧ registry.Members decl proxy made nodes := by
  obtain ⟨decl, hdecl, -, rfl⟩ := weave_eq_ok_iff.1 h
  obtain ⟨made, hmade, hlacks, hname⟩ := decl.madeConstructor_eq lookup
  refine ⟨decl, made, decl.methods.map fun method =>
    method.treated decl.kind (decl.applicable registry.applicable), hdecl, ?_⟩
  constructor
  · show decl.wovenMembers lookup _ = _
    rw [Declaration.wovenMembers, hmade, List.map_map]
    rfl
  · rw [hlacks]
    exact decl.lacksConstructor_iff
  · exact hname
  · exact decl.forall₂_treated _ (registry.rendered_treated decl)
  · exact decl.intercepted_eq _

/-- A class `A` that promises what `I` demands, and more. -/
def promisingClass : Declaration :=
  (((Declaration.empty "A" .classKind).implementing "I").addMethod
    ((Method.empty "run").addStatement "return 1;")).addMethod
    ((Method.empty "stop").addStatement "return 0;")

/-- Advice on the method that `I` demands, whose name is written in another case. -/
def contractAdvice : Registry := Registry.empty.add (Advice.bound "Log" "I::RUN" 0)

/-- Advice on a method of an interface reaches that method of the class and no other. -/
theorem weave_members_of_promisingClass :
    ∃ proxy, weave (fun _ => .ok promisingClass) contractAdvice.applicable .standard "A" =
        .ok proxy ∧
      proxy.intercepted = ["run"] ∧
      contractAdvice.Targets promisingClass "run" ∧ ¬contractAdvice.Targets promisingClass "stop" ∧
      ∃ decl made nodes, decl = promisingClass ∧ contractAdvice.Members decl proxy made nodes := by
  have hwoven : weave (fun _ => .ok promisingClass) contractAdvice.applicable .standard "A" =
      .ok _ := weave_eq_ok_iff.2 ⟨_, rfl, by decide +kernel, rfl⟩
  have htargets : contractAdvice.Targets promisingClass "run" ∧
      ¬contractAdvice.Targets promisingClass "stop" := by
    rw [← Registry.any_covers_iff, ← Registry.any_covers_iff]
    decide +kernel
  refine ⟨_, hwoven, by decide +kernel, htargets.1, htargets.2, ?_⟩
  obtain ⟨decl, made, nodes, hdecl, hmembers⟩ := weave_members hwoven
  exact ⟨decl, made, nodes, (Except.ok.inj hdecl).symm, hmembers⟩

end Interception
