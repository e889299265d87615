import Mathlib.Tactic.ByContra
import Interception.Proofs.AncestrySearch
import Interception.Proofs.WovenMembers

/-!
# The constructors of a woven type

A woven class hands its properties over once, as the first thing its own constructor does or as the
last thing the constructor made for it does.  What the made constructor does before that follows from
what the class inherits.  Main statement: these rules hold of every type that is woven, and the
dispatcher gets hold of no constructor, whatever advice there is.
-/

namespace Interception

open Name Text

/-! ## Parameters in another namespace -/

/-- `woven` is the parameter `declared` of a method of `owner` as it reads in the namespace `target`.
Away from the namespace of the owner, the types in its hint and in its default are named anew. -/
structure Parameter.ReadsIn (owner target : String) (declared woven : Parameter) : Prop where
  name : woven.name = declared.name
  byRef : woven.byRef = declared.byRef
  variadic : woven.variadic = declared.variadic
  hint : woven.hint = if namespaceOf owner = target then declared.hint
    else declared.hint.map (Hint.mapNames (Name.moved (namespaceOf owner) target))
  default : woven.default = if namespaceOf owner = target then declared.default
    else declared.default.map (movedDefault owner target)

theorem Parameter.readsIn_iff {owner target : String} {declared woven : Parameter} :
    Parameter.ReadsIn owner target declared woven ↔
      (if namespaceOf owner = target then declared else declared.movedTo owner target) = woven := by
  constructor
  · intro h
    rcases woven with ⟨name, hint, default, byRef, variadic⟩
    rcases h with ⟨hname, hbyRef, hvariadic, hhint, hdefault⟩
    simp only at hname hbyRef hvariadic hhint hdefault
    subst hname hbyRef hvariadic hhint hdefault
    split <;> rfl
  · rintro rfl
    by_cases hspace : namespaceOf owner = target
    · simp only [if_pos hspace]
      exact ⟨rfl, rfl, rfl, by rw [if_pos hspace], by rw [if_pos hspace]⟩
    · simp only [if_neg hspace]
      exact ⟨rfl, rfl, rfl, by rw [if_neg hspace]; rfl, by rw [if_neg hspace]; rfl⟩

/-- The parameters are those of a method of `owner`, one by one as they read in the namespace
`target`. -/
def Method.ReadsIn (owner target : String) (method : Method) (parameters : List Parameter) : Prop :=
  List.Forall₂ (Parameter.ReadsIn owner target) method.parameters parameters

/-- Moving a method makes its parameters read so. -/
theorem Method.readsIn_iff {owner target : String} {method : Method}
    {parameters : List Parameter} :
    method.ReadsIn owner target parameters ↔
      (method.movedTo owner target).parameters = parameters := by
  have hrel : Parameter.ReadsIn owner target = fun declared woven =>
      (if namespaceOf owner = target then declared else declared.movedTo owner target) = woven := by
    funext declared woven
    exact propext Parameter.readsIn_iff
  rw [ReadsIn, hrel, ← List.forall₂_map_left_iff (R := Eq), List.forall₂_eq_eq_eq, movedTo]
  by_cases hspace : namespaceOf owner = target
  · simp only [if_pos hspace, List.map_id']
  · simp only [if_neg hspace]

/-! ## What a class inherits -/

/-- What the constructor made for a class takes, and what it does before its hook. -/
inductive Declaration.Inherits (lookup : String → Except Fault Declaration) (decl : Declaration) :
    List Parameter → List Stmt → Prop where
  /-- Without a parent there is nothing to take and nothing to do. -/
  | alone (halone : decl.parent = none) : Inherits lookup decl [] []
  /-- The parent is known and declares a constructor: it is called with all that it takes. -/
  | direct {name : String} {parent : Declaration} {ctor : Method} {parameters : List Parameter}
      (hname : decl.parent = some name) (hparent : lookup name = .ok parent)
      (hctor : parent.constructor? = some ctor)
      (hparameters : ctor.ReadsIn parent.name decl.space parameters) :
      Inherits lookup decl parameters
        [.callParent (parameters.map fun parameter => ⟨parameter.name, parameter.variadic⟩)]
  /-- A constructor is found from the parent on, but is not the parent's: the call is guarded. -/
  | found {name : String} {parent : Declaration} {sighting : Sighting} {parameters : List Parameter}
      (hname : decl.parent = some name) (hparent : lookup name = .ok parent)
      (hctor : parent.constructor? = none)
      (hfound : Ancestry.findIn lookup name constructorName = .ok (some sighting))
      (hparameters : sighting.method.ReadsIn sighting.owner decl.space parameters) :
      Inherits lookup decl parameters [.callParentIfAny]
  /-- None is found from the parent on: the call is guarded all the same. -/
  | missing {name : String} {parent : Declaration} (hname : decl.parent = some name)
      (hparent : lookup name = .ok parent) (hctor : parent.constructor? = none)
      (hmissing : Ancestry.findIn lookup name constructorName = .ok none) :
      Inherits lookup decl [] [.callParentIfAny]
  /-- The parent is unknown: the call is guarded. -/
  | unknown {name : String} {fault : Fault} (hname : decl.parent = some name)
      (hparent : lookup name = .error fault) : Inherits lookup decl [] [.callParentIfAny]

/-- A class gets the constructor that it inherits. -/
theorem Inheritance.find_inherits (lookup : String → Except Fault Declaration)
    (decl : Declaration) :
    decl.Inherits lookup (find lookup decl).parameters (find lookup decl).call := by
  unfold find
  cases hname : decl.parent with
  | none => exact .alone hname
  | some name =>
    cases hparent : lookup name with
    | error fault =>
      simp only [hparent]
      exact .unknown hname hparent
    | ok parent =>
      cases hctor : parent.constructor? with
      | some ctor =>
        simp only [hparent, hctor]
        exact .direct hname hparent hctor (Method.readsIn_iff.2 rfl)
      | none =>
        simp only [hparent, hctor]
        cases hfound : Ancestry.findIn lookup name constructorName with
        | error fault =>
          -- only a parent that is unknown makes the search fail
          rw [Ancestry.findIn_of_ok hparent] at hfound
          cases hfound
        | ok found =>
          cases found with
          | none => exact .missing hname hparent hctor hfound
          | some sighting =>
            exact .found hname hparent hctor hfound (Method.readsIn_iff.2 rfl)

/-! ## The rules of constructors -/

/-- The constructor that is made for a class: no modifiers, no type of a result, and the hook last. -/
def WovenMethod.making (parameters : List Parameter) (call : List Stmt) : WovenMethod where
  access := none
  isStatic := false
  isAbstract := false
  isFinal := false
  name := "__construct"
  parameters := parameters
  returns := none
  body := some (call ++ [.handleProperties])

/-- The rules by which the methods of a woven type come by their constructors. -/
inductive Declaration.Constructs (lookup : String → Except Fault Declaration) (decl : Declaration) :
    List WovenMethod → Prop where
  /-- A class that declares constructors keeps them, each with the hook before its statements. -/
  | declared {nodes : List WovenMethod} (hkind : decl.kind = .classKind)
      (hctor : ∃ method ∈ decl.methods, method.isConstructor = true)
      (hnodes : List.Forall₂ (fun method node => method.KeepsSignature node ∧
        (method.isConstructor = true → node.body = method.body.map fun statements =>
          .handleProperties :: statements.map .verbatim)) decl.methods nodes) :
      Constructs lookup decl nodes
  /-- A class that declares none gets one, which comes first and is the only one. -/
  | made {parameters : List Parameter} {call : List Stmt} {nodes : List WovenMethod}
      (hkind : decl.kind = .classKind)
      (hctor : ∀ method ∈ decl.methods, method.isConstructor = false)
      (hinherits : decl.Inherits lookup parameters call)
      (hnodes : List.Forall₂ Method.KeepsSignature decl.methods nodes)
      (hothers : ∀ node ∈ nodes, sameLetters node.name constructorName = false) :
      Constructs lookup decl (WovenMethod.making parameters call :: nodes)
  /-- Any other type keeps what it declares, without a hook. -/
  | elsewhere {nodes : List WovenMethod} (hkind : decl.kind ≠ .classKind)
      (hnodes : List.Forall₂ (fun method node => method.KeepsSignature node ∧
        (method.isConstructor = true → node.body = method.body.map (List.map .verbatim)))
        decl.methods nodes) : Constructs lookup decl nodes

/-- The methods of a woven type are the made constructor, if any, and the treated methods. -/
theorem Declaration.wovenType_methods (lookup : String → Except Fault Declaration)
    (advice : List Advice) (settings : WeaveSettings) (decl : Declaration) :
    (decl.wovenType lookup advice settings).methods =
      (if decl.lacksConstructor = true then [(Inheritance.find lookup decl).synthesized] else []) ++
        decl.methods.map fun method => method.treated decl.kind advice := by
  show (decl.wovenMembers lookup advice).filterMap Member.method? = _
  have hconstants : (decl.constants.map Member.constant).filterMap Member.method? = [] := by
    simp [List.filterMap_map, Function.comp_def, Member.method?]
  have hproperties : (decl.properties.map Member.property).filterMap Member.method? = [] := by
    simp [List.filterMap_map, Function.comp_def, Member.method?]
  have hmethods : (decl.methods.map fun method =>
      Member.method (method.treated decl.kind advice)).filterMap Member.method? =
        decl.methods.map fun method => method.treated decl.kind advice := by
    simp [List.filterMap_map, Function.comp_def, Member.method?]
  rw [wovenMembers, List.filterMap_append, List.filterMap_append, List.filterMap_append,
    hconstants, hproperties, hmethods, List.nil_append, List.nil_append, madeConstructor]
  cases decl.lacksConstructor <;> rfl

/-- A constructor is never handed to the dispatcher. -/
theorem Method.treatment_of_constructor {method : Method} (h : method.isConstructor = true)
    (kind : Kind) (advice : List Advice) : method.treatment kind advice ≠ .dispatched := by
  intro hdispatched
  have hwrap := ((method.treatment_eq_dispatched_iff kind advice).1 hdispatched).2.2
  have hother := (method.isWrappable_iff.1 hwrap).2.2.2
  rw [h] at hother
  exact Bool.noConfusion hother

theorem Declaration.constructs_wovenType (lookup : String → Except Fault Declaration)
    (advice : List Advice) (settings : WeaveSettings) (decl : Declaration) :
    decl.Constructs lookup (decl.wovenType lookup advice settings).methods := by
  rw [wovenType_methods]
  have hsignature : ∀ method : Method,
      method.KeepsSignature (method.treated decl.kind advice) :=
    fun method => method.treated_keepsSignature decl.kind advice
  by_cases hkind : decl.kind = .classKind
  · by_cases hlacks : decl.lacksConstructor = true
    · -- nothing that is declared has the name of the constructor
      have hnone := (decl.lacksConstructor_iff.1 hlacks).2
      rw [if_pos hlacks, List.singleton_append]
      refine .made hkind hnone (Inheritance.find_inherits lookup decl)
        (decl.forall₂_treated advice hsignature) ?_
      intro node hnode
      obtain ⟨method, hmethod, rfl⟩ := List.mem_map.1 hnode
      rw [(hsignature method).name]
      exact hnone method hmethod
    · have hsome : ∃ method ∈ decl.methods, method.isConstructor = true := by
        by_contra hno
        simp only [not_exists, not_and, Bool.not_eq_true] at hno
        exact hlacks (decl.lacksConstructor_iff.2 ⟨hkind, hno⟩)
      -- a class cannot lack what one of its methods is
      rw [if_neg hlacks, List.nil_append]
      refine .declared hkind hsome (decl.forall₂_treated advice ?_)
      intro method
      refine ⟨hsignature method, fun hctor => Method.treated_body_of_hooked ?_⟩
      exact (method.treatment_eq_hooked_iff decl.kind advice).2 ⟨hkind, hctor⟩
  · have hlacks : ¬decl.lacksConstructor = true :=
      fun hlacks => hkind (decl.lacksConstructor_iff.1 hlacks).1
    rw [if_neg hlacks, List.nil_append]
    refine .elsewhere hkind (decl.forall₂_treated advice ?_)
    intro method
    refine ⟨hsignature method, fun hctor => Method.treated_body_of_kept ?_ ?_⟩
    · exact fun hhooked => hkind ((method.treatment_eq_hooked_iff decl.kind advice).1 hhooked).1
    · exact Method.treatment_of_constructor hctor decl.kind advice

/-- The bodies that go to the dispatcher are not those of constructors. -/
theorem Declaration.isDispatched_constructor {lookup : String → Except Fault Declaration}
    {advice : List Advice} {settings : WeaveSettings} {decl : Declaration} {node : WovenMethod}
    (hnode : node ∈ (decl.wovenType lookup advice settings).methods)
    (hctor : sameLetters node.name constructorName = true) : node.isDispatched = false := by
  rw [wovenType_methods, List.mem_append] at hnode
  rcases hnode with hmade | hkept
  · -- the made constructor calls its parent and hands the properties over
    by_cases hlacks : decl.lacksConstructor = true
    · rw [if_pos hlacks, List.mem_singleton] at hmade
      rw [hmade]
      cases Inheritance.find lookup decl <;> rfl
    · rw [if_neg hlacks] at hmade
      exact absurd hmade List.not_mem_nil
  · obtain ⟨method, -, rfl⟩ := List.mem_map.1 hkept
    rw [(method.treated_keepsSignature decl.kind advice).name] at hctor
    rw [Bool.eq_false_iff]
    intro hdispatched
    exact Method.treatment_of_constructor hctor decl.kind advice
      ((method.isDispatched_treated decl.kind advice).1 hdispatched)

/-- The constructors of every woven type follow the rules, and none of them goes to the dispatcher,
whatever advice there is. -/
theorem weave_constructors {lookup : String → Except Fault Declaration}
    {advising : List String → List Advice} {settings : WeaveSettings} {name : String}
    {proxy : Proxy} (h : weave lookup advising settings name = .ok proxy) :
    ∃ decl, lookup name = .ok decl ∧ decl.Constructs lookup proxy.file.type.methods ∧
      ∀ node ∈ proxy.file.type.methods, sameLetters node.name constructorName = true →
        node.isDispatched = false := by
  obtain ⟨decl, hdecl, -, rfl⟩ := weave_eq_ok_iff.1 h
  refine ⟨decl, hdecl, ?_, ?_⟩
  · exact decl.constructs_wovenType lookup _ settings
  · intro node hnode hctor
    exact Declaration.isDispatched_constructor hnode hctor

/-- A class `A` that declares nothing, and its parent, which takes a clock of its own namespace. -/
def clockFamily (name : String) : Except Fault Declaration :=
  if name = "B\\P" then
    .ok ((Declaration.empty "B\\P" .classKind).addMethod
      ((Method.empty "__construct").addParameter (.typed "at" "Clock")))
  else .ok ((Declaration.empty "A" .classKind).extending "B\\P")

/-- The constructor made for `A` takes what its parent takes, although there is advice on `A`. -/
theorem weave_constructors_of_clockFamily :
    ∃ proxy, weave clockFamily (fun _ => [Advice.bound "Log" "A" 0]) .standard "A" = .ok proxy ∧
      (proxy.file.type.methods.map fun node => node.parameters.map Parameter.hint) =
        [[some "\\B\\Clock"]] ∧
      ∃ decl, clockFamily "A" = .ok decl ∧ decl.Constructs clockFamily proxy.file.type.methods ∧
        ∀ node ∈ proxy.file.type.methods, sameLetters node.name constructorName = true →
          node.isDispatched = false := by
  have hwoven : weave clockFamily (fun _ => [Advice.bound "Log" "A" 0]) .standard "A" = .ok _ :=
    weave_eq_ok_iff.2 ⟨_, rfl, by decide +kernel, rfl⟩
  exact ⟨_, hwoven, by decide +kernel, weave_constructors hwoven⟩

end Interception
