import Mathlib.Logic.Function.Basic
import Interception.Proofs.WovenShape

/-!
# The variables around a dispatched body

A method that goes through the dispatcher keeps two magic words in variables of its own.  Then its
declared statements are called in a closure, which sees only the variables that it takes along, as they
stand at the call.  Main statement: a parameter reaches the declared statements with its argument
exactly if its name is neither `__function__` nor `__method__`.  If a parameter bears one of these
names, then the closure also takes a variable along twice, and a word is kept where an argument was.
-/

namespace Interception

open Text

/-! ## Calls of the dispatcher -/

/-- A call of the dispatcher, with what happens before it. -/
structure Deferral where
  /-- The variables that are assigned before the call, with the words they are given. -/
  kept : List (String × MagicWord)
  /-- The variables that the closure takes along. -/
  captures : List Capture
  /-- The statements in the closure. -/
  body : List Stmt

/-- The call of the dispatcher in a body where only words are kept before it. -/
def Stmt.deferral? : List Stmt → Option Deferral
  | .keep name word :: others =>
    (deferral? others).map fun deferral =>
      { deferral with kept := (name, word) :: deferral.kept }
  | .dispatch _ _ captures body :: _ => some ⟨[], captures, body⟩
  | _ => none

/-- The call of the dispatcher in a woven method. -/
def WovenMethod.deferral? (node : WovenMethod) : Option Deferral := node.body.bind Stmt.deferral?

section Keeping

variable {α : Type} {name : String} {kept : List (String × MagicWord)}

/-- What the variables hold when words have been kept, one after the other, in place of `values`. -/
def afterKeeping (meaning : MagicWord → α) (kept : List (String × MagicWord))
    (values : String → Option α) : String → Option α :=
  kept.foldl (fun held one => Function.update held one.1 (some (meaning one.2))) values

/-- The other variables are left alone. -/
theorem afterKeeping_of_not_mem (meaning : MagicWord → α) (hname : name ∉ kept.map Prod.fst)
    (values : String → Option α) : afterKeeping meaning kept values name = values name := by
  unfold afterKeeping
  induction kept generalizing values with
  | nil => rfl
  | cons first others ih =>
    rw [List.map_cons, List.mem_cons, not_or] at hname
    rw [List.foldl_cons, ih hname.2, Function.update_of_ne hname.1]

/-- A variable in which a word is kept holds something, whatever comes after. -/
theorem afterKeeping_ne_none (meaning : MagicWord → α) (values : String → Option α)
    (hname : name ∈ kept.map Prod.fst ∨ values name ≠ none) :
    afterKeeping meaning kept values name ≠ none := by
  unfold afterKeeping
  induction kept generalizing values with
  | nil => exact hname.resolve_left List.not_mem_nil
  | cons first others ih =>
    rw [List.foldl_cons]
    apply ih
    by_cases hfirst : name = first.1
    · right
      rw [hfirst, Function.update_self]
      exact Option.some_ne_none _
    · rw [Function.update_of_ne hfirst]
      simpa [hfirst] using hname

end Keeping

namespace Deferral

variable {α : Type} {deferral : Deferral} {name : String}

/-- The variables that are assigned before the call. -/
def helpers (deferral : Deferral) : List String := deferral.kept.map Prod.fst

/-- The variables that the closure takes along. -/
def taken (deferral : Deferral) : List String := deferral.captures.map Capture.name

/-- What the variables hold in the closure, if `values` says what they hold when the method is
called. -/
def inside (deferral : Deferral) (meaning : MagicWord → α) (values : String → Option α) :
    String → Option α :=
  fun name => if name ∈ deferral.taken then afterKeeping meaning deferral.kept values name else none

/-- Whatever a variable holds when the method is called, it holds in the closure. -/
def Preserves (deferral : Deferral) (name : String) : Prop :=
  ∀ {α : Type} (meaning : MagicWord → α) (values : String → Option α),
    deferral.inside meaning values name = values name

/-- In the closure a variable holds what it did if it is taken along and was not assigned. -/
theorem preserves_iff : deferral.Preserves name ↔ name ∈ deferral.taken ∧ name ∉ deferral.helpers := by
  constructor
  · intro h
    have htaken : name ∈ deferral.taken := by
      -- a variable that held something would be missed
      by_contra hmissed
      have hlost := h (fun _ => ()) (fun _ => some ())
      rw [inside, if_neg hmissed] at hlost
      cases hlost
    refine ⟨htaken, fun hhelper => ?_⟩
    -- a variable that held nothing would hold a word
    have hempty := h (fun _ => ()) (fun _ => none)
    rw [inside, if_pos htaken] at hempty
    exact afterKeeping_ne_none _ _ (.inl hhelper) hempty
  · rintro ⟨htaken, hhelper⟩ α meaning values
    rw [inside, if_pos htaken, afterKeeping_of_not_mem meaning hhelper]

end Deferral

/-! ## The call in a dispatched method -/

/-- The name is neither of those under which the words are kept. -/
def Parameter.NamedApart (parameter : Parameter) : Prop :=
  parameter.name ≠ "__function__" ∧ parameter.name ≠ "__method__"

instance Parameter.decidableNamedApart : DecidablePred Parameter.NamedApart :=
  fun _ => inferInstanceAs (Decidable (_ ∧ _))

/-- What a dispatched method with these parameters does with its variables. -/
structure Deferral.Treats (deferral : Deferral) (parameters : List Parameter) : Prop where
  /-- Of parameters with different names, the closure takes each variable along once if no name stands
  for a word, and only then. -/
  taken : (parameters.map Parameter.name).Nodup →
    (deferral.taken.Nodup ↔ ∀ parameter ∈ parameters, parameter.NamedApart)
  /-- The words are kept beside the parameters in the same case. -/
  helpers : (∀ parameter ∈ parameters, parameter.name ∉ deferral.helpers) ↔
    ∀ parameter ∈ parameters, parameter.NamedApart
  /-- Each parameter whose name does not stand for a word brings its argument, and no other one. -/
  preserves : ∀ parameter ∈ parameters,
    deferral.Preserves parameter.name ↔ parameter.NamedApart

namespace Method

/-- The call of the dispatcher that takes the place of the body. -/
def deferral (method : Method) : Deferral :=
  ⟨[("__function__", .ofFunction), ("__method__", .ofMethod)], method.captures,
    method.woven.body.getD []⟩

theorem deferral?_dispatched (kind : Kind) (method : Method) :
    (method.dispatched kind).deferral? = some method.deferral := rfl

theorem taken_deferral (method : Method) : method.deferral.taken =
    "__function__" :: "__method__" :: method.parameters.map Parameter.name := by
  show method.captures.map Capture.name = _
  rw [captures, List.map_cons, List.map_cons, List.map_map]
  rfl

theorem not_mem_helpers_iff {method : Method} {parameter : Parameter} :
    parameter.name ∉ method.deferral.helpers ↔ parameter.NamedApart := by
  show parameter.name ∉ ["__function__", "__method__"] ↔ _
  simp [Parameter.NamedApart]

theorem nodup_taken_iff {method : Method} (hnames : (method.parameters.map Parameter.name).Nodup) :
    method.deferral.taken.Nodup ↔ ∀ parameter ∈ method.parameters, parameter.NamedApart := by
  have hwords : "__function__" ≠ "__method__" := by decide
  rw [taken_deferral]
  simp only [List.nodup_cons, List.mem_cons, List.mem_map, not_or, hnames, and_true, hwords,
    not_false_eq_true, true_and, not_exists, not_and, Parameter.NamedApart]
  exact ⟨fun h parameter hparameter => ⟨h.1 parameter hparameter, h.2 parameter hparameter⟩,
    fun h => ⟨fun parameter hparameter => (h parameter hparameter).1,
      fun parameter hparameter => (h parameter hparameter).2⟩⟩

/-- Both words are written over parameters of their names, and only these. -/
theorem treats_deferral (method : Method) : method.deferral.Treats method.parameters where
  taken := nodup_taken_iff
  helpers := forall₂_congr fun _ _ => not_mem_helpers_iff
  preserves := by
    intro parameter hparameter
    have htaken : parameter.name ∈ method.deferral.taken := by
      rw [taken_deferral]
      exact List.mem_cons_of_mem _ (List.mem_cons_of_mem _ (List.mem_map_of_mem hparameter))
    rw [Deferral.preserves_iff, not_mem_helpers_iff, and_iff_right htaken]

end Method

namespace Declaration

/-- A dispatched method of a woven type is a declared one whose body is called by the dispatcher. -/
theorem exists_of_isDispatched {lookup : String → Except Fault Declaration} {advice : List Advice}
    {settings : WeaveSettings} {decl : Declaration} {node : WovenMethod}
    (hnode : node ∈ (decl.wovenType lookup advice settings).methods)
    (hdispatched : node.isDispatched = true) :
    ∃ method ∈ decl.methods, method.treatment decl.kind advice = .dispatched ∧
      node = method.dispatched decl.kind := by
  rcases mem_wovenType_methods lookup advice settings hnode with ⟨-, rfl⟩ | ⟨method, hmethod, rfl⟩
  · -- the constructor made for a class is none of them
    have hmade := isDispatched_constructor hnode (sameLetters_refl _)
    rw [hmade] at hdispatched
    cases hdispatched
  · have htreatment := (method.isDispatched_treated decl.kind advice).1 hdispatched
    exact ⟨method, hmethod, htreatment, by rw [Method.treated, htreatment]⟩

end Declaration

/-- Nothing but the names of the parameters decides how a dispatched method treats its variables.
Every such method of a woven type keeps both words, then calls the declared statements; a parameter
reaches them with its argument exactly if its name stands for no word. -/
theorem weave_treats {lookup : String → Except Fault Declaration} {name : String}
    {decl : Declaration} (hdecl : lookup name = .ok decl) (haccepted : decl.obstacle? = none)
    (advising : List String → List Advice) (settings : WeaveSettings) :
    ∃ proxy, weave lookup advising settings name = .ok proxy ∧
      ∀ node ∈ proxy.file.type.methods, node.isDispatched = true →
        ∃ method ∈ decl.methods, ∃ deferral, method.KeepsSignature node ∧
          node.deferral? = some deferral ∧
          method.body.map (List.map .verbatim) = some deferral.body ∧
          deferral.Treats node.parameters := by
  refine ⟨_, weave_eq_ok_iff.2 ⟨decl, hdecl, haccepted, rfl⟩, ?_⟩
  intro node hnode hdispatched
  obtain ⟨method, hmethod, htreatment, rfl⟩ := Declaration.exists_of_isDispatched hnode hdispatched
  have hwrap := ((method.treatment_eq_dispatched_iff _ _).1 htreatment).2.2
  obtain ⟨statements, hbody⟩ := Option.isSome_iff_exists.1 (method.isWrappable_iff.1 hwrap).2.2.1
  refine ⟨method, hmethod, method.deferral, ⟨rfl, rfl, rfl, rfl, rfl, rfl, rfl⟩,
    method.deferral?_dispatched _, ?_, method.treats_deferral⟩
  simp only [Method.deferral, Method.woven, hbody, Option.map_some, Option.getD_some]

/-- A method that takes a value and fills in a variable of its caller. -/
def fillingMethod : Method :=
  (((Method.empty "fill").addParameter (.typed "id" "int")).addParameter
    { Parameter.untyped "out" with byRef := true }).addStatement "$out = $id;"

/-- A class with that method. -/
def fillingClass : Declaration := (Declaration.empty "A" .classKind).addMethod fillingMethod

/-- Every name leads to that class. -/
def fillingFamily (_ : String) : Except Fault Declaration := .ok fillingClass

/-- Both parameters reach the statements of the method, and each is taken along once. -/
theorem weave_treats_of_fillingClass :
    let advising : List String → List Advice := fun _ => [Advice.bound "Log" "A" 0]
    let node := fillingMethod.treated .classKind (fillingClass.applicable advising)
    fillingClass.obstacle? = none ∧
      ∃ proxy, weave fillingFamily advising .standard "A" = .ok proxy ∧
        node ∈ proxy.file.type.methods ∧ node.isDispatched = true ∧
        ∃ deferral, node.deferral? = some deferral ∧ deferral.taken.Nodup ∧
          deferral.Preserves "id" ∧ deferral.Preserves "out" := by
  intro advising node
  have haccepted : fillingClass.obstacle? = none := by decide +kernel
  obtain ⟨proxy, hwoven, htreats⟩ :=
    weave_treats (show fillingFamily "A" = .ok fillingClass from rfl) haccepted advising .standard
  have hproxy : weave fillingFamily advising .standard "A" =
      .ok (fillingClass.proxy fillingFamily (fillingClass.applicable advising) .standard) :=
    weave_eq_ok_iff.2 ⟨fillingClass, rfl, haccepted, rfl⟩
  obtain rfl := Except.ok.inj (hwoven.symm.trans hproxy)
  have hmethod : fillingMethod ∈ fillingClass.methods := List.mem_singleton_self _
  have hnode := Declaration.treated_mem_wovenType fillingFamily (fillingClass.applicable advising)
    .standard hmethod
  have hdispatched : node.isDispatched = true := by decide +kernel
  obtain ⟨_, -, deferral, -, hdeferral, -, htreated⟩ := htreats node hnode hdispatched
  have hparameters : node.parameters = fillingMethod.parameters :=
    (fillingMethod.treated_keepsSignature _ _).parameters
  rw [hparameters] at htreated
  have hapart : ∀ parameter ∈ fillingMethod.parameters, parameter.NamedApart := by
    decide +kernel
  refine ⟨haccepted, _, hwoven, hnode, hdispatched, deferral, hdeferral, ?_, ?_, ?_⟩
  · exact (htreated.taken (by decide +kernel)).2 hapart
  · exact (htreated.preserves (.typed "id" "int") (by decide +kernel)).2 ⟨by decide, by decide⟩
  · exact (htreated.preserves { Parameter.untyped "out" with byRef := true } (by decide +kernel)).2
      ⟨by decide, by decide⟩

/-- A method whose parameter has the name under which the first word is kept. -/
def namesakeMethod : Method :=
  ((Method.empty "run").addParameter (.untyped "__function__")).addStatement "return $__function__;"

/-- A class with that method. -/
def namesakeClass : Declaration := (Declaration.empty "A" .classKind).addMethod namesakeMethod

/-- Every name leads to that class. -/
def namesakeFamily (_ : String) : Except Fault Declaration := .ok namesakeClass

/-- The only parameter of that method is overwritten with a word before the call, and the closure takes
the variable along twice. -/
theorem weave_namesakeClass_clashes :
    let advising : List String → List Advice := fun _ => [Advice.bound "Log" "A" 0]
    let node := namesakeMethod.treated .classKind (namesakeClass.applicable advising)
    ∃ proxy, weave namesakeFamily advising .standard "A" = .ok proxy ∧
      node ∈ proxy.file.type.methods ∧ node.isDispatched = true ∧
      (node.parameters.map Parameter.name).Nodup ∧
      (∃ deferral, node.deferral? = some deferral ∧ ¬deferral.taken.Nodup ∧
        (∃ parameter ∈ node.parameters, parameter.name ∈ deferral.helpers ∧
          ¬deferral.Preserves parameter.name)) ∧
      "        return self::__proxyCall(__CLASS__, __FUNCTION__, " ++
          "self::__getParamsMap(__CLASS__, __FUNCTION__, func_get_args()), " ++
          "function () use($__function__, $__method__, $__function__) " ++ leftBrace ∈
        Layout.lines proxy.file := by
  intro advising node
  have haccepted : namesakeClass.obstacle? = none := by decide +kernel
  have hmethod : namesakeMethod ∈ namesakeClass.methods := List.mem_singleton_self _
  have hnode := Declaration.treated_mem_wovenType namesakeFamily (namesakeClass.applicable advising)
    .standard hmethod
  have hdispatched : node.isDispatched = true := by decide +kernel
  have htwice : ¬namesakeMethod.deferral.taken.Nodup := by decide +kernel
  have hhelper : "__function__" ∈ namesakeMethod.deferral.helpers := by decide +kernel
  have hlost : ¬namesakeMethod.deferral.Preserves "__function__" :=
    fun h => (Deferral.preserves_iff.1 h).2 hhelper
  refine ⟨_, weave_eq_ok_iff.2 ⟨namesakeClass, rfl, haccepted, rfl⟩, hnode, hdispatched,
    by decide +kernel, ⟨namesakeMethod.deferral, rfl, htwice, ?_⟩, by decide +kernel⟩
  exact ⟨.untyped "__function__", List.mem_singleton_self _, hhelper, hlost⟩

end Interception
