import Interception.Proofs.GateRun

/-!
# Faults that the search for a handler loses

The action of a controller is looked for on the controller, on the traits that it uses and on its
ancestors.  A type that cannot be looked up may be one that nobody declares, or its source may fail.
Main statements: on traits and ancestors the search takes every fault for the lack of a declaration,
whatever the source; so the only fault of a source that comes out is the one on the controller itself,
and after any other one the gate goes on with the parameters of the next method that is found.
-/

namespace Interception

namespace Ancestry

variable {m : Type → Type} [Monad m] [LawfulMonad m] (lookup : String → m (Except Fault Declaration))

/-- The look-up with every fault taken for the lack of a declaration. -/
def dulled (name : String) : m (Except Fault Declaration) := do
  match ← lookup name with
  | .ok decl => pure (.ok decl)
  | .error _ => pure (.error (.unknownType name))

theorem amongTraits_dulled (name : String) (traits : List String) :
    amongTraits (dulled lookup) name traits = amongTraits lookup name traits := by
  induction traits with
  | nil => rfl
  | cons first others ih =>
    rw [amongTraits, amongTraits, dulled, bind_assoc]
    refine bind_congr fun answer => ?_
    -- with or without a declaration, the search goes on to the same traits
    cases answer with
    | ok decl => rw [pure_bind, ih]
    | error fault => rw [pure_bind, ih]

theorem onType_dulled (decl : Declaration) (name : String) :
    onType (dulled lookup) decl name = onType lookup decl name := by
  rw [onType, onType, amongTraits_dulled]

/-- Above the type, a fault is as good as the lack of a declaration. -/
theorem climb_dulled (name : String) (steps : Nat) (decl : Declaration) :
    climb (dulled lookup) name steps decl = climb lookup name steps decl := by
  induction steps generalizing decl with
  | zero => exact onType_dulled lookup decl name
  | succ steps ih =>
    rw [climb, climb, onType_dulled]
    refine bind_congr fun found => ?_
    cases found with
    | some sighting => rfl
    | none =>
      cases decl.parent with
      | none => rfl
      | some parent =>
        dsimp only
        rw [dulled, bind_assoc]
        refine bind_congr fun answer => ?_
        cases answer with
        | ok ancestor => rw [pure_bind]; exact ih ancestor
        | error fault => rw [pure_bind]

end Ancestry

namespace Callable

/-- The parameters of the handler when the search for its action has come to its end. -/
def outcome (handler : Callable) : Option Sighting → Except Fault (List Parameter)
  | none => .error (.unknownHandler handler.text)
  | some sighting => .ok (resolved sighting)

/-- Only a controller and an action have anything searched for. -/
theorem parameters_of_split {m : Type → Type} [Monad m] [LawfulMonad m]
    (lookup : String → m (Except Fault Declaration)) {handler : Callable}
    {controller action : String} (hsplit : handler.split = .ok (controller, action)) :
    handler.parameters lookup =
      (fun found => found.bind handler.outcome) <$> Ancestry.find lookup controller action := by
  rw [map_eq_pure_bind]
  cases handler with
  | inline declared => cases hsplit
  | written callback =>
    simp only [parameters, hsplit]
    refine bind_congr fun found => ?_
    rcases found with fault | found | sighting <;> rfl
  | apart controller' action' =>
    simp only [parameters, hsplit]
    refine bind_congr fun found => ?_
    rcases found with fault | found | sighting <;> rfl

/-- The parameters of an action: only a fault on the controller itself is seen. -/
theorem parameters_eq {m : Type → Type} [Monad m] [LawfulMonad m]
    (lookup : String → m (Except Fault Declaration)) {handler : Callable}
    {controller action : String} (hsplit : handler.split = .ok (controller, action)) :
    handler.parameters lookup = (do
      match ← lookup controller with
      | .error fault => pure (.error fault)
      | .ok decl =>
        handler.outcome <$> Ancestry.climb (Ancestry.dulled lookup) action Ancestry.limit decl) := by
  rw [parameters_of_split lookup hsplit, Ancestry.find, map_bind]
  refine bind_congr fun answer => ?_
  cases answer with
  | error fault => rw [map_pure]; rfl
  | ok decl =>
    dsimp only
    rw [Ancestry.climb_dulled, map_bind, map_eq_pure_bind]
    refine bind_congr fun found => ?_
    rw [map_pure]
    rfl

variable {σ : Type} {handler : Callable} {controller action : String}

/-- What the parameters of an action come to in a world. -/
theorem parameters_value (source : Source σ) (hsplit : handler.split = .ok (controller, action))
    (world : σ) :
    (handler.parameters source.lookup world).value =
      match (source.lookup controller world).value with
      | (.error fault, found) => (.error fault, found)
      | (.ok decl, found) =>
        let search := Ancestry.climb (Ancestry.dulled source.lookup) action Ancestry.limit decl found
        (handler.outcome search.value.1, search.value.2) := by
  rw [parameters_eq source.lookup hsplit]
  rcases hfirst : (source.lookup controller world).value with ⟨answer, found⟩
  rw [Act.value_bind_of_eq hfirst]
  cases answer with
  | error fault => rfl
  | ok decl => rfl

/-- A fault comes out if it is the one on the controller itself, or if nothing is found and it says
so. -/
theorem parameters_eq_error_iff (source : Source σ)
    (hsplit : handler.split = .ok (controller, action)) (world : σ) (fault : Fault) :
    (handler.parameters source.lookup world).value.1 = .error fault ↔
      (source.lookup controller world).value.1 = .error fault ∨
        ∃ decl found, (source.lookup controller world).value = (.ok decl, found) ∧
          (Ancestry.climb (Ancestry.dulled source.lookup) action Ancestry.limit decl found).value.1 =
            none ∧ fault = .unknownHandler handler.text := by
  rw [parameters_value source hsplit world]
  rcases (source.lookup controller world).value with ⟨answer, found⟩
  cases answer with
  | error other => simp
  | ok decl =>
    simp only [Prod.mk.injEq, Except.ok.injEq, reduceCtorEq, false_or]
    constructor
    · intro hfault
      cases hsearch : (Ancestry.climb (Ancestry.dulled source.lookup) action Ancestry.limit decl
          found).value.1 with
      | none =>
        rw [hsearch] at hfault
        exact ⟨decl, found, ⟨rfl, rfl⟩, hsearch, (Except.error.inj hfault).symm⟩
      | some sighting =>
        rw [hsearch] at hfault
        cases hfault
    · rintro ⟨_, _, ⟨rfl, rfl⟩, hsearch, rfl⟩
      rw [hsearch]
      rfl

end Callable

namespace Gate

variable {σ : Type}

/-- What comes of the handler of a request, whatever the source: a fault on the controller itself is
the outcome, and the next handler is not asked.  On a trait or an ancestor any fault counts as the
lack of a declaration, so it comes out only if it happens to say that the handler does not exist,
where this is what is found without it. -/
theorem handler_fault_iff (gate : Gate σ) (next : Handler (Session σ)) {request : Request}
    {handler : Callable} {controller action : String}
    (hroute : request.route = some ⟨.found, some handler⟩)
    (hsplit : handler.split = .ok (controller, action)) (before : Session (Watched σ)) :
    let source := gate.source.watched
    let resolved := (handler.parameters source.lookup before.world).value
    handler.parameters source.lookup = (do
        match ← source.lookup controller with
        | .error fault => pure (.error fault)
        | .ok decl =>
          handler.outcome <$> Ancestry.climb (Ancestry.dulled source.lookup) action Ancestry.limit
            decl) ∧
      (∀ fault, resolved.1 = .error fault ↔
        (source.lookup controller before.world).value.1 = .error fault ∨
          ∃ decl found, (source.lookup controller before.world).value = (.ok decl, found) ∧
            (Ancestry.climb (Ancestry.dulled source.lookup) action Ancestry.limit decl
              found).value.1 = none ∧ fault = .unknownHandler handler.text) ∧
      ∀ fault, resolved.1 = .error fault →
        (gate.watched.process next.watched request before).value =
            (.error fault, ⟨before.memo, resolved.2⟩) ∧
          OnlyDeclarations before.calls resolved.2.calls := by
  intro source resolved
  refine ⟨Callable.parameters_eq source.lookup hsplit,
    Callable.parameters_eq_error_iff source hsplit before.world, ?_⟩
  intro fault hfault
  have houtside : (Session.outside (handler.parameters source.lookup) before).value =
      (.error fault, ⟨before.memo, resolved.2⟩) := by
    rw [← hfault]
    rfl
  have hasked := Session.parameters_asks gate.source handler before
  rw [houtside] at hasked
  exact ⟨Run.process (.faulty hroute houtside hasked), hasked⟩

/-- A class `C` with a trait `T` and a parent `P` that has the action `store`.  The source fails on `T`,
and on the parent of the class `D`. -/
def mutedFamily (name : String) : Except Fault Declaration :=
  if name = "C" then .ok (((Declaration.empty "C" .classKind).mixing "T").extending "P")
  else if name = "D" then .ok ((Declaration.empty "D" .classKind).extending "Q")
  else if name = "P" then .ok ((Declaration.empty "P" .classKind).addMethod (.empty "store"))
  else .error (.unresolved name "offline")

/-- A gate over that family. -/
def mutedGate : Gate Unit where
  source := ⟨fun name => pure (mutedFamily name), fun _ => 4⟩
  container := fun type => pure (.error (.unresolved type "no binding registered"))
  settings := ⟨"Marker", 403⟩

/-- The fault on a controller comes out, and the next handler is not asked. -/
theorem handler_fault_of_mutedGate :
    let request : Request := ⟨"r", some ⟨.found, some (.written "E@store")⟩, .empty 200⟩
    let next : Handler (Session Unit) := fun _ => pure (.ok (.empty 204))
    let start : Session (Watched Unit) := ⟨.empty, ⟨(), []⟩⟩
    let done := (mutedGate.watched.process next.watched request start).value
    request.route = some ⟨.found, some (.written "E@store")⟩ ∧
      Callable.split (.written "E@store") = .ok ("E", "store") ∧
      done.1 = .error (.unresolved "E" "offline") ∧ OnlyDeclarations [] done.2.calls := by
  intro request next start done
  have hroute : request.route = some ⟨.found, some (.written "E@store")⟩ := rfl
  have hsplit : Callable.split (.written "E@store") = .ok ("E", "store") := by decide +kernel
  obtain ⟨-, hfault, hprocess⟩ := handler_fault_iff mutedGate next hroute hsplit start
  obtain ⟨hdone, hasked⟩ := hprocess (.unresolved "E" "offline") ((hfault _).2 (.inl rfl))
  refine ⟨hroute, hsplit, congrArg Prod.fst hdone, ?_⟩
  rw [show done = _ from hdone]
  exact hasked

/-- A used trait and an ancestor that the source fails on are passed over: the action of the parent
counts in place of that of the trait, and the request goes on; or the handler is said not to exist. -/
theorem handler_fault_lost_by_mutedGate :
    let request : Callable → Request := fun handler =>
      ⟨"r", some ⟨.found, some handler⟩, .empty 200⟩
    let next : Handler (Session Unit) := fun _ => pure (.ok (.empty 204))
    let start : Session (Watched Unit) := ⟨.empty, ⟨(), []⟩⟩
    let first := (mutedGate.watched.process next.watched (request (.written "C@store")) start).value
    let second := (mutedGate.watched.process next.watched (request (.written "D@store")) start).value
    mutedFamily "T" = .error (.unresolved "T" "offline") ∧ first.1 = .ok (.empty 204) ∧
      first.2.calls = [.declaration "C", .declaration "T", .declaration "P",
        .answer (request (.written "C@store"))] ∧
      mutedFamily "Q" = .error (.unresolved "Q" "offline") ∧
      second.1 = .error (.unknownHandler "D@store") ∧
      second.2.calls = [.declaration "D", .declaration "Q"] := by
  intro request next start first second
  have hfirst : first.1 = .ok (.empty 204) := by decide +kernel
  have hfirstCalls : first.2.calls = [.declaration "C", .declaration "T", .declaration "P",
      .answer (request (.written "C@store"))] := by decide +kernel
  have hsecond : second.1 = .error (.unknownHandler "D@store") := by decide +kernel
  have hsecondCalls : second.2.calls = [.declaration "D", .declaration "Q"] := by decide +kernel
  exact ⟨rfl, hfirst, hfirstCalls, rfl, hsecond, hsecondCalls⟩

end Gate

end Interception
