import Interception.Proofs.Watched

/-!
# Runs of the gate

How the gate deals with a request, told apart from how it is computed: parameter by parameter, with
every call that is made on the way.  A parameter passes or it decides the request; the first one that
decides is the last one that is looked at, and the next handler is asked when none does.  Main
statement: the gate does exactly what a run says, and a watched gate does what the gate does.
-/

namespace Interception.Gate

variable {σ : Type} (gate : Gate σ) (next : Handler (Session σ)) (request : Request)

/-- `type` is what a parameter asks for, its instances validate themselves, and this is known after
the source has been asked for declarations at most. -/
structure Guarded (parameter : Parameter) (type : String) (before after : Session (Watched σ)) :
    Prop where
  typed : parameter.classType = some type
  declared : Name.isBuiltin type = false
  marked : ∃ set, (Session.interfaces gate.source.watched type before).value = (.ok set, after) ∧
    gate.settings.marker ∈ set
  asked : OnlyDeclarations before.calls after.calls

/-- The request goes on after a look at the parameter. -/
inductive Passes (parameter : Parameter) (before : Session (Watched σ)) :
    Session (Watched σ) → Prop where
  /-- It names no single type, and nothing is asked. -/
  | untyped (hnone : parameter.classType = none) : Passes parameter before before
  /-- It names a builtin, and nothing is asked. -/
  | builtin {type : String} (htype : parameter.classType = some type)
      (hbuiltin : Name.isBuiltin type = true) : Passes parameter before before
  /-- Its type lacks the marker, and no instance is asked for. -/
  | unmarked {type : String} {set : NameSet} {after : Session (Watched σ)}
      (htype : parameter.classType = some type) (hdeclared : Name.isBuiltin type = false)
      (hset : (Session.interfaces gate.source.watched type before).value = (.ok set, after))
      (hmarker : gate.settings.marker ∉ set) (hasked : OnlyDeclarations before.calls after.calls) :
      Passes parameter before after
  /-- An instance of its type is got and accepts, each by one call. -/
  | accepted {type : String} {found : Session (Watched σ)} {validator : Validator σ}
      {made done : σ} (hguarded : Guarded gate parameter type before found)
      (hgot : (gate.container type found.plain.world).value = (.ok validator, made))
      (haccepts : (validator made).value = (.ok (), done)) :
      Passes parameter before (found.after done [.resolve type, .validate type])

/-- The look at the parameter decides the request. -/
inductive Decides (parameter : Parameter) (before : Session (Watched σ)) :
    Except Fault Response → Session (Watched σ) → Prop where
  /-- The interfaces of its type cannot be found. -/
  | unknown {type : String} {fault : Fault} {after : Session (Watched σ)}
      (htype : parameter.classType = some type) (hdeclared : Name.isBuiltin type = false)
      (hfault : (Session.interfaces gate.source.watched type before).value = (.error fault, after))
      (hasked : OnlyDeclarations before.calls after.calls) :
      Decides parameter before (.error fault) after
  /-- There is no instance of its type. -/
  | unresolved {type : String} {found : Session (Watched σ)} {fault : Fault} {made : σ}
      (hguarded : Guarded gate parameter type before found)
      (hgot : (gate.container type found.plain.world).value = (.error fault, made)) :
      Decides parameter before (.error fault) (found.after made [.resolve type])
  /-- The instance denies authority: the context response goes back, its status forbidden. -/
  | unauthorized {type message : String} {found : Session (Watched σ)} {validator : Validator σ}
      {made done : σ} (hguarded : Guarded gate parameter type before found)
      (hgot : (gate.container type found.plain.world).value = (.ok validator, made))
      (hdenies : (validator made).value = (.error (.unauthorized message), done)) :
      Decides parameter before
        (.ok ⟨gate.settings.forbiddenStatus, request.context.headers, request.context.body⟩)
        (found.after done [.resolve type, .validate type])
  /-- The instance finds its input invalid. -/
  | invalid {type message : String} {found : Session (Watched σ)} {validator : Validator σ}
      {made done : σ} (hguarded : Guarded gate parameter type before found)
      (hgot : (gate.container type found.plain.world).value = (.ok validator, made))
      (hdenies : (validator made).value = (.error (.invalid message), done)) :
      Decides parameter before (.error (.invalid type message))
        (found.after done [.resolve type, .validate type])

/-- The request goes on after a look at each of the parameters in turn. -/
inductive PassesAll : List Parameter → Session (Watched σ) → Session (Watched σ) → Prop where
  | nil {session : Session (Watched σ)} : PassesAll [] session session
  | cons {first : Parameter} {others : List Parameter} {before between after : Session (Watched σ)}
      (hfirst : Passes gate first before between) (hothers : PassesAll others between after) :
      PassesAll (first :: others) before after

/-- How the gate deals with a request. -/
inductive Run (before : Session (Watched σ)) :
    Except Fault Response → Session (Watched σ) → Prop where
  /-- Routing has not taken place; nothing is asked. -/
  | unrouted (hroute : request.route = none) :
      Run before (.error (.misrouted "request carries no dispatch result")) before
  /-- A route was found that leads nowhere; nothing is asked. -/
  | unhandled (hroute : request.route = some ⟨.found, none⟩) :
      Run before (.error (.misrouted "found route carries no handler")) before
  /-- No route was found: the next handler answers, and is all that is asked. -/
  | unfound {status : RouteStatus} {handler : Option Callable} {answer : Except Fault Response}
      {left : Session σ} (hroute : request.route = some ⟨status, handler⟩)
      (hstatus : status ≠ .found) (hnext : (next request before.plain).value = (answer, left)) :
      Run before answer ⟨left.memo, left.world, before.calls ++ [.answer request]⟩
  /-- The parameters of the handler cannot be found. -/
  | faulty {handler : Callable} {fault : Fault} {after : Session (Watched σ)}
      (hroute : request.route = some ⟨.found, some handler⟩)
      (hfault : (Session.outside (handler.parameters gate.source.watched.lookup) before).value =
        (.error fault, after))
      (hasked : OnlyDeclarations before.calls after.calls) : Run before (.error fault) after
  /-- A parameter decides after all earlier ones have passed; nothing is asked after that. -/
  | decided {handler : Callable} {passed others : List Parameter} {parameter : Parameter}
      {found between after : Session (Watched σ)} {answer : Except Fault Response}
      (hroute : request.route = some ⟨.found, some handler⟩)
      (hfound : (Session.outside (handler.parameters gate.source.watched.lookup) before).value =
        (.ok (passed ++ parameter :: others), found))
      (hasked : OnlyDeclarations before.calls found.calls)
      (hpassed : PassesAll gate passed found between)
      (hdecides : Decides gate request parameter between answer after) : Run before answer after
  /-- All parameters pass, and then the next handler answers. -/
  | passed {handler : Callable} {parameters : List Parameter} {found between : Session (Watched σ)}
      {answer : Except Fault Response} {left : Session σ}
      (hroute : request.route = some ⟨.found, some handler⟩)
      (hfound : (Session.outside (handler.parameters gate.source.watched.lookup) before).value =
        (.ok parameters, found))
      (hasked : OnlyDeclarations before.calls found.calls)
      (hpassed : PassesAll gate parameters found between)
      (hnext : (next request between.plain).value = (answer, left)) :
      Run before answer ⟨left.memo, left.world, between.calls ++ [.answer request]⟩

/-! ## The gate does what a run says -/

theorem guards_of_set {type : String} {set : NameSet} {before after : Session σ}
    (hdeclared : Name.isBuiltin type = false)
    (hset : (Session.interfaces gate.source type before).value = (.ok set, after)) :
    (gate.guards type before).value = (.ok (set.contains gate.settings.marker), after) := by
  rw [guards, hdeclared, if_neg Bool.false_ne_true, Act.value_bind_of_eq hset]
  rfl

theorem guards_of_fault {type : String} {fault : Fault} {before after : Session σ}
    (hdeclared : Name.isBuiltin type = false)
    (hfault : (Session.interfaces gate.source type before).value = (.error fault, after)) :
    (gate.guards type before).value = (.error fault, after) := by
  rw [guards, hdeclared, if_neg Bool.false_ne_true, Act.value_bind_of_eq hfault]
  rfl

theorem validate_of_fault {type : String} {fault : Fault} {found : Session (Watched σ)} {made : σ}
    (hgot : (gate.container type found.plain.world).value = (.error fault, made)) :
    (gate.watched.validate type found).value =
      (.failed fault, found.after made [.resolve type]) := by
  have hasked : (Session.outside (gate.container.watched type) found).value =
      (.error fault, found.after made [.resolve type]) := by
    rw [Session.outside_container, hgot]
    rfl
  exact Act.value_bind_of_eq hasked

theorem validate_of_answer {type : String} {found : Session (Watched σ)} {validator : Validator σ}
    {answer : Except Rejection Unit} {made done : σ}
    (hgot : (gate.container type found.plain.world).value = (.ok validator, made))
    (hanswer : (validator made).value = (answer, done)) :
    (gate.watched.validate type found).value =
      (.ofAnswer type answer, found.after done [.resolve type, .validate type]) := by
  have hasked : (Session.outside (gate.container.watched type) found).value =
      (.ok ((Call.validate type).asking validator), found.after made [.resolve type]) := by
    rw [Session.outside_container, hgot]
    rfl
  have hanswered : (Session.outside ((Call.validate type).asking validator)
      (found.after made [.resolve type])).value =
        (answer, found.after done [.resolve type, .validate type]) := by
    rw [Session.outside_asking, Session.after_after]
    change (((validator made).value.1, found.after (validator made).value.2 _) : _ × _) = _
    rw [hanswer]
    rfl
  refine (Act.value_bind_of_eq hasked).trans ?_
  exact Act.value_bind_of_eq hanswered

/-- A verdict that ends the run with an answer, without the next handler. -/
def Settles (answer : Except Fault Response) : Verdict → Prop
  | .passed _ => False
  | .forbidden _ _ _ => answer = .ok (gate.forbidden request)
  | .failed fault => answer = .error fault

theorem handle_of_settles {handler : Callable} {parameters : List Parameter} {verdict : Verdict}
    {before found after : Session σ} {answer : Except Fault Response}
    (hfound : (Session.outside (handler.parameters gate.source.lookup) before).value =
      (.ok parameters, found))
    (hverdict : (gate.checkAll 0 parameters found).value = (verdict, after))
    (hsettles : gate.Settles request answer verdict) :
    (gate.handle next request handler before).value = (answer, after) := by
  refine (Act.value_bind_of_eq hfound).trans ((Act.value_bind_of_eq hverdict).trans ?_)
  cases verdict with
  | passed validated => exact hsettles.elim
  | forbidden type parameter message => rw [show answer = _ from hsettles]; rfl
  | failed fault => rw [show answer = _ from hsettles]; rfl

theorem handle_of_passed {handler : Callable} {parameters : List Parameter} {validated : Nat}
    {before found after : Session σ}
    (hfound : (Session.outside (handler.parameters gate.source.lookup) before).value =
      (.ok parameters, found))
    (hpassed : (gate.checkAll 0 parameters found).value = (.passed validated, after)) :
    (gate.handle next request handler before).value = (next request after).value := by
  refine (Act.value_bind_of_eq hfound).trans ((Act.value_bind_of_eq hpassed).trans ?_)
  cases validated <;> rfl

theorem answer_of_eq {before : Session (Watched σ)} {answer : Except Fault Response}
    {left : Session σ} (hnext : (next request before.plain).value = (answer, left)) :
    (next.watched request before).value =
      (answer, ⟨left.memo, left.world, before.calls ++ [.answer request]⟩) := by
  have hdone : (next.watched request before).value =
      ((next request before.plain).value.1, ⟨(next request before.plain).value.2.memo,
        (next request before.plain).value.2.world, before.calls ++ [.answer request]⟩) := rfl
  rw [hdone, hnext]

variable {gate next request}

/-- A parameter whose type carries the marker is validated. -/
theorem Guarded.check {parameter : Parameter} {type : String}
    {before found : Session (Watched σ)} (h : gate.Guarded parameter type before found) :
    (gate.watched.check parameter before).value = (gate.watched.validate type found).value := by
  obtain ⟨set, hset, hmarker⟩ := h.marked
  have hguards : (gate.watched.guards type before).value = (.ok true, found) := by
    rw [gate.watched.guards_of_set h.declared hset]
    exact congrArg (fun found' => (Except.ok found', found)) (NameSet.contains_iff.2 hmarker)
  rw [Gate.check, h.typed]
  exact Act.value_bind_of_eq hguards

/-- A parameter that passes is not guarded or accepts. -/
theorem Passes.check {parameter : Parameter} {before after : Session (Watched σ)}
    (h : gate.Passes parameter before after) :
    (gate.watched.check parameter before).value = (.unguarded, after) ∨
      (gate.watched.check parameter before).value = (.accepted, after) := by
  cases h with
  | untyped hnone =>
    left
    rw [Gate.check, hnone]
    rfl
  | @builtin type htype hbuiltin =>
    left
    have hguards : (gate.watched.guards type before).value = (.ok false, before) := by
      rw [guards, hbuiltin, if_pos rfl]
      rfl
    rw [Gate.check, htype]
    exact Act.value_bind_of_eq hguards
  | @unmarked type set _ htype hdeclared hset hmarker hasked =>
    left
    have hcontains : set.contains gate.settings.marker = false := by
      rw [Bool.eq_false_iff]
      exact fun h => hmarker (NameSet.contains_iff.1 h)
    have hguards : (gate.watched.guards type before).value = (.ok false, after) := by
      rw [gate.watched.guards_of_set hdeclared hset]
      exact congrArg (fun found' => (Except.ok found', after)) hcontains
    rw [Gate.check, htype]
    exact Act.value_bind_of_eq hguards
  | accepted hguarded hgot haccepts =>
    -- the only way to pass that is counted
    right
    rw [hguarded.check]
    exact gate.validate_of_answer hgot haccepts

/-- A parameter that decides settles the search for it and for all that follow. -/
theorem Decides.checkAll {parameter : Parameter} {before after : Session (Watched σ)}
    {answer : Except Fault Response} (h : gate.Decides request parameter before answer after)
    (others : List Parameter) (validated : Nat) :
    ∃ verdict, (gate.watched.checkAll validated (parameter :: others) before).value =
      (verdict, after) ∧ gate.Settles request answer verdict := by
  rw [Gate.checkAll]
  cases h with
  | @unknown type fault _ htype hdeclared hfault hasked =>
    have hcheck : (gate.watched.check parameter before).value = (.failed fault, after) := by
      rw [Gate.check, htype]
      exact Act.value_bind_of_eq (gate.watched.guards_of_fault hdeclared hfault)
    exact ⟨.failed fault, Act.value_bind_of_eq hcheck, rfl⟩
  | @unresolved type found fault made hguarded hgot =>
    have hcheck := hguarded.check.trans (gate.validate_of_fault hgot)
    exact ⟨.failed fault, Act.value_bind_of_eq hcheck, rfl⟩
  | @unauthorized type message found validator made done hguarded hgot hdenies =>
    have hcheck := hguarded.check.trans (gate.validate_of_answer hgot hdenies)
    exact ⟨.forbidden type parameter.name message, Act.value_bind_of_eq hcheck, rfl⟩
  | @invalid type message found validator made done hguarded hgot hdenies =>
    have hcheck := hguarded.check.trans (gate.validate_of_answer hgot hdenies)
    exact ⟨.failed (.invalid type message), Act.value_bind_of_eq hcheck, rfl⟩

/-- Parameters that pass leave the search to those that follow. -/
theorem PassesAll.checkAll {passed : List Parameter} {before after : Session (Watched σ)}
    (h : gate.PassesAll passed before after) (others : List Parameter) (validated : Nat) :
    ∃ counted, (gate.watched.checkAll validated (passed ++ others) before).value =
      (gate.watched.checkAll counted others after).value := by
  induction h generalizing validated with
  | nil => exact ⟨validated, rfl⟩
  | cons hfirst hothers ih =>
    -- an accepted parameter raises the count with which the others are looked at
    rcases hfirst.check with hcheck | hcheck
    · obtain ⟨counted, hrest⟩ := ih validated
      exact ⟨counted, (Act.value_bind_of_eq hcheck).trans hrest⟩
    · obtain ⟨counted, hrest⟩ := ih (validated + 1)
      exact ⟨counted, (Act.value_bind_of_eq hcheck).trans hrest⟩

/-- The gate does what a run says. -/
theorem Run.process {before after : Session (Watched σ)} {answer : Except Fault Response}
    (h : gate.Run next request before answer after) :
    (gate.watched.process next.watched request before).value = (answer, after) := by
  cases h with
  | unrouted hroute =>
    rw [Gate.process, hroute]
    rfl
  | unhandled hroute =>
    rw [Gate.process, hroute]
    rfl
  | @unfound status handler _ left hroute hstatus hnext =>
    have hanswer := answer_of_eq next request hnext
    rw [Gate.process, hroute]
    cases status with
    | found => exact absurd rfl hstatus
    | notFound => exact hanswer
    | methodNotAllowed => exact hanswer
  | faulty hroute hfault hasked =>
    rw [Gate.process, hroute]
    exact Act.value_bind_of_eq hfault
  | @decided handler passed others parameter found between _ _ hroute hfound hasked hpassed
      hdecides =>
    -- past the parameters that pass, the one that decides ends the search
    obtain ⟨counted, hrest⟩ := hpassed.checkAll (parameter :: others) 0
    obtain ⟨verdict, hverdict, hsettles⟩ := hdecides.checkAll others counted
    rw [Gate.process, hroute]
    exact gate.watched.handle_of_settles next.watched request hfound (hrest.trans hverdict) hsettles
  | @passed handler parameters found between _ left hroute hfound hasked hpassed hnext =>
    obtain ⟨counted, hrest⟩ := hpassed.checkAll [] 0
    rw [List.append_nil] at hrest
    rw [Gate.process, hroute]
    exact (gate.watched.handle_of_passed next.watched request hfound hrest).trans
      (answer_of_eq next request hnext)

/-! ## Every request has a run -/

/-- A guarded parameter passes or decides, as the container and the instance will have it. -/
theorem Guarded.passes_or_decides {parameter : Parameter} {type : String}
    {before found : Session (Watched σ)} (h : gate.Guarded parameter type before found)
    (request : Request) :
    (∃ after, gate.Passes parameter before after) ∨
      ∃ answer after, gate.Decides request parameter before answer after := by
  rcases hgot : (gate.container type found.plain.world).value with ⟨got, made⟩
  cases got with
  | error fault => exact .inr ⟨_, _, .unresolved h hgot⟩
  | ok validator =>
    rcases hanswer : (validator made).value with ⟨answer, done⟩
    match answer with
    | .ok () => exact .inl ⟨_, .accepted h hgot hanswer⟩
    | .error (.unauthorized message) => exact .inr ⟨_, _, .unauthorized h hgot hanswer⟩
    | .error (.invalid message) => exact .inr ⟨_, _, .invalid h hgot hanswer⟩

/-- A parameter passes or decides. -/
theorem passes_or_decides (gate : Gate σ) (request : Request) (parameter : Parameter)
    (before : Session (Watched σ)) :
    (∃ after, gate.Passes parameter before after) ∨
      ∃ answer after, gate.Decides request parameter before answer after := by
  cases htype : parameter.classType with
  | none => exact .inl ⟨before, .untyped htype⟩
  | some type =>
    cases hdeclared : Name.isBuiltin type with
    | true => exact .inl ⟨before, .builtin htype hdeclared⟩
    | false =>
      rcases hset : (Session.interfaces gate.source.watched type before).value with
        ⟨answer, found⟩
      have hasked : OnlyDeclarations before.calls found.calls := by
        have := Session.interfaces_asks gate.source type before
        rwa [hset] at this
      cases answer with
      | error fault => exact .inr ⟨_, found, .unknown htype hdeclared hset hasked⟩
      | ok set =>
        by_cases hmarker : gate.settings.marker ∈ set
        · exact Guarded.passes_or_decides ⟨htype, hdeclared, ⟨set, hset, hmarker⟩, hasked⟩ request
        · exact .inl ⟨found, .unmarked htype hdeclared hset hmarker hasked⟩

/-- All parameters pass, or a first one decides. -/
theorem passesAll_or_decides (gate : Gate σ) (request : Request) (parameters : List Parameter)
    (before : Session (Watched σ)) :
    (∃ after, gate.PassesAll parameters before after) ∨
      ∃ passed parameter others between answer after, parameters = passed ++ parameter :: others ∧
        gate.PassesAll passed before between ∧
        gate.Decides request parameter between answer after := by
  induction parameters generalizing before with
  | nil => exact .inl ⟨before, .nil⟩
  | cons first others ih =>
    rcases passes_or_decides gate request first before with
      ⟨between, hfirst⟩ | ⟨answer, after, hdecides⟩
    · rcases ih between with ⟨after, hothers⟩ |
        ⟨passed, parameter, rest, later, answer, after, rfl, hpassed, hdecides⟩
      · exact .inl ⟨after, .cons hfirst hothers⟩
      · exact .inr ⟨first :: passed, parameter, rest, later, answer, after, rfl,
          .cons hfirst hpassed, hdecides⟩
    · exact .inr ⟨[], first, others, before, answer, after, rfl, .nil, hdecides⟩

/-- There is a run from every session. -/
theorem exists_run (gate : Gate σ) (next : Handler (Session σ)) (request : Request)
    (before : Session (Watched σ)) :
    ∃ answer after, gate.Run next request before answer after := by
  rcases hroute : request.route with _ | ⟨status, handler⟩
  · exact ⟨_, _, .unrouted hroute⟩
  by_cases hstatus : status ≠ .found
  · exact ⟨_, _, .unfound hroute hstatus rfl⟩
  obtain rfl := Decidable.not_not.1 hstatus
  rcases handler with _ | handler
  · exact ⟨_, _, .unhandled hroute⟩
  rcases hfound : (Session.outside (handler.parameters gate.source.watched.lookup) before).value
    with ⟨answer, found⟩
  have hasked : OnlyDeclarations before.calls found.calls := by
    have := Session.parameters_asks gate.source handler before
    rwa [hfound] at this
  cases answer with
  | error fault => exact ⟨_, _, .faulty hroute hfound hasked⟩
  | ok parameters =>
    rcases passesAll_or_decides gate request parameters found with
      ⟨between, hpassed⟩ |
      ⟨passed, parameter, others, between, answer, after, rfl, hpassed, hdecides⟩
    · exact ⟨_, _, .passed hroute hfound hasked hpassed rfl⟩
    · exact ⟨_, _, .decided hroute hfound hasked hpassed hdecides⟩

/-- The outcome of a request and the calls on the way to it are those of its run, and no other; and
without anyone watching the outcome is the same. -/
theorem process_eq_iff_run (gate : Gate σ) (next : Handler (Session σ)) (request : Request)
    (before after : Session (Watched σ)) (answer : Except Fault Response) :
    ((gate.watched.process next.watched request before).value = (answer, after) ↔
        gate.Run next request before answer after) ∧
      (gate.process next request before.plain).value =
        ((gate.watched.process next.watched request before).value.1,
          (gate.watched.process next.watched request before).value.2.plain) := by
  refine ⟨⟨fun h => ?_, Run.process⟩, ?_⟩
  · -- some run exists, and the gate can do only what that run says
    obtain ⟨answer', after', hrun⟩ := exists_run gate next request before
    obtain ⟨rfl, rfl⟩ : answer = answer' ∧ after = after' := by
      simpa using h.symm.trans hrun.process
    exact hrun
  · exact congrArg Noted.value (gate.process_seen next request before).symm

end Interception.Gate
