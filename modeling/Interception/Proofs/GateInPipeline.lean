import Interception.Proofs.GateRun
import Interception.Proofs.PipelineTour

/-!
# The gate in a pipeline

The gate is a script, so what is known of scripts on a tour is known of it.

Main statement: pipelines compose, whatever their middleware do, so middleware are entered in order, and
nothing is entered behind one that answers without passing the request on.  The gate is such a one when
a parameter denies authority: whoever stands in front of it gets the forbidden response.
-/

namespace Interception

variable {σ τ : Type}

/-- What comes of an act is seen where a part of its world is. -/
theorem Correspondence.value_of_seen {α : Type} {view : τ → σ} {x : Act τ α} {y : Act σ α}
    {world after : τ} {a : α} (h : (Correspondence.seen view).holds x y)
    (hx : (x world).value = (a, after)) : (y (view world)).value = (a, view after) := by
  rw [← h world, Noted.through, hx]

namespace Gate

/-- What the gate does with a request for a handler. -/
def conduct (gate : Gate σ) (request : Request) (handler : Callable) : Conduct (Session σ) :=
  .work (Session.outside (handler.parameters gate.source.lookup)) fun
    | .error fault => .answer (.error fault)
    | .ok parameters => .work (gate.checkAll 0 parameters) fun
      | .failed fault => .answer (.error fault)
      | .forbidden type parameter message =>
        .work (remark .warning request (type ++ " rejected $" ++ parameter ++ " for " ++
          handler.text ++ ": " ++ message)) fun _ => .answer (.ok (gate.forbidden request))
      | .passed 0 => .pass request .answer
      | .passed validated =>
        .work (remark .debug request (validated.repr ++ " parameter(s) of " ++ handler.text ++
          " validated")) fun _ => .pass request .answer

/-- The gate as a script. -/
def script (gate : Gate σ) : Script (Session σ) := fun request =>
  match request.route with
  | none => .answer (.error (.misrouted "request carries no dispatch result"))
  | some ⟨.found, some handler⟩ => gate.conduct request handler
  | some ⟨.found, none⟩ => .answer (.error (.misrouted "found route carries no handler"))
  | some ⟨status, _⟩ =>
    .work (remark .debug request ("route status " ++ status.text ++ ", skipping validation"))
      fun _ => .pass request .answer

theorem conduct_before (gate : Gate σ) (next : Handler (Session σ)) (request : Request)
    (handler : Callable) :
    (gate.conduct request handler).before next = gate.handle next request handler := by
  have hpass : ∀ passed, Conduct.before next (.pass passed .answer) = next passed :=
    fun passed => bind_pure (next passed)
  rw [conduct, Conduct.before, handle]
  refine bind_congr fun found => ?_
  cases found with
  | error fault => rfl
  | ok parameters =>
    refine bind_congr fun verdict => ?_
    cases verdict with
    | failed fault => rfl
    | forbidden type parameter message => rfl
    | passed validated =>
      cases validated with
      | zero => exact hpass request
      | succ validated => exact bind_congr fun _ => hpass request

/-- The gate does what its script says. -/
theorem script_middleware (gate : Gate σ) : gate.script.middleware = gate.process := by
  funext next request
  have hpass : Conduct.before next (.pass request .answer) = next request := bind_pure (next request)
  rw [Script.middleware, script, process]
  rcases request.route with _ | ⟨status, handler⟩
  · rfl
  cases status with
  | found =>
    cases handler with
    | none => rfl
    | some handler => exact gate.conduct_before next request handler
  | notFound => exact bind_congr fun _ => hpass
  | methodNotAllowed => exact bind_congr fun _ => hpass

/-- A verdict that ends the run is an answer without passing the request on. -/
theorem conduct_of_settles (gate : Gate σ) {request : Request} {handler : Callable}
    {parameters : List Parameter} {verdict : Verdict} {before found after : Session σ}
    {answer : Except Fault Response}
    (hfound : (Session.outside (handler.parameters gate.source.lookup) before).value =
      (.ok parameters, found))
    (hverdict : (gate.checkAll 0 parameters found).value = (verdict, after))
    (hsettles : gate.Settles request answer verdict) :
    (gate.conduct request handler).AnswersAlone before answer after := by
  apply Conduct.AnswersAlone.work hfound
  apply Conduct.AnswersAlone.work hverdict
  cases verdict with
  | passed validated => exact hsettles.elim
  | forbidden type parameter message =>
    rw [show answer = _ from hsettles]
    exact .work rfl .answer
  | failed fault =>
    rw [show answer = _ from hsettles]
    exact .answer

/-- A parameter denies authority, after all parameters in front of it have passed. -/
inductive Denied (gate : Gate σ) (request : Request) (before : Session (Watched σ)) :
    Session (Watched σ) → Prop where
  | unauthorized {handler : Callable} {passed others : List Parameter} {parameter : Parameter}
    {found between known : Session (Watched σ)} {type message : String} {validator : Validator σ}
    {made done : σ} (hroute : request.route = some ⟨.found, some handler⟩)
    (hfound : (Session.outside (handler.parameters gate.source.watched.lookup) before).value =
      (.ok (passed ++ parameter :: others), found))
    (hpassed : gate.PassesAll passed found between)
    (hguarded : gate.Guarded parameter type between known)
    (hgot : (gate.container type known.plain.world).value = (.ok validator, made))
    (hdenies : (validator made).value = (.error (.unauthorized message), done)) :
    Denied gate request before (known.after done [.resolve type, .validate type])

variable {gate : Gate σ} {request : Request} {before after : Session (Watched σ)}

/-- Then the gate answers without passing the request on, and its answer is the forbidden response. -/
theorem Denied.answersAlone (h : gate.Denied request before after) :
    (gate.script request).AnswersAlone before.plain
      (.ok ⟨gate.settings.forbiddenStatus, request.context.headers, request.context.body⟩)
      after.plain := by
  cases h with
  | @unauthorized handler passed others parameter found between known type message validator made done
      hroute hfound hpassed hguarded hgot hdenies =>
    obtain ⟨counted, hrest⟩ := hpassed.checkAll (parameter :: others) 0
    have hdecides : gate.Decides request parameter between _ _ := .unauthorized hguarded hgot hdenies
    obtain ⟨verdict, hverdict, hsettles⟩ := hdecides.checkAll others counted
    have hplain := Correspondence.value_of_seen (gate.watched_corresponds.parameters handler) hfound
    have hchecked := Correspondence.value_of_seen (checkAll_corresponds gate.watched_corresponds 0 _)
      (hrest.trans hverdict)
    rw [script, hroute]
    exact gate.conduct_of_settles hplain hchecked hsettles

end Gate

/-- Running two stacks in a row is running the first one before a handler that runs the second one.  So
the middleware of a stack are entered in order: a tour, which is what the pipeline does, is a journey.
What stands behind a middleware that answers without passing the request on is not entered, and has no
part in what comes of the call.  A gate whose parameter denies authority is such a one: in front of it
the forbidden response is what its call comes to, whatever stands behind it. -/
theorem pipelines_compose (τ : Type) (gate : Gate σ) :
    (∀ (first second : List (Middleware τ)) (handler : Handler τ),
      pipeline (first ++ second) handler = pipeline first (pipeline second handler)) ∧
    (∀ (scripts : List (Script τ)) (handler : Handler τ),
      (∀ request before, (tour 0 scripts handler request before).through Toured.world =
        pipeline (scripts.map Script.middleware) handler request before.world) ∧
      (tour 0 scripts handler).Leaves fun request entries =>
        Journey scripts.length 0 request entries ∧ EnteredInOrder 0 entries) ∧
    (∀ (first others : List (Script τ)) (script : Script τ) (handler : Handler τ),
      tour 0 (first ++ script :: others) handler =
        pipeline (markedFrom 0 first) (tour first.length (script :: others) handler) ∧
      (∀ request before outcome after, (script request).AnswersAlone before.world outcome after →
        (tour first.length (script :: others) handler request before).value =
          (outcome, ⟨after, before.trail ++ [⟨first.length, request⟩]⟩) ∧
        ∀ others' handler', tour first.length (script :: others) handler request before =
          tour first.length (script :: others') handler' request before) ∧
      (script.NeverPasses → (tour 0 (first ++ script :: others) handler).Leaves fun _ entries =>
        ∀ entry ∈ entries, entry.place ≤ first.length)) ∧
    gate.script.middleware = gate.process ∧
    ∀ request before after, gate.Denied request before after →
      let forbidden : Except Fault Response :=
        .ok ⟨gate.settings.forbiddenStatus, request.context.headers, request.context.body⟩
      (∀ (first others : List (Middleware (Session σ))) last handler,
        pipeline (first ++ last :: gate.process :: others) handler =
          pipeline first (last (gate.process (pipeline others handler))) ∧
        (gate.process (pipeline others handler) request before.plain).value =
          (forbidden, after.plain) ∧
        ∀ others' handler', gate.process (pipeline others handler) request before.plain =
          gate.process (pipeline others' handler') request before.plain) ∧
      ∀ (first others : List (Script (Session σ))) handler trail,
        (tour first.length (gate.script :: others) handler request ⟨before.plain, trail⟩).value =
          (forbidden, ⟨after.plain, trail ++ [⟨first.length, request⟩]⟩) := by
  refine ⟨pipeline_append, ?_, ?_, gate.script_middleware, ?_⟩
  · intro scripts handler
    refine ⟨fun request => tour_seen 0 scripts handler request, ?_⟩
    intro request before
    obtain ⟨entries, htrail, hjourney⟩ := tour_leaves 0 scripts handler request before
    exact ⟨entries, htrail, hjourney, hjourney.enteredInOrder⟩
  · intro first others script handler
    have hsplit := tour_append 0 first (script :: others) handler
    rw [Nat.zero_add] at hsplit
    refine ⟨hsplit, ?_, ?_⟩
    · intro request before outcome after halone
      exact tour_of_answersAlone halone first.length others handler
    · intro hnever request before
      obtain ⟨entries, htrail, hjourney⟩ :=
        tour_leaves_of_neverPasses hnever 0 first others handler request before
      refine ⟨entries, htrail, ?_⟩
      simpa using hjourney.place_le
  · intro request before after hdenied forbidden
    have halone := hdenied.answersAlone
    constructor
    · intro first others last handler
      refine ⟨by rw [pipeline_append, pipeline_cons, pipeline_cons], ?_, ?_⟩
      · rw [← gate.script_middleware]
        exact halone.before _
      · intro others' handler'
        rw [← gate.script_middleware]
        exact halone.before_congr _ _
    · intro first others handler trail
      have htoured : (gate.script request).AnswersAlone (Toured.mk before.plain trail).world forbidden
        after.plain := halone
      exact (tour_of_answersAlone htoured first.length others handler).1

/-- A script that passes every request on twice. -/
def knocker : Script Nat := fun request => .pass request fun _ => .pass request .answer

/-- A script that counts the requests it turns away. -/
def refuser : Script Nat := fun _ =>
  .work (modify (· + 1)) fun _ => .answer (.ok (.empty 401))

/-- The type `R` validates itself. -/
def barredTypes (name : String) : Except Fault Declaration :=
  if name = "R" then .ok ((Declaration.empty "R" .classKind).implementing "M")
  else .error (.unknownType name)

/-- A gate whose instances deny authority. -/
def barredGate : Gate Unit where
  source := ⟨fun name => pure (barredTypes name), fun _ => 2⟩
  container := fun _ => pure (.ok fun _ => ⟨(.error (.unauthorized "no"), ()), []⟩)
  settings := ⟨"M", 403⟩

/-- Behind the refuser nobody is entered, though it is called twice; and in front of the gate the
forbidden response is all that is heard. -/
theorem pipelines_compose_of_barredGate :
    let request : Request :=
      ⟨"r", some ⟨.found, some (.inline [.typed "n" "int", .typed "r" "R"])⟩, .empty 200⟩
    let start : Session (Watched Unit) := ⟨.empty, ⟨(), []⟩⟩
    let refused := (tour 0 [knocker, refuser, knocker] (fun _ => pure (.ok (.empty 200))) request
      ⟨0, []⟩).value
    refused = (.ok (.empty 401), ⟨2, [⟨0, request⟩, ⟨1, request⟩, ⟨1, request⟩]⟩) ∧
      refuser.NeverPasses ∧
      (∃ entries, refused.2.trail = [] ++ entries ∧ ∀ entry ∈ entries, entry.place ≤ 1) ∧
      ∃ after, barredGate.Denied request start after ∧
        ∀ (others : List (Middleware (Session Unit))) handler,
          (barredGate.process (pipeline others handler) request start.plain).value =
            (.ok (.empty 403), after.plain) := by
  intro request start refused
  have hrefuses : refuser.NeverPasses := fun request world => ⟨_, _, .work rfl .answer⟩
  have hlisted : ((Session.interfaces barredGate.source.watched "R" start).value.1.map
      (·.contains "M")) = .ok true := by decide +kernel
  obtain ⟨set, hset, hmarker⟩ : ∃ set,
      (Session.interfaces barredGate.source.watched "R" start).value.1 = .ok set ∧ "M" ∈ set := by
    cases hanswer : (Session.interfaces barredGate.source.watched "R" start).value.1 with
    | error fault =>
      rw [hanswer] at hlisted
      cases hlisted
    | ok set =>
      rw [hanswer] at hlisted
      exact ⟨set, rfl, NameSet.contains_iff.mp (Except.ok.inj hlisted)⟩
  have hguarded : barredGate.Guarded ((Parameter.typed "r" "R").qualifiedIn "") "R" start
      (Session.interfaces barredGate.source.watched "R" start).value.2 :=
    { typed := by decide +kernel
      declared := by decide
      marked := ⟨set, Prod.ext hset rfl, hmarker⟩
      asked := Session.interfaces_asks barredGate.source "R" start }
  have hpassed : barredGate.PassesAll [(Parameter.typed "n" "int").qualifiedIn ""] start start := by
    apply Gate.PassesAll.cons _ .nil
    exact .builtin (by decide +kernel) (show Name.isBuiltin "int" = true by decide)
  have hfound : (Session.outside (Callable.parameters barredGate.source.watched.lookup
      (.inline [.typed "n" "int", .typed "r" "R"])) start).value =
        (.ok ([(Parameter.typed "n" "int").qualifiedIn ""] ++
          [(Parameter.typed "r" "R").qualifiedIn ""]), start) := rfl
  have hdenied := Gate.Denied.unauthorized (rfl : request.route = _) hfound hpassed hguarded rfl rfl
  obtain ⟨-, -, hends, -, hgate⟩ := pipelines_compose Nat barredGate
  obtain ⟨-, -, hnobody⟩ := hends [knocker] [knocker] refuser fun _ => pure (.ok (.empty 200))
  obtain ⟨hcalls, -⟩ := hgate request start _ hdenied
  refine ⟨rfl, hrefuses, hnobody hrefuses request ⟨0, []⟩, _, hdenied, ?_⟩
  intro others handler
  exact (hcalls [] others id handler).2.1

end Interception
