import Interception.Proofs.GateCorrespondence

/-!
# Watching what the gate asks

The gate works with a source, a container, the instances that this hands out, and the handler behind
the gate.  A `Watched` world keeps the calls that these receive, in order.  Main statements: a watched
gate does what the gate does, with the same values, worlds and events, and searching among
declarations calls the source and nothing else.
-/

namespace Interception

/-- Something that the gate asks. -/
inductive Call where
  /-- The source is asked for a declaration. -/
  | declaration (name : String)
  /-- The container is asked for an instance of a type. -/
  | resolve (type : String)
  /-- An instance of a type is asked to validate itself. -/
  | validate (type : String)
  /-- The next handler is asked to answer. -/
  | answer (request : Request)
deriving DecidableEq

/-- A world with the calls that were made in it. -/
structure Watched (σ : Type) where
  world : σ
  calls : List Call

variable {σ α : Type}

/-! ## Watched collaborators -/

/-- The act that a call asks for, in a watched world. -/
def Call.asking (call : Call) (act : Act σ α) : Act (Watched σ) α := fun watched =>
  let done := act watched.world
  ⟨(done.value.1, ⟨done.value.2, watched.calls ++ [call]⟩), done.events⟩

/-- The source, watched. -/
def Source.watched (source : Source σ) : Source (Watched σ) where
  lookup name := (Call.declaration name).asking (source.lookup name)
  reach := source.reach

/-- The container, watched, with instances that are watched too. -/
def Container.watched (container : Container σ) : Container (Watched σ) := fun type watched =>
  let done := container type watched.world
  ⟨(done.value.1.map (Call.validate type).asking,
      ⟨done.value.2, watched.calls ++ [.resolve type]⟩), done.events⟩

namespace Session

/-- The session without the calls. -/
def plain (session : Session (Watched σ)) : Session σ := ⟨session.memo, session.world.world⟩

/-- The calls made in the session. -/
def calls (session : Session (Watched σ)) : List Call := session.world.calls

/-- The session after calls that left the world `world`. -/
def after (session : Session (Watched σ)) (world : σ) (calls : List Call) : Session (Watched σ) :=
  ⟨session.memo, ⟨world, session.world.calls ++ calls⟩⟩

end Session

/-- The handler, watched.  It may use the session for itself; what it asks there is its own. -/
def Handler.watched (next : Handler (Session σ)) : Handler (Session (Watched σ)) :=
  fun request session =>
    let done := next request session.plain
    ⟨(done.value.1, ⟨done.value.2.memo, done.value.2.world, session.world.calls ++ [.answer request]⟩),
      done.events⟩

/-- The gate with its source and its container watched. -/
def Gate.watched (gate : Gate σ) : Gate (Watched σ) where
  source := gate.source.watched
  container := gate.container.watched
  settings := gate.settings

namespace Session

/-- Asking within a session does the act there and keeps the call. -/
theorem outside_asking (call : Call) (act : Act σ α) (session : Session (Watched σ)) :
    outside (call.asking act) session =
      ⟨((act session.plain.world).value.1,
          session.after (act session.plain.world).value.2 [call]),
        (act session.plain.world).events⟩ := rfl

/-- So does asking a watched container, which then hands out a watched instance. -/
theorem outside_container (container : Container σ) (type : String)
    (session : Session (Watched σ)) :
    outside (container.watched type) session =
      ⟨((container type session.plain.world).value.1.map (Call.validate type).asking,
          session.after (container type session.plain.world).value.2 [.resolve type]),
        (container type session.plain.world).events⟩ := rfl

/-- Calls one after the other are calls in a row. -/
theorem after_after (session : Session (Watched σ)) (first second : σ) (calls more : List Call) :
    (session.after first calls).after second more = session.after second (calls ++ more) := by
  simp [after]

end Session

/-! ## Watching changes nothing -/

theorem Source.watched_seen (source : Source σ) (name : String) :
    (Correspondence.seen Watched.world).holds (source.watched.lookup name) (source.lookup name) :=
  fun _ => rfl

namespace Session

theorem outside_seen {x : Act (Watched σ) α} {y : Act σ α}
    (h : (Correspondence.seen Watched.world).holds x y) :
    (Correspondence.seen plain).holds (outside x) (outside y) := by
  intro session
  have hworld := h session.world
  simp only [Noted.through, Noted.ext_iff, Prod.ext_iff] at hworld ⊢
  obtain ⟨⟨hvalue, hafter⟩, hevents⟩ := hworld
  simp only [outside, Act.within, plain]
  rw [← hvalue, ← hafter, ← hevents]
  exact ⟨⟨rfl, rfl⟩, rfl⟩

theorem search_seen (source : Source σ) (name : String) :
    (Correspondence.seen plain).holds (search source.watched name) (search source name) := by
  have hclosure := Closure.interfaces_corresponds (Correspondence.seen Watched.world)
    source.watched_seen (source.reach name) name
  unfold search
  refine Correspondence.next _ (outside_seen hclosure) fun answer => ?_
  cases answer with
  | error fault => exact Correspondence.done _ _
  | ok set =>
    -- remembering and counting change the memo alone
    refine Correspondence.next _ (fun session => rfl) fun _ => ?_
    exact Correspondence.next _ (fun session => rfl) fun _ => Correspondence.done _ _

/-- The memo lies outside of what is watched, so it is asked for the same. -/
theorem interfaces_seen (source : Source σ) (type : String) :
    (Correspondence.seen plain).holds (interfaces source.watched type) (interfaces source type) := by
  intro session
  have hmemo : session.plain.memo = session.memo := rfl
  cases h : session.memo.find? (Name.normalize type) with
  | some set =>
    rw [interfaces_of_known h, interfaces_of_known (hmemo ▸ h)]
    rfl
  | none =>
    rw [interfaces_of_unknown h, interfaces_of_unknown (hmemo ▸ h)]
    exact search_seen source _ session

end Session

namespace Gate

variable (gate : Gate σ)

theorem validate_seen (type : String) :
    (Correspondence.seen Session.plain).holds (gate.watched.validate type) (gate.validate type) := by
  intro session
  rcases hgot : gate.container type session.world.world with ⟨⟨got, world⟩, events⟩
  have hplain : Session.outside (gate.container type) session.plain =
      ⟨(got, ⟨session.memo, world⟩), events⟩ := by
    simp only [Session.outside, Act.within, Session.plain, hgot]
  have hwatched : Session.outside (gate.watched.container type) session =
      ⟨(got.map (Call.validate type).asking, session.after world [.resolve type]), events⟩ := by
    rw [Gate.watched, Session.outside_container, Session.plain, hgot]
  rw [validate, validate, Act.bind_of_eq hplain, Act.bind_of_eq hwatched]
  -- the instances differ, since a watched container hands out a watched one
  cases got with
  | error fault => rfl
  | ok validator => rfl

/-- What a watched gate asks does what the gate asks does. -/
theorem watched_corresponds :
    gate.watched.Corresponds (Correspondence.seen Session.plain) gate where
  settings := rfl
  parameters handler := Session.outside_seen
    (Callable.parameters_corresponds (Correspondence.seen Watched.world) gate.source.watched_seen
      handler)
  interfaces := Session.interfaces_seen gate.source
  validate := gate.validate_seen
  note _ := fun _ => rfl

/-- A watched gate does what the gate does. -/
theorem process_seen (next : Handler (Session σ)) (request : Request) :
    (Correspondence.seen Session.plain).holds (gate.watched.process next.watched request)
      (gate.process next request) :=
  process_corresponds gate.watched_corresponds (fun _ _ => rfl) request

end Gate

/-! ## Searching calls the source only -/

/-- Between the two, the source was asked for declarations and nothing else was asked. -/
def OnlyDeclarations (before after : List Call) : Prop :=
  ∃ names : List String, after = before ++ names.map Call.declaration

theorem OnlyDeclarations.refl (calls : List Call) : OnlyDeclarations calls calls := ⟨[], by simp⟩

theorem OnlyDeclarations.trans {a b c : List Call} (hab : OnlyDeclarations a b)
    (hbc : OnlyDeclarations b c) : OnlyDeclarations a c := by
  obtain ⟨first, rfl⟩ := hab
  obtain ⟨second, rfl⟩ := hbc
  exact ⟨first ++ second, by simp⟩

/-- The acts that ask for declarations only, in a world that keeps its calls where `calls` says. -/
def asksSource {τ : Type} (calls : τ → List Call) :
    Correspondence (StateT τ Noted) (StateT τ Noted) :=
  Correspondence.keeping (fun before after => OnlyDeclarations (calls before) (calls after))
    (fun world => .refl (calls world)) .trans

theorem Source.watched_asks (source : Source σ) (name : String) :
    (asksSource Watched.calls).holds (source.watched.lookup name) (source.watched.lookup name) :=
  fun _ => ⟨[name], rfl⟩

namespace Session

/-- Finding the parameters of a handler asks for declarations only. -/
theorem parameters_asks (source : Source σ) (handler : Callable) :
    (asksSource (calls : Session (Watched σ) → List Call)).holds
      (outside (handler.parameters source.watched.lookup))
      (outside (handler.parameters source.watched.lookup)) := fun session =>
  Callable.parameters_corresponds (asksSource Watched.calls) source.watched_asks handler
    session.world

theorem search_asks (source : Source σ) (name : String) :
    (asksSource (calls : Session (Watched σ) → List Call)).holds
      (search source.watched name) (search source.watched name) := by
  have hclosure : (asksSource (calls : Session (Watched σ) → List Call)).holds
      (outside (Closure.interfaces source.watched.lookup (source.watched.reach name) name))
      (outside (Closure.interfaces source.watched.lookup (source.watched.reach name) name)) :=
    fun session => Closure.interfaces_corresponds (asksSource Watched.calls) source.watched_asks
      (source.reach name) name session.world
  unfold search
  refine Correspondence.next _ hclosure fun answer => ?_
  cases answer with
  | error fault => exact Correspondence.done _ _
  | ok set => exact fun session => .refl _

/-- Finding the interfaces of a type asks for declarations only. -/
theorem interfaces_asks (source : Source σ) (type : String) :
    (asksSource (calls : Session (Watched σ) → List Call)).holds
      (interfaces source.watched type) (interfaces source.watched type) := by
  intro session
  cases h : session.memo.find? (Name.normalize type) with
  | some set =>
    rw [interfaces_of_known h]
    exact .refl _
  | none =>
    rw [interfaces_of_unknown h]
    exact search_asks source _ session

end Session

end Interception
