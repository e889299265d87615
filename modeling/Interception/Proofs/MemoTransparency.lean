import Interception.Proofs.GateRun
import Interception.Proofs.SteadySource

/-!
# A gate that remembers and a gate that forgets

The gate remembers the interfaces that it has searched for.  Over a steady source nobody but the
source can tell.  Main statement: any number of requests, one after the other, have the same answers
and lead to the same calls of the container, the instances and the next handler as if the gate forgot
everything before each of them, and only some requests for declarations are spared.
-/

namespace Interception

variable {σ : Type}

/-! ## Calls that are spared -/

/-- Whether the call asks the source. -/
def Call.isDeclaration : Call → Bool
  | .declaration _ => true
  | _ => false

/-- The worlds differ in their calls at most, and there by requests for declarations that the first
one has been spared. -/
structure Watched.Spares (short long : Watched σ) : Prop where
  world : short.world = long.world
  sublist : short.calls.Sublist long.calls
  others : (short.calls.filter fun call => !call.isDeclaration) =
    long.calls.filter fun call => !call.isDeclaration

namespace Watched.Spares

variable {short long : Watched σ}

/-- The same further calls spare nothing more. -/
theorem append (h : short.Spares long) (world : σ) (more : List Call) :
    Watched.Spares ⟨world, short.calls ++ more⟩ ⟨world, long.calls ++ more⟩ where
  world := rfl
  sublist := h.sublist.append_right more
  others := by rw [List.filter_append, List.filter_append, h.others]

/-- What the second world goes on to ask the source is spared in the first. -/
theorem longer (h : short.Spares long) {after : Watched σ} (hworld : after.world = long.world)
    (hcalls : OnlyDeclarations long.calls after.calls) : short.Spares after := by
  obtain ⟨names, hcalls⟩ := hcalls
  have hnone : ((names.map Call.declaration).filter fun call => !call.isDeclaration) = [] := by
    simp [Call.isDeclaration]
  refine ⟨h.world.trans hworld.symm, ?_, ?_⟩
  · rw [hcalls]
    exact h.sublist.trans (List.sublist_append_left _ _)
  · rw [hcalls, List.filter_append, hnone, List.append_nil]
    exact h.others

end Watched.Spares

/-- A watched act does the same and keeps the same call in both worlds. -/
theorem Call.asking_spares {α : Type} (call : Call) (act : Act σ α) :
    (Correspondence.relating Watched.Spares).holds (call.asking act) (call.asking act) := by
  intro short long h
  have hvalue : (call.asking act short).value.1 = (call.asking act long).value.1 := by
    simp only [asking, h.world]
  have hafter : (call.asking act short).value.2.Spares (call.asking act long).value.2 := by
    simp only [asking, h.world]
    exact h.append _ [call]
  exact ⟨hvalue, hafter⟩

namespace Session

variable {source : Source σ} {lookup : String → Except Fault Declaration}
  {short long : Session (Watched σ)}

theorem outside_spares {α : Type} {x : Act (Watched σ) α}
    (h : (Correspondence.relating Watched.Spares).holds x x) :
    (Correspondence.relating fun short long : Session (Watched σ) =>
      short.world.Spares long.world).holds (outside x) (outside x) :=
  fun short long hspares => h short.world long.world hspares

/-- Two searches for the same interfaces spare nothing. -/
theorem search_spares (source : Source σ) (name : String) :
    (Correspondence.relating fun short long : Session (Watched σ) =>
      short.world.Spares long.world).holds (search source.watched name)
        (search source.watched name) := by
  have hclosure := Closure.interfaces_corresponds (Correspondence.relating Watched.Spares)
    (fun name => (Call.declaration name).asking_spares (source.lookup name))
    (source.reach name) name
  unfold search
  refine Correspondence.next _ (outside_spares hclosure) fun answer => ?_
  cases answer with
  | error fault => exact Correspondence.done _ _
  | ok set => exact fun short long h => ⟨rfl, h⟩

end Session

/-! ## What is remembered -/

namespace Memo

variable {source : Source σ} {lookup : String → Except Fault Declaration} {memo short long : Memo}
  {name : String}

/-- What is remembered is what the search finds. -/
def Recalls (memo : Memo) (source : Source σ) (lookup : String → Except Fault Declaration) : Prop :=
  ∀ name set, memo.find? name = some set →
    Closure.interfacesIn lookup (source.reach name) name = .ok set

/-- The second memo knows nothing that the first does not know. -/
def Knows (short long : Memo) : Prop :=
  ∀ name set, long.find? name = some set → short.find? name = some set

theorem Recalls.empty (source : Source σ) (lookup : String → Except Fault Declaration) :
    Memo.empty.Recalls source lookup := by
  intro name set hfound
  exact absurd hfound nofun

theorem Knows.empty (memo : Memo) : memo.Knows .empty := by
  intro name set hfound
  exact absurd hfound nofun

/-- What a search has found may be remembered. -/
theorem Recalls.learn (h : memo.Recalls source lookup) (name : String) :
    (memo.learn name (Closure.interfacesIn lookup (source.reach name) name)).Recalls source lookup := by
  cases hsearch : Closure.interfacesIn lookup (source.reach name) name with
  | error fault => exact h
  | ok set =>
    intro other found hfound
    rw [Memo.learn, find?_remember] at hfound
    by_cases hother : other = name
    · rw [if_pos hother, Option.some.injEq] at hfound
      rw [hother, ← hfound]
      exact hsearch
    · rw [if_neg hother] at hfound
      exact h other found hfound

/-- Both learn the same. -/
theorem Knows.learn (h : short.Knows long) (name : String) (answer : Except Fault NameSet) :
    (short.learn name answer).Knows (long.learn name answer) := by
  cases answer with
  | error fault => exact h
  | ok set =>
    intro other found hfound
    rw [Memo.learn, find?_remember] at hfound ⊢
    by_cases hother : other = name
    · rwa [if_pos hother] at hfound ⊢
    · rw [if_neg hother] at hfound ⊢
      exact h other found hfound

/-- The second one learns what the first one knows already. -/
theorem Knows.remember (h : short.Knows long) {set : NameSet} (hset : short.find? name = some set) :
    short.Knows (long.remember name set) := by
  intro other found hfound
  rw [find?_remember] at hfound
  by_cases hother : other = name
  · rw [if_pos hother] at hfound
    rw [hother, hset, hfound]
  · rw [if_neg hother] at hfound
    exact h other found hfound

end Memo

/-! ## A session that remembers beside one that forgets -/

/-- The first session remembers at least what the second one does, and has been spared the requests
for it. -/
structure Session.Alike (source : Source σ) (lookup : String → Except Fault Declaration)
    (short long : Session (Watched σ)) : Prop where
  world : short.world.Spares long.world
  recalls : short.memo.Recalls source lookup
  knows : short.memo.Knows long.memo

namespace Session

variable {source : Source σ} {lookup : String → Except Fault Declaration}
  {short long : Session (Watched σ)}

theorem outside_alike {α : Type} {x : Act (Watched σ) α}
    (h : (Correspondence.relating Watched.Spares).holds x x) :
    (Correspondence.relating (Alike source lookup)).holds (outside x) (outside x) := by
  intro short long halike
  obtain ⟨hvalue, hworld⟩ := h short.world long.world halike.world
  exact ⟨hvalue, hworld, halike.recalls, halike.knows⟩

/-- Watching a search changes nothing of its outcome. -/
theorem search_watched (h : source.Answers lookup) (name : String) (session : Session (Watched σ)) :
    (search source.watched name session).value.1 =
        Closure.interfacesIn lookup (source.reach name) name ∧
      (search source.watched name session).value.2.plain =
        ⟨session.memo.learn name (Closure.interfacesIn lookup (source.reach name) name),
          session.world.world⟩ := by
  have hseen := congrArg Noted.value (search_seen source name session)
  rw [search_value h name session.plain] at hseen
  exact Prod.ext_iff.1 hseen

/-- Whether the interfaces of a type are remembered or searched for makes no difference. -/
theorem interfaces_alike (h : source.Answers lookup) (type : String) :
    (Correspondence.relating (Alike source lookup)).holds (interfaces source.watched type)
      (interfaces source.watched type) := by
  intro short long halike
  cases hlong : long.memo.find? (Name.normalize type) with
  | some set =>
    have hshort := halike.knows _ set hlong
    rw [interfaces_of_known hlong, interfaces_of_known hshort]
    exact ⟨rfl, halike⟩
  | none =>
    rw [interfaces_of_unknown hlong]
    obtain ⟨hvalue, hplain⟩ := search_watched h (Name.normalize type) long
    obtain ⟨hmemo, hworld⟩ := Session.mk.inj hplain
    cases hshort : short.memo.find? (Name.normalize type) with
    | some set =>
      -- the second session searches for what the first one remembers
      have hset := halike.recalls _ set hshort
      have hasked := search_asks source (Name.normalize type) long
      have hknows := halike.knows.remember hshort
      rw [interfaces_of_known hshort, hvalue, hset]
      refine ⟨rfl, halike.world.longer hworld hasked, halike.recalls, ?_⟩
      rw [hmemo, hset]
      exact hknows
    | none =>
      -- both search
      obtain ⟨hvalue', hplain'⟩ := search_watched h (Name.normalize type) short
      obtain ⟨hmemo', hworld'⟩ := Session.mk.inj hplain'
      obtain ⟨-, hspares⟩ := search_spares source (Name.normalize type) short long halike.world
      rw [interfaces_of_unknown hshort, hvalue, hvalue']
      refine ⟨rfl, hspares, ?_, ?_⟩
      · rw [hmemo']
        exact halike.recalls.learn _
      · rw [hmemo, hmemo']
        exact halike.knows.learn _ _

end Session

/-! ## The gate -/

/-- A handler that works in the world alone, behind a gate that remembers. -/
def Handler.outside (next : Handler σ) : Handler (Session σ) := fun request =>
  Session.outside (next request)

/-- Forgets whatever is remembered. -/
def Session.forget : Act (Session σ) Unit := modify fun session => { session with memo := .empty }

/-- The gate if it remembered nothing of earlier requests. -/
def Gate.processAfresh (gate : Gate σ) : Middleware (Session σ) := fun next request => do
  Session.forget
  gate.process next request

namespace Gate

variable {gate : Gate σ} {lookup : String → Except Fault Declaration}

/-- An instance is got and asked in the same way. -/
theorem validate_alike (gate : Gate σ) (lookup : String → Except Fault Declaration) (type : String) :
    (Correspondence.relating (Session.Alike gate.source lookup)).holds (gate.watched.validate type)
      (gate.watched.validate type) := by
  intro short long halike
  have hworld : short.plain.world = long.plain.world := halike.world.world
  rcases hgot : (gate.container type long.plain.world).value with ⟨got, made⟩
  have hgot' : (gate.container type short.plain.world).value = (got, made) := by
    rw [hworld, hgot]
  cases got with
  | error fault =>
    rw [gate.validate_of_fault hgot, gate.validate_of_fault hgot']
    exact ⟨rfl, halike.world.append made _, halike.recalls, halike.knows⟩
  | ok validator =>
    rcases hanswer : (validator made).value with ⟨answer, done⟩
    rw [gate.validate_of_answer hgot hanswer, gate.validate_of_answer hgot' hanswer]
    exact ⟨rfl, halike.world.append done _, halike.recalls, halike.knows⟩

/-- Over a steady source, a gate that remembers and one that forgets ask alike. -/
theorem watched_alike (h : gate.source.Answers lookup) :
    gate.watched.Corresponds (Correspondence.relating (Session.Alike gate.source lookup))
      gate.watched where
  settings := rfl
  parameters handler := Session.outside_alike
    (Callable.parameters_corresponds (Correspondence.relating Watched.Spares)
      (fun name => (Call.declaration name).asking_spares (gate.source.lookup name)) handler)
  interfaces := Session.interfaces_alike h
  validate := gate.validate_alike lookup
  note _ := fun _ _ halike => ⟨rfl, halike⟩

/-- The next handler, which knows nothing of the memo, answers alike. -/
theorem next_alike (source : Source σ) (lookup : String → Except Fault Declaration)
    (next : Handler σ) (request : Request) :
    (Correspondence.relating (Session.Alike source lookup)).holds (next.outside.watched request)
      (next.outside.watched request) := by
  intro short long halike
  have hworld : short.plain.world = long.plain.world := halike.world.world
  have hasked : ∀ session : Session (Watched σ),
      (next.outside.watched request session).value =
        ((next request session.plain.world).value.1,
          session.after (next request session.plain.world).value.2 [.answer request]) :=
    fun _ => rfl
  rw [hasked, hasked, hworld]
  exact ⟨rfl, halike.world.append _ _, halike.recalls, halike.knows⟩

/-- One request: a gate that remembers, beside one that has forgotten. -/
theorem process_alike (h : gate.source.Answers lookup) (next : Handler σ) (request : Request) :
    (Correspondence.relating (Session.Alike gate.source lookup)).holds
      (gate.watched.process next.outside.watched request)
      (gate.watched.processAfresh next.outside.watched request) := by
  intro short long halike
  have hforgot : Session.Alike gate.source lookup short { long with memo := .empty } :=
    ⟨halike.world, halike.recalls, .empty _⟩
  have hprocess := process_corresponds (watched_alike h)
    (next_alike gate.source lookup next) request
  have hafresh : gate.watched.processAfresh next.outside.watched request long =
      gate.watched.process next.outside.watched request { long with memo := .empty } := rfl
  rw [hafresh]
  exact hprocess short _ hforgot

theorem processAfresh_seen (gate : Gate σ) (next : Handler (Session σ)) (request : Request) :
    (Correspondence.seen Session.plain).holds (gate.watched.processAfresh next.watched request)
      (gate.processAfresh next request) :=
  Correspondence.next _ (fun _ => rfl) fun _ => gate.process_seen next request

/-- Over a steady source, requests dealt with one after the other by one gate have the answers that
they have if the gate forgets everything before each of them.  The container, the instances and the
next handler are called alike, whatever they do each time, and the source is called no more often. -/
theorem mapM_process_eq_afresh (h : gate.source.Answers lookup) (next : Handler σ)
    (requests : List Request) (world : σ) :
    let start : Session (Watched σ) := ⟨.empty, ⟨world, []⟩⟩
    let kept := (requests.mapM (gate.watched.process next.outside.watched) start).value
    let afresh := (requests.mapM (gate.watched.processAfresh next.outside.watched) start).value
    kept.1 = afresh.1 ∧ kept.2.world.world = afresh.2.world.world ∧
      (kept.2.calls.filter fun call => !call.isDeclaration) =
        (afresh.2.calls.filter fun call => !call.isDeclaration) ∧
      kept.2.calls.Sublist afresh.2.calls ∧
      (requests.mapM (gate.process next.outside) start.plain).value = (kept.1, kept.2.plain) ∧
      (requests.mapM (gate.processAfresh next.outside) start.plain).value =
        (afresh.1, afresh.2.plain) := by
  intro start kept afresh
  have hstart : Session.Alike gate.source lookup start start :=
    ⟨⟨rfl, .refl _, rfl⟩, .empty _ _, .empty _⟩
  -- what holds of one request holds of all of them in a row
  have hrun := (Correspondence.relating (Session.Alike gate.source lookup)).mapM
    (process_alike h next) requests
  obtain ⟨hanswers, halike⟩ := hrun start start hstart
  have hkept := (Correspondence.seen Session.plain).mapM
    (gate.process_seen next.outside) requests start
  have hafresh := (Correspondence.seen Session.plain).mapM
    (gate.processAfresh_seen next.outside) requests start
  refine ⟨hanswers, halike.world.world, halike.world.others, halike.world.sublist, ?_, ?_⟩
  · exact (congrArg Noted.value hkept).symm
  · exact (congrArg Noted.value hafresh).symm

/-- The type `R` carries the marker, and no other type is known. -/
def turnstileTypes (name : String) : Except Fault Declaration :=
  if name = "R" then .ok ((Declaration.empty "R" .classKind).implementing "Marker")
  else .error (.unknownType name)

/-- A gate whose instances accept once, all in all, and deny from then on. -/
def turnstile : Gate Nat where
  source :=
    { lookup := fun name => pure (turnstileTypes name)
      reach := fun _ => 2 }
  container := fun _ => pure (.ok fun passed =>
    ⟨(if passed = 0 then .ok () else .error (.unauthorized "once"), passed + 1), []⟩)
  settings := ⟨"Marker", 403⟩

/-- Of two requests for `R` the second one is denied, and the declarations of `R` and its marker are
asked for once, not twice. -/
theorem mapM_process_eq_afresh_of_turnstile :
    let request : Request := ⟨"r", some ⟨.found, some (.inline [.typed "r" "R"])⟩, .empty 200⟩
    let next : Handler Nat := fun _ => pure (.ok (.empty 204))
    let start : Session (Watched Nat) := ⟨.empty, ⟨0, []⟩⟩
    let kept := ([request, request].mapM (turnstile.watched.process next.outside.watched) start).value
    let afresh :=
      ([request, request].mapM (turnstile.watched.processAfresh next.outside.watched) start).value
    turnstile.source.Answers turnstileTypes ∧
      kept.1 = [.ok (.empty 204), .ok (.empty 403)] ∧ kept.1 = afresh.1 ∧
      (kept.2.calls.filter fun call => !call.isDeclaration) =
        (afresh.2.calls.filter fun call => !call.isDeclaration) ∧
      kept.2.calls.Sublist afresh.2.calls ∧ kept.2.calls.length = 7 ∧ afresh.2.calls.length = 9 := by
  intro request next start kept afresh
  have hsource : turnstile.source.Answers turnstileTypes := fun _ _ => rfl
  have hturns : kept.1 = [.ok (.empty 204), .ok (.empty 403)] := by decide +kernel
  have hkept : kept.2.calls.length = 7 := by decide +kernel
  have hafresh : afresh.2.calls.length = 9 := by decide +kernel
  obtain ⟨hanswers, -, hothers, hcalls, -, -⟩ :=
    mapM_process_eq_afresh hsource next [request, request] 0
  exact ⟨hsource, hturns, hanswers, hothers, hcalls, hkept, hafresh⟩

end Gate

end Interception
