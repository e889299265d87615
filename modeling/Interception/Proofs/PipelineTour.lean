import Interception.Proofs.Correspondence
import Interception.Web.Pipeline

/-!
# The way of a request through a pipeline

A middleware is a program: it works in the world, passes requests on, as often as it likes, and goes on
with what came of them, until it answers.  A `Script` is such a program, and the middleware that it is
does what the script says.  On a tour through a pipeline of scripts each of them leaves an entry when it
is entered, and so does the handler.

Main statements: a tour is what the pipeline does, and its entries form a `Journey`, in which no place
is entered before all the places in front of it; and if a script answers without passing the request on,
its entry is the last thing that is heard of it, whatever comes behind.
-/

namespace Interception

variable {σ : Type}

/-- Both stacks in a row are the first one before a handler that is the second one. -/
theorem pipeline_append (first second : List (Middleware σ)) (handler : Handler σ) :
    pipeline (first ++ second) handler = pipeline first (pipeline second handler) := by
  induction first with
  | nil => rfl
  | cons middleware others ih => rw [List.cons_append, pipeline_cons, pipeline_cons, ih]

/-! ## Scripts -/

/-- What is done with a request. -/
inductive Conduct (σ : Type) : Type 1 where
  /-- It is answered. -/
  | answer (outcome : Except Fault Response)
  /-- Some work is done first. -/
  | work {α : Type} (act : Act σ α) (rest : α → Conduct σ)
  /-- A request is passed on, and what comes of it is seen. -/
  | pass (request : Request) (rest : Except Fault Response → Conduct σ)

/-- What a middleware does with each request. -/
abbrev Script (σ : Type) : Type 1 := Request → Conduct σ

namespace Conduct

/-- The act that it is before the handler `next`. -/
def before (next : Handler σ) : Conduct σ → Act σ (Except Fault Response)
  | answer outcome => pure outcome
  | work act rest => act >>= fun a => (rest a).before next
  | pass request rest => next request >>= fun outcome => (rest outcome).before next

/-- In this world it comes to an answer and has passed nothing on. -/
inductive AnswersAlone : Conduct σ → σ → Except Fault Response → σ → Prop where
  | answer {outcome : Except Fault Response} {world : σ} :
    AnswersAlone (.answer outcome) world outcome world
  | work {α : Type} {act : Act σ α} {rest : α → Conduct σ} {a : α} {world between after : σ}
    {outcome : Except Fault Response} (hact : (act world).value = (a, between))
    (hrest : AnswersAlone (rest a) between outcome after) :
    AnswersAlone (.work act rest) world outcome after

variable {conduct : Conduct σ} {world after : σ} {outcome : Except Fault Response}

/-- Before any handler that is its answer. -/
theorem AnswersAlone.before (h : conduct.AnswersAlone world outcome after) (next : Handler σ) :
    (conduct.before next world).value = (outcome, after) := by
  induction h with
  | answer => rfl
  | work hact _ ih => exact (Act.value_bind_of_eq hact).trans ih

/-- It is the same act before any two handlers. -/
theorem AnswersAlone.before_congr (h : conduct.AnswersAlone world outcome after)
    (next next' : Handler σ) : conduct.before next world = conduct.before next' world := by
  induction h with
  | answer => rfl
  | @work _ act rest _ world _ _ _ hact _ ih =>
    have hknown : act world = ⟨(_, _), (act world).events⟩ := Noted.ext_iff.mpr ⟨hact, rfl⟩
    show (act >>= fun a => (rest a).before next) world = (act >>= fun a => (rest a).before next') world
    rw [Act.bind_of_eq hknown, Act.bind_of_eq hknown, ih]

end Conduct

/-- The middleware that does what the script says. -/
def Script.middleware (script : Script σ) : Middleware σ := fun next request =>
  (script request).before next

/-! ## Tours -/

/-- Someone is entered with a request; the places of a stack are counted from the front. -/
structure Entry where
  place : Nat
  request : Request
deriving DecidableEq

/-- A world with the entries so far. -/
structure Toured (σ : Type) where
  world : σ
  trail : List Entry

/-- Leaves an entry. -/
def enter (entry : Entry) : Act (Toured σ) Unit := fun toured =>
  ⟨((), { toured with trail := toured.trail ++ [entry] }), []⟩

/-- An act of the world, which leaves no entry. -/
def Toured.inside {α : Type} (act : Act σ α) : Act (Toured σ) α :=
  act.within Toured.world fun toured world => { toured with world := world }

/-- The same conduct beside a trail, which it does not touch. -/
def Conduct.inside : Conduct σ → Conduct (Toured σ)
  | .answer outcome => .answer outcome
  | .work act rest => .work (Toured.inside act) fun a => (rest a).inside
  | .pass request rest => .pass request fun outcome => (rest outcome).inside

/-- The script leaves an entry first. -/
def Script.marked (place : Nat) (script : Script σ) : Script (Toured σ) := fun request =>
  .work (enter ⟨place, request⟩) fun _ => (script request).inside

/-- The handler leaves an entry first. -/
def Handler.marked (place : Nat) (handler : Handler σ) : Handler (Toured σ) := fun request =>
  enter ⟨place, request⟩ >>= fun _ => Toured.inside (handler request)

/-- The scripts as middleware that leave entries, the first of them at `place`. -/
def markedFrom (place : Nat) : List (Script σ) → List (Middleware (Toured σ))
  | [] => []
  | script :: others => (script.marked place).middleware :: markedFrom (place + 1) others

/-- The pipeline of the scripts before the handler, with an entry for everyone who is entered. -/
def tour (place : Nat) (scripts : List (Script σ)) (handler : Handler σ) : Handler (Toured σ) :=
  pipeline (markedFrom place scripts) (handler.marked (place + scripts.length))

variable {scripts others : List (Script σ)} {script : Script σ} {handler : Handler σ} {place : Nat}

theorem tour_cons : tour place (script :: others) handler =
    (script.marked place).middleware (tour (place + 1) others handler) := by
  rw [tour, markedFrom, pipeline_cons, tour, List.length_cons, Nat.add_right_comm, Nat.add_assoc]

/-- Behind the first scripts the tour goes on with the others. -/
theorem tour_append (place : Nat) (first second : List (Script σ)) (handler : Handler σ) :
    tour place (first ++ second) handler =
      pipeline (markedFrom place first) (tour (place + first.length) second handler) := by
  induction first generalizing place with
  | nil => rfl
  | cons script others ih =>
    rw [List.cons_append, tour_cons, ih, markedFrom, pipeline_cons, List.length_cons, Nat.add_assoc,
      Nat.add_comm 1]

/-! ## A tour is what the pipeline does -/

theorem Toured.inside_seen {α : Type} (act : Act σ α) :
    (Correspondence.seen Toured.world).holds (Toured.inside act) act := fun _ => rfl

theorem enter_seen (entry : Entry) :
    (Correspondence.seen (Toured.world (σ := σ))).holds (enter entry) (pure ()) := fun _ => rfl

theorem Conduct.inside_seen {next : Handler (Toured σ)} {next' : Handler σ}
    (hnext : ∀ request, (Correspondence.seen Toured.world).holds (next request) (next' request))
    (conduct : Conduct σ) :
    (Correspondence.seen Toured.world).holds (conduct.inside.before next) (conduct.before next') := by
  induction conduct with
  | answer outcome => exact Correspondence.done _ outcome
  | work act rest ih => exact Correspondence.next _ (Toured.inside_seen act) ih
  | pass request rest ih => exact Correspondence.next _ (hnext request) ih

/-- A tour is what the pipeline does, with the same outcome, world and events. -/
theorem tour_seen (place : Nat) (scripts : List (Script σ)) (handler : Handler σ) (request : Request) :
    (Correspondence.seen Toured.world).holds (tour place scripts handler request)
      (pipeline (scripts.map Script.middleware) handler request) := by
  induction scripts generalizing place request with
  | nil => exact Correspondence.next _ (enter_seen _) fun _ => Toured.inside_seen (handler request)
  | cons script others ih =>
    rw [tour_cons, List.map_cons, pipeline_cons]
    intro before
    exact (script request).inside_seen (fun passed => ih (place + 1) passed)
      ⟨before.world, before.trail ++ [⟨place, request⟩]⟩

/-! ## Journeys -/

/-- The entries of one way through so many middleware and the handler behind them: the first one is
entered, and then, for each request that it passes on, the same is done behind it. -/
def Journey : Nat → Nat → Request → List Entry → Prop
  | 0, place, request, entries => entries = [⟨place, request⟩]
  | behind + 1, place, request, entries => ∃ parts : List (List Entry),
      entries = ⟨place, request⟩ :: parts.flatten ∧
        ∀ part ∈ parts, ∃ passed, Journey behind (place + 1) passed part

/-- The handler leaves entries of this sort behind, after those that are there. -/
def Handler.Leaves (handler : Handler (Toured σ)) (sort : Request → List Entry → Prop) : Prop :=
  ∀ request before, ∃ entries,
    (handler request before).value.2.trail = before.trail ++ entries ∧ sort request entries

/-- A conduct leaves what comes behind it leaves, once for each request that it passes on. -/
theorem Conduct.inside_trail {next : Handler (Toured σ)} {sort : Request → List Entry → Prop}
    (hnext : next.Leaves sort) (conduct : Conduct σ) (before : Toured σ) :
    ∃ parts : List (List Entry),
      (conduct.inside.before next before).value.2.trail = before.trail ++ parts.flatten ∧
        ∀ part ∈ parts, ∃ passed, sort passed part := by
  induction conduct generalizing before with
  | answer outcome => exact ⟨[], by simp [inside, Conduct.before], by simp⟩
  | work act rest ih => exact ih (act before.world).value.1 _
  | pass request rest ih =>
    obtain ⟨first, hfirst, hsort⟩ := hnext request before
    obtain ⟨others, hothers, hsorts⟩ := ih (next request before).value.1 (next request before).value.2
    refine ⟨first :: others, ?_, ?_⟩
    · rw [List.flatten_cons, ← List.append_assoc, ← hfirst]
      exact hothers
    · exact List.forall_mem_cons.mpr ⟨⟨request, hsort⟩, hsorts⟩

/-- A script is one more middleware on the journey. -/
theorem Script.marked_leaves {next : Handler (Toured σ)} {behind : Nat}
    (hnext : next.Leaves (Journey behind (place + 1))) (script : Script σ) :
    Handler.Leaves ((script.marked place).middleware next) (Journey (behind + 1) place) := by
  intro request before
  obtain ⟨parts, htrail, hparts⟩ := (script request).inside_trail hnext
    ⟨before.world, before.trail ++ [⟨place, request⟩]⟩
  refine ⟨⟨place, request⟩ :: parts.flatten, ?_, parts, rfl, hparts⟩
  rw [List.append_cons]
  exact htrail

/-- The scripts of a stack are so many middleware more. -/
theorem markedFrom_leaves {next : Handler (Toured σ)} (behind : Nat)
    (hnext : next.Leaves (Journey behind (place + scripts.length))) :
    Handler.Leaves (pipeline (markedFrom place scripts) next)
      (Journey (scripts.length + behind) place) := by
  induction scripts generalizing place with
  | nil => simpa [markedFrom] using hnext
  | cons script others ih =>
    rw [List.length_cons, Nat.add_right_comm]
    apply Script.marked_leaves
    apply ih
    rwa [Nat.add_assoc, Nat.add_comm 1]

/-- A tour leaves the entries of a journey. -/
theorem tour_leaves (place : Nat) (scripts : List (Script σ)) (handler : Handler σ) :
    (tour place scripts handler).Leaves (Journey scripts.length place) := by
  apply markedFrom_leaves 0
  intro request before
  exact ⟨[⟨place + scripts.length, request⟩], rfl, rfl⟩

/-- What stands in a row of lists stands in one of them, and what is in front of it there is in front
of it in the row. -/
theorem exists_of_flatten_eq {α : Type} {parts : List (List α)} {front back : List α} {a : α}
    (h : parts.flatten = front ++ a :: back) :
    ∃ part ∈ parts, ∃ inner rest, part = inner ++ a :: rest ∧ inner ⊆ front := by
  rcases List.flatten_eq_append_iff.mp h with
    ⟨passed, others, rfl, rfl, hback⟩ | ⟨passed, inner, c, rest, others, rfl, rfl, hback⟩
  · -- it is the first of its part
    obtain ⟨empties, rest, others, rfl, -, -⟩ := List.flatten_eq_cons_iff.mp hback.symm
    exact ⟨a :: rest, by simp, [], rest, rfl, by simp⟩
  · obtain ⟨rfl, -⟩ := List.cons.inj hback
    exact ⟨inner ++ a :: rest, by simp, inner, rest, rfl, by simp⟩

/-- Nobody is entered before all who stand between `place` and them. -/
def EnteredInOrder (place : Nat) (entries : List Entry) : Prop :=
  ∀ front entry back, entries = front ++ entry :: back →
    ∀ earlier, place ≤ earlier → earlier < entry.place → ∃ other ∈ front, other.place = earlier

theorem Journey.enteredInOrder {behind : Nat} {request : Request} {entries : List Entry}
    (h : Journey behind place request entries) : EnteredInOrder place entries := by
  intro front entry back hentries earlier hplace hless
  induction behind generalizing place request entries front back with
  | zero =>
    have hentry : entry ∈ entries := hentries ▸ List.mem_append_right _ List.mem_cons_self
    rw [show entries = _ from h, List.mem_singleton] at hentry
    subst hentry
    exact absurd hplace (Nat.not_le_of_lt hless)
  | succ behind ih =>
    obtain ⟨parts, hparts, hjourneys⟩ := h
    rw [hparts] at hentries
    cases front with
    | nil =>
      obtain ⟨rfl, -⟩ := List.cons.inj hentries
      exact absurd hplace (Nat.not_le_of_lt hless)
    | cons first front =>
      obtain ⟨rfl, hrest⟩ := List.cons.inj hentries
      -- the first entry is for `place` itself, the part has those behind it
      by_cases hfirst : earlier = place
      · exact ⟨_, List.mem_cons_self, hfirst.symm⟩
      · obtain ⟨part, hpart, inner, rest, hsplit, hinner⟩ := exists_of_flatten_eq hrest
        obtain ⟨passed, hjourney⟩ := hjourneys part hpart
        obtain ⟨other, hmem, hother⟩ := ih hjourney inner rest hsplit (by omega)
        exact ⟨other, List.mem_cons_of_mem _ (hinner hmem), hother⟩

/-- A journey goes no further than there are middleware and the handler. -/
theorem Journey.place_le {behind : Nat} {request : Request} {entries : List Entry}
    (h : Journey behind place request entries) : ∀ entry ∈ entries, entry.place ≤ place + behind := by
  induction behind generalizing place request entries with
  | zero =>
    rw [show entries = _ from h]
    exact List.forall_mem_singleton.mpr (Nat.le_refl _)
  | succ behind ih =>
    obtain ⟨parts, rfl, hjourneys⟩ := h
    refine List.forall_mem_cons.mpr ⟨Nat.le_add_right _ _, ?_⟩
    intro entry hentry
    obtain ⟨part, hpart, hmem⟩ := List.mem_flatten.mp hentry
    obtain ⟨passed, hjourney⟩ := hjourneys part hpart
    have hbound := ih hjourney entry hmem
    omega

/-! ## Scripts that pass nothing on -/

theorem Conduct.AnswersAlone.inside {conduct : Conduct σ} {world after : σ}
    {outcome : Except Fault Response} (h : conduct.AnswersAlone world outcome after)
    (trail : List Entry) : conduct.inside.AnswersAlone ⟨world, trail⟩ outcome ⟨after, trail⟩ := by
  induction h with
  | answer => exact .answer
  | @work _ act _ a world between _ _ hact _ ih =>
    have hinside : (Toured.inside act ⟨world, trail⟩).value = (a, ⟨between, trail⟩) := by
      show ((act world).value.1, Toured.mk (act world).value.2 trail) = _
      rw [hact]
    exact .work hinside ih

theorem Conduct.AnswersAlone.marked {request : Request} {before : Toured σ} {after : σ}
    {outcome : Except Fault Response} (h : (script request).AnswersAlone before.world outcome after)
    (place : Nat) : (script.marked place request).AnswersAlone before outcome
      ⟨after, before.trail ++ [⟨place, request⟩]⟩ :=
  .work rfl (h.inside (before.trail ++ [⟨place, request⟩]))

/-- A call that is answered alone ends with the entry of who answers it, and is the same before
whatever comes behind. -/
theorem tour_of_answersAlone {request : Request} {before : Toured σ} {after : σ}
    {outcome : Except Fault Response} (h : (script request).AnswersAlone before.world outcome after)
    (place : Nat) (others : List (Script σ)) (handler : Handler σ) :
    (tour place (script :: others) handler request before).value =
        (outcome, ⟨after, before.trail ++ [⟨place, request⟩]⟩) ∧
      ∀ others' handler', tour place (script :: others) handler request before =
        tour place (script :: others') handler' request before := by
  constructor
  · rw [tour_cons]
    exact (h.marked place).before _
  · intro others' handler'
    rw [tour_cons, tour_cons]
    exact (h.marked place).before_congr _ _

/-- Whatever the request and the world, the script passes nothing on. -/
def Script.NeverPasses (script : Script σ) : Prop :=
  ∀ request world, ∃ outcome after, (script request).AnswersAlone world outcome after

/-- With a script that never passes anything on the tour ends as it does with a handler. -/
theorem tour_leaves_of_neverPasses (h : script.NeverPasses) (place : Nat)
    (first others : List (Script σ)) (handler : Handler σ) :
    (tour place (first ++ script :: others) handler).Leaves (Journey first.length place) := by
  rw [tour_append]
  apply markedFrom_leaves 0
  intro request before
  obtain ⟨outcome, after, halone⟩ := h request before.world
  obtain ⟨hanswer, -⟩ := tour_of_answersAlone halone (place + first.length) others handler
  exact ⟨[⟨place + first.length, request⟩], congrArg (fun done => done.2.trail) hanswer, rfl⟩

end Interception
