import Interception.Gate
import Interception.Proofs.Correspondence

/-!
# Gates in corresponding worlds

What the gate does is made of what its source, its container and the handler behind it do.  Two gates,
each in a world of its own, correspond when these parts correspond.  Main statements: gates that
correspond deal with every request in corresponding ways, and so with any number of requests one after
the other.
-/

namespace Interception

/-- Steps that correspond, one for each item of a list, correspond in a row. -/
theorem Correspondence.mapM {m n : Type → Type} [Monad m] [LawfulMonad m] [Monad n] [LawfulMonad n]
    (C : Correspondence m n) {α β : Type} {f : α → m β} {g : α → n β}
    (h : ∀ item, C.holds (f item) (g item)) (items : List α) :
    C.holds (items.mapM f) (items.mapM g) := by
  induction items with
  | nil =>
    rw [List.mapM_nil, List.mapM_nil]
    exact C.done []
  | cons first others ih =>
    rw [List.mapM_cons, List.mapM_cons]
    refine C.next (h first) fun result => ?_
    exact C.next ih fun results => C.done (result :: results)

namespace Gate

variable {σ τ : Type} {gate : Gate σ} {gate' : Gate τ}
  {C : Correspondence (StateT (Session σ) Noted) (StateT (Session τ) Noted)}

/-- The gates have the same settings, and whatever one of them asks corresponds to what the other
asks. -/
structure Corresponds (C : Correspondence (StateT (Session σ) Noted) (StateT (Session τ) Noted))
    (gate : Gate σ) (gate' : Gate τ) : Prop where
  settings : gate.settings = gate'.settings
  parameters (handler : Callable) :
    C.holds (Session.outside (handler.parameters gate.source.lookup))
      (Session.outside (handler.parameters gate'.source.lookup))
  interfaces (type : String) :
    C.holds (Session.interfaces gate.source type) (Session.interfaces gate'.source type)
  validate (type : String) : C.holds (gate.validate type) (gate'.validate type)
  note (event : Event) : C.holds (Act.note event) (Act.note event)

theorem guards_corresponds (h : gate.Corresponds C gate') (type : String) :
    C.holds (gate.guards type) (gate'.guards type) := by
  unfold guards
  split
  · exact C.done _
  · refine C.next (h.interfaces type) fun answer => ?_
    cases answer with
    | error fault => exact C.done _
    | ok set =>
      -- the marker is a setting, and both look for the same one
      rw [h.settings]
      exact C.done _

theorem check_corresponds (h : gate.Corresponds C gate') (parameter : Parameter) :
    C.holds (gate.check parameter) (gate'.check parameter) := by
  unfold check
  split
  · exact C.done _
  · next type _ =>
    refine C.next (guards_corresponds h type) fun answer => ?_
    split
    · exact C.done _
    · exact C.done _
    · exact h.validate type

theorem checkAll_corresponds (h : gate.Corresponds C gate') (validated : Nat)
    (parameters : List Parameter) :
    C.holds (gate.checkAll validated parameters) (gate'.checkAll validated parameters) := by
  induction parameters generalizing validated with
  | nil => exact C.done _
  | cons first others ih =>
    rw [checkAll, checkAll]
    refine C.next (check_corresponds h first) fun answer => ?_
    cases answer with
    | unguarded => exact ih validated
    | accepted => exact ih (validated + 1)
    | forbidden type message => exact C.done _
    | failed fault => exact C.done _

theorem handle_corresponds (h : gate.Corresponds C gate') {next : Handler (Session σ)}
    {next' : Handler (Session τ)} (hnext : ∀ request, C.holds (next request) (next' request))
    (request : Request) (handler : Callable) :
    C.holds (gate.handle next request handler) (gate'.handle next' request handler) := by
  unfold handle
  refine C.next (h.parameters handler) fun found => ?_
  cases found with
  | error fault => exact C.done _
  | ok parameters =>
    refine C.next (checkAll_corresponds h 0 parameters) fun verdict => ?_
    have hforbidden : gate.forbidden request = gate'.forbidden request := by
      rw [forbidden, forbidden, h.settings]
    rw [hforbidden]
    split
    · exact C.done _
    · exact C.next (h.note _) fun _ => C.done _
    · exact hnext request
    · exact C.next (h.note _) fun _ => hnext request

/-- Gates that correspond deal with a request in corresponding ways, before handlers that do. -/
theorem process_corresponds (h : gate.Corresponds C gate') {next : Handler (Session σ)}
    {next' : Handler (Session τ)} (hnext : ∀ request, C.holds (next request) (next' request))
    (request : Request) :
    C.holds (gate.process next request) (gate'.process next' request) := by
  unfold process
  split
  · exact C.done _
  · exact handle_corresponds h hnext request _
  · exact C.done _
  · exact C.next (h.note _) fun _ => hnext request

end Gate

end Interception
