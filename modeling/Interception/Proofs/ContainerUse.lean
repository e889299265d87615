import Interception.Container.Pool
import Interception.Proofs.LastSuch
import Mathlib.Data.List.GetD
import Mathlib.Data.List.Induction
import Mathlib.Data.Set.Card

/-!
# A container in use

A client binds types to factories and to instances, gets instances, and has them validate themselves,
in any order.  Main statement: what a type is got by is the last thing that it was bound to, under
whichever spelling of its name; a factory is called once for each instance that is got from it, and that
instance has never been asked before; an instance that is shared is the same each time; and an instance
answers by how often it was asked before, under whichever name it was got.
-/

namespace Interception

open Name

namespace Bindings

variable {σ : Type}

/-! ## Commands -/

/-- What a client does.  It knows an instance by the number of the command that handed it out. -/
inductive Command (σ : Type) where
  /-- Makes an instance without the container. -/
  | make (factory : Act σ (Validator σ))
  | register (type : String) (factory : Act σ (Validator σ))
  | share (type : String) (source : ℕ)
  | get (type : String)
  /-- Asks an instance to validate itself. -/
  | validate (source : ℕ)

/-- What comes of a command. -/
inductive Reply (σ : Type) where
  | bound
  | handed (validator : Validator σ)
  | refused (fault : Fault)
  | answered (answer : Except Rejection Unit)
  /-- There is no such instance. -/
  | nothing

/-- The instance that the command of that number handed out. -/
def handed? (history : List (Command σ × Reply σ)) (source : ℕ) : Option (Validator σ) :=
  match history[source]? with
  | some (_, .handed validator) => some validator
  | _ => none

/-- What comes of getting an instance. -/
def Reply.ofGot : Except Fault (Validator σ) → Reply σ
  | .ok validator => .handed validator
  | .error fault => .refused fault

/-- A container and what has been done with it. -/
structure Usage (σ : Type) where
  bindings : Bindings σ
  history : List (Command σ × Reply σ)

namespace Usage

/-- What comes of a command now. -/
def reply (usage : Usage σ) : Command σ → Act σ (Reply σ)
  | .make factory => .handed <$> factory
  | .register _ _ => pure .bound
  | .share _ source => pure (if (handed? usage.history source).isSome then .bound else .nothing)
  | .get type => .ofGot <$> usage.bindings.get type
  | .validate source =>
    match handed? usage.history source with
    | some validator => .answered <$> validator
    | none => pure .nothing

/-- The bindings after a command. -/
def rebound (usage : Usage σ) : Command σ → Bindings σ
  | .register type factory => usage.bindings.register type factory
  | .share type source =>
    match handed? usage.history source with
    | some validator => usage.bindings.share type validator
    | none => usage.bindings
  | _ => usage.bindings

/-- One command. -/
def step (usage : Usage σ) (command : Command σ) : Act σ (Usage σ) := do
  let reply ← usage.reply command
  return ⟨usage.rebound command, usage.history ++ [(command, reply)]⟩

/-- One command after the other, on a container that nothing has been done with. -/
def after (commands : List (Command σ)) : Act σ (Usage σ) := commands.foldlM step ⟨.empty, []⟩

end Usage

/-! ## What a type is bound to -/

/-- The command has bound the type, under some spelling of its name. -/
inductive Binds (type : String) : Command σ × Reply σ → Prop where
  | register {name : String} (factory : Act σ (Validator σ))
    (hname : normalize name = normalize type) : Binds type (.register name factory, .bound)
  | share {name : String} (source : ℕ) (hname : normalize name = normalize type) :
    Binds type (.share name source, .bound)

/-- The command was the last one that bound the type. -/
def LastBinds (history : List (Command σ × Reply σ)) (type : String) (command : Command σ) : Prop :=
  LastSuch (Binds type) history (command, .bound)

section LastBinds

variable {history : List (Command σ × Reply σ)} {type : String} {command : Command σ}
  {entry : Command σ × Reply σ}

theorem lastBinds_concat_of_binds (h : Binds type entry) :
    LastBinds (history ++ [entry]) type command ↔ entry = (command, .bound) := by
  rw [LastBinds, lastSuch_concat_iff]
  simp [h]

theorem lastBinds_concat_of_not (h : ¬Binds type entry) :
    LastBinds (history ++ [entry]) type command ↔ LastBinds history type command := by
  rw [LastBinds, lastSuch_concat_iff]
  simp [h, LastBinds]

end LastBinds

theorem factory?_register (bindings : Bindings σ) (name type : String)
    (factory : Act σ (Validator σ)) :
    (bindings.register name factory).factory? type =
      if normalize name = normalize type then some factory else bindings.factory? type := by
  rw [register, factory?, List.lookup_cons]
  by_cases h : normalize name = normalize type
  · simp [h]
  · have hne : (normalize type == normalize name) = false := by simpa using Ne.symm h
    rw [if_neg h, hne]
    rfl

/-! ## One command more -/

theorem handed?_append {history : List (Command σ × Reply σ)} {source : ℕ} {validator : Validator σ}
    (h : handed? history source = some validator) (entry : Command σ × Reply σ) :
    handed? (history ++ [entry]) source = some validator := by
  rw [handed?] at h ⊢
  cases hentry : history[source]? with
  | none => simp [hentry] at h
  | some found =>
    obtain ⟨hlt, -⟩ := List.getElem?_eq_some_iff.1 hentry
    rwa [List.getElem?_append_left hlt]

/-- What was handed out was so before, or just now. -/
theorem handed?_concat {history : List (Command σ × Reply σ)} {source : ℕ} {validator : Validator σ}
    {entry : Command σ × Reply σ} (h : handed? (history ++ [entry]) source = some validator) :
    handed? history source = some validator ∨ source = history.length ∧ entry.2 = .handed validator := by
  rw [handed?] at h
  rcases Nat.lt_trichotomy source history.length with hlt | rfl | hgt
  · rw [List.getElem?_append_left hlt] at h
    exact .inl h
  · rw [List.getElem?_concat_length] at h
    obtain ⟨command, reply⟩ := entry
    cases reply with
    | handed found => exact .inr ⟨rfl, congrArg Reply.handed (Option.some.inj h)⟩
    | _ => cases h
  · have hnone : (history ++ [entry])[source]? = none := List.getElem?_eq_none (by simp; omega)
    rw [hnone] at h
    cases h

namespace Usage

/-- A run of commands, by its last one. -/
theorem value_after_concat (commands : List (Command σ)) (command : Command σ) (world : σ) :
    (after (commands ++ [command]) world).value =
      let before := (after commands world).value
      let done := (before.1.reply command before.2).value
      (⟨before.1.rebound command, before.1.history ++ [(command, done.1)]⟩, done.2) := by
  have hconcat : after (commands ++ [command]) = after commands >>= (·.step command) := by
    simp [after, List.foldlM_append]
  rw [hconcat]
  rfl

end Usage

/-- What a type is got by is what the history says that it was bound to last. -/
structure BoundAs (history : List (Command σ × Reply σ)) (type : String)
    (found : Option (Act σ (Validator σ))) : Prop where
  unbound : (∀ entry ∈ history, ¬Binds type entry) → found = none
  registered : ∀ name factory, LastBinds history type (.register name factory) → found = some factory
  shared : ∀ name source, LastBinds history type (.share name source) →
    ∃ validator, handed? history source = some validator ∧ found = some (pure validator)

namespace BoundAs

variable {history : List (Command σ × Reply σ)} {type name : String}
  {found : Option (Act σ (Validator σ))} {entry : Command σ × Reply σ}

/-- A command that does not bind the type leaves what it is bound to. -/
theorem keep (h : BoundAs history type found) (hnot : ¬Binds type entry) :
    BoundAs (history ++ [entry]) type found where
  unbound hnone := h.unbound fun other hother => hnone other (List.mem_append_left _ hother)
  registered name factory hlast :=
    h.registered name factory ((lastBinds_concat_of_not hnot).1 hlast)
  shared name source hlast := by
    obtain ⟨validator, hhanded, hfound⟩ :=
      h.shared name source ((lastBinds_concat_of_not hnot).1 hlast)
    exact ⟨validator, handed?_append hhanded _, hfound⟩

theorem register (factory : Act σ (Validator σ)) (hname : normalize name = normalize type) :
    BoundAs (history ++ [(.register name factory, .bound)]) type (some factory) := by
  have hbinds : Binds type (.register name factory, .bound) := .register factory hname
  refine ⟨fun hnone => absurd hbinds (hnone _ (by simp)), ?_, ?_⟩
  · intro other factory' hlast
    cases (lastBinds_concat_of_binds hbinds).1 hlast
    rfl
  · intro other source hlast
    cases (lastBinds_concat_of_binds hbinds).1 hlast

theorem share {source : ℕ} {validator : Validator σ} (hhanded : handed? history source = some validator)
    (hname : normalize name = normalize type) :
    BoundAs (history ++ [(.share name source, .bound)]) type (some (pure validator)) := by
  have hbinds : Binds type (.share (σ := σ) name source, .bound) := .share source hname
  refine ⟨fun hnone => absurd hbinds (hnone _ (by simp)), ?_, ?_⟩
  · intro other factory hlast
    cases (lastBinds_concat_of_binds hbinds).1 hlast
  · intro other source' hlast
    cases (lastBinds_concat_of_binds hbinds).1 hlast
    exact ⟨validator, handed?_append hhanded _, rfl⟩

end BoundAs

namespace Usage

/-- Binding another type leaves what a type is bound to. -/
theorem factory?_rebound (usage : Usage σ) {type : String} {command : Command σ}
    (hnot : ∀ reply, ¬Binds type (command, reply)) :
    (usage.rebound command).factory? type = usage.bindings.factory? type := by
  cases command with
  | register name factory =>
    have hname : normalize name ≠ normalize type := fun hname => hnot _ (.register factory hname)
    rw [rebound, factory?_register, if_neg hname]
  | share name source =>
    have hname : normalize name ≠ normalize type := fun hname => hnot _ (.share source hname)
    rw [rebound]
    split
    · rw [Bindings.share, factory?_register, if_neg hname]
    · rfl
  | _ => rfl

theorem boundAs_step {usage : Usage σ} {type : String}
    (h : BoundAs usage.history type (usage.bindings.factory? type)) (command : Command σ) (world : σ) :
    BoundAs (usage.history ++ [(command, (usage.reply command world).value.1)]) type
      ((usage.rebound command).factory? type) := by
  by_cases hnot : ∀ reply, ¬Binds type (command, reply)
  · rw [factory?_rebound usage hnot]
    exact h.keep (hnot _)
  · obtain ⟨_, hbinds⟩ := not_forall_not.1 hnot
    cases hbinds with
    | register factory hname =>
      rw [rebound, factory?_register, if_pos hname]
      exact .register factory hname
    | @share name source hname =>
      rw [rebound, reply]
      -- only an instance that is there can be shared
      cases hhanded : handed? usage.history source with
      | none => exact h.keep (by rintro (_ | _))
      | some validator =>
        have hbound : (usage.bindings.share name validator).factory? type = some (pure validator) := by
          rw [Bindings.share, factory?_register, if_pos hname]
        exact hbound ▸ .share hhanded hname

theorem boundAs_after (commands : List (Command σ)) (world : σ) (type : String) :
    BoundAs (after commands world).value.1.history type
      ((after commands world).value.1.bindings.factory? type) := by
  induction commands using List.reverseRecOn with
  | nil =>
    exact ⟨fun _ => rfl, fun _ _ hlast => absurd hlast not_lastSuch_nil,
      fun _ _ hlast => absurd hlast not_lastSuch_nil⟩
  | append_singleton commands command ih =>
    rw [value_after_concat]
    exact boundAs_step ih command _

/-- A type that is bound is got by its factory. -/
theorem reply_get_of_factory? {usage : Usage σ} {type : String} {factory : Act σ (Validator σ)}
    (h : usage.bindings.factory? type = some factory) :
    usage.reply (.get type) = .handed <$> factory := by
  rw [reply, Bindings.get, h]
  simp [Reply.ofGot]

end Usage

/-! ## Instances with a history -/

/-- The instances are of a pool: what makes one makes a new one in the pool. -/
inductive Command.Pooled : Command Pool → Prop where
  | make (answer : ℕ → Except Rejection Unit) : Pooled (.make (Pool.factory answer))
  | register (type : String) (answer : ℕ → Except Rejection Unit) :
    Pooled (.register type (Pool.factory answer))
  | share (type : String) (source : ℕ) : Pooled (.share type source)
  | get (type : String) : Pooled (.get type)
  | validate (source : ℕ) : Pooled (.validate source)

/-- The command of this index asked the instance of this number. -/
def Asks (history : List (Command Pool × Reply Pool)) (index number : ℕ) : Prop :=
  ∃ source reply answer, history[index]? = some (.validate source, reply) ∧
    handed? (history.take index) source = some (Pool.validator answer number)

/-- Instances of different numbers are different. -/
theorem validator_inj {answer other : ℕ → Except Rejection Unit} {number number' : ℕ}
    (h : Pool.validator answer number = Pool.validator other number') : number = number' := by
  -- in a pool that nobody has been asked in, the one that is asked can be told
  let pool : Pool := ⟨List.replicate (number + number' + 1) 0⟩
  have hcalls : pool.calls.modify number (· + 1) = pool.calls.modify number' (· + 1) :=
    congrArg (fun act : Validator Pool => (act pool).value.2.calls) h
  have hcount := congrArg (fun calls => calls[number]?) hcalls
  by_contra hne
  simp [pool, Ne.symm hne] at hcount

theorem asks_concat_iff {history : List (Command Pool × Reply Pool)}
    {entry : Command Pool × Reply Pool} {index number : ℕ} :
    Asks (history ++ [entry]) index number ↔ Asks history index number ∨
      index = history.length ∧ ∃ source answer, entry.1 = .validate source ∧
        handed? history source = some (Pool.validator answer number) := by
  rcases Nat.lt_trichotomy index history.length with hlt | rfl | hgt
  · rw [Asks, List.getElem?_append_left hlt, List.take_append_of_le_length hlt.le]
    simp [Asks, hlt.ne]
  · obtain ⟨command, reply⟩ := entry
    simp [Asks]
  · have hnone : ∀ history : List (Command Pool × Reply Pool), history.length ≤ index →
        ¬Asks history index number := by
      rintro history hle ⟨source, reply, answer, hentry, -⟩
      simp [List.getElem?_eq_none hle] at hentry
    simp [hnone (history ++ [entry]) (by simp; omega), hnone history hgt.le, hgt.ne']

namespace Usage

/-- What a command may do: nothing to the instances; make a new one; or ask one. -/
inductive Does (usage : Usage Pool) (pool : Pool) : Command Pool → Reply Pool → Pool → Prop where
  | quiet {command : Command Pool} {reply : Reply Pool}
    (hreply : ∀ validator, reply = .handed validator →
      ∃ source, handed? usage.history source = some validator)
    (hcommand : ∀ source, command = .validate source → handed? usage.history source = none) :
    Does usage pool command reply pool
  | create {command : Command Pool} (answer : ℕ → Except Rejection Unit)
    (hcommand : ∀ source, command ≠ .validate source) :
    Does usage pool command (.handed (Pool.validator answer pool.calls.length)) ⟨pool.calls ++ [0]⟩
  | ask {source number : ℕ} {answer : ℕ → Except Rejection Unit}
    (hhanded : handed? usage.history source = some (Pool.validator answer number)) :
    Does usage pool (.validate source) (.answered (answer (pool.calls.getD number 0)))
      ⟨pool.calls.modify number (· + 1)⟩

/-- Whatever is handed out is an instance of the pool, types are bound to such instances and to
factories that make them, and the pool knows how often each has been asked. -/
structure Recorded (usage : Usage Pool) (pool : Pool) : Prop where
  handed : ∀ source validator, handed? usage.history source = some validator →
    ∃ answer number, validator = Pool.validator answer number ∧ number < pool.calls.length
  factories : ∀ type factory, usage.bindings.factory? type = some factory →
    (∃ answer, factory = Pool.factory answer) ∨
      ∃ source validator, handed? usage.history source = some validator ∧ factory = pure validator
  asked : ∀ number, pool.calls.getD number 0 = {index | Asks usage.history index number}.ncard

variable {usage : Usage Pool} {pool : Pool} {command : Command Pool}

theorem value_factory (answer : ℕ → Except Rejection Unit) (pool : Pool) :
    (Reply.handed <$> Pool.factory answer : Act Pool (Reply Pool)) pool =
      ⟨(.handed (Pool.validator answer pool.calls.length), ⟨pool.calls ++ [0]⟩), []⟩ := rfl

theorem Recorded.does (h : usage.Recorded pool) (hpooled : command.Pooled) :
    Does usage pool command (usage.reply command pool).value.1 (usage.reply command pool).value.2 := by
  cases hpooled with
  | make answer =>
    rw [reply, value_factory]
    exact .create answer (by simp)
  | register type answer => exact .quiet (by rintro validator ⟨⟩) (by simp)
  | share type source =>
    refine .quiet (fun validator hreply => ?_) (by simp)
    by_cases hhanded : (handed? usage.history source).isSome <;> simp [reply, hhanded] at hreply
  | get type =>
    cases hfactory : usage.bindings.factory? type with
    | none =>
      rw [reply, Bindings.get, hfactory]
      exact .quiet (by rintro validator ⟨⟩) (by simp)
    | some factory =>
      rw [reply_get_of_factory? hfactory]
      obtain ⟨answer, rfl⟩ | ⟨source, validator, hhanded, rfl⟩ := h.factories type factory hfactory
      · rw [value_factory]
        exact .create answer (by simp)
      · refine .quiet ?_ (by simp)
        rintro _ ⟨⟩
        exact ⟨source, hhanded⟩
  | validate source =>
    rw [reply]
    cases hhanded : handed? usage.history source with
    | none =>
      refine .quiet (by rintro validator ⟨⟩) ?_
      rintro _ ⟨⟩
      exact hhanded
    | some validator =>
      obtain ⟨answer, number, rfl, -⟩ := h.handed source validator hhanded
      exact .ask hhanded

/-- After a command too, types are bound to factories of the pool and to its instances. -/
theorem Recorded.factories_rebound (h : usage.Recorded pool) (hpooled : command.Pooled)
    (reply : Reply Pool) {type : String} {factory : Act Pool (Validator Pool)}
    (hfactory : (usage.rebound command).factory? type = some factory) :
    (∃ answer, factory = Pool.factory answer) ∨ ∃ source validator,
      handed? (usage.history ++ [(command, reply)]) source = some validator ∧
        factory = pure validator := by
  have hold : usage.bindings.factory? type = some factory →
      (∃ answer, factory = Pool.factory answer) ∨ ∃ source validator,
        handed? (usage.history ++ [(command, reply)]) source = some validator ∧
          factory = pure validator := by
    intro hbound
    refine (h.factories type factory hbound).imp_right ?_
    rintro ⟨source, validator, hhanded, hpure⟩
    exact ⟨source, validator, handed?_append hhanded _, hpure⟩
  cases hpooled with
  | register name answer =>
    rw [rebound, factory?_register] at hfactory
    split at hfactory
    · exact .inl ⟨answer, (Option.some.inj hfactory).symm⟩
    · exact hold hfactory
  | share name source =>
    rw [rebound] at hfactory
    split at hfactory
    · next validator hhanded =>
      rw [Bindings.share, factory?_register] at hfactory
      split at hfactory
      · exact .inr ⟨source, validator, handed?_append hhanded _, (Option.some.inj hfactory).symm⟩
      · exact hold hfactory
    · exact hold hfactory
  | _ => exact hold hfactory

/-- A command that asks no instance leaves open how often each has been asked. -/
theorem asks_concat_of_quiet {history : List (Command Pool × Reply Pool)} {reply : Reply Pool}
    (h : ∀ source, command = .validate source → handed? history source = none) (number : ℕ) :
    {index | Asks (history ++ [(command, reply)]) index number} = {index | Asks history index number} := by
  ext index
  refine asks_concat_iff.trans (or_iff_left ?_)
  rintro ⟨-, source, answer, hcommand, hhanded⟩
  rw [h source hcommand] at hhanded
  cases hhanded

theorem lt_length_of_asks {history : List (Command Pool × Reply Pool)} {index number : ℕ}
    (h : Asks history index number) : index < history.length := by
  obtain ⟨source, reply, answer, hentry, -⟩ := h
  exact (List.getElem?_eq_some_iff.1 hentry).1

theorem finite_asks (history : List (Command Pool × Reply Pool)) (number : ℕ) :
    {index | Asks history index number}.Finite :=
  (Set.finite_lt_nat history.length).subset fun _ => lt_length_of_asks

/-- A question to one instance is counted for that instance. -/
theorem ncard_asks_concat {history : List (Command Pool × Reply Pool)} {source asked : ℕ}
    {answer : ℕ → Except Rejection Unit}
    (hhanded : handed? history source = some (Pool.validator answer asked)) (reply : Reply Pool)
    (number : ℕ) :
    {index | Asks (history ++ [(.validate source, reply)]) index number}.ncard =
      {index | Asks history index number}.ncard + if number = asked then 1 else 0 := by
  have hlast : (∃ source' other, Command.validate (σ := Pool) source = .validate source' ∧
      handed? history source' = some (Pool.validator other number)) ↔ number = asked := by
    constructor
    · rintro ⟨_, other, ⟨⟩, hother⟩
      rw [hhanded] at hother
      exact (validator_inj (Option.some.inj hother)).symm
    · rintro rfl
      exact ⟨source, answer, rfl, hhanded⟩
  simp only [asks_concat_iff, hlast]
  by_cases hnumber : number = asked
  · have hinsert : {index | Asks history index number ∨ index = history.length ∧ number = asked} =
        insert history.length {index | Asks history index number} := by
      ext index
      simp [hnumber, or_comm]
    rw [hinsert, if_pos hnumber, Set.ncard_insert_of_notMem _ (finite_asks history number)]
    exact fun hmem => absurd (lt_length_of_asks hmem) (Nat.lt_irrefl _)
  · simp [hnumber]

/-- A new instance has not been asked. -/
theorem getD_concat_zero (calls : List ℕ) (number : ℕ) :
    (calls ++ [0]).getD number 0 = calls.getD number 0 := by
  rcases Nat.lt_trichotomy number calls.length with hlt | rfl | hgt
  · rw [List.getD_append _ _ _ _ hlt]
  · simp
  · rw [List.getD_eq_default _ _ hgt.le, List.getD_eq_default]
    simpa using hgt

theorem getD_modify {calls : List ℕ} {asked : ℕ} (h : asked < calls.length) (number : ℕ) :
    (calls.modify asked (· + 1)).getD number 0 =
      calls.getD number 0 + if number = asked then 1 else 0 := by
  simp only [List.getD_eq_getElem?_getD, List.getElem?_modify]
  by_cases hnumber : number = asked
  · subst hnumber
    simp [h]
  · simp [hnumber, Ne.symm hnumber]

theorem Recorded.concat (h : usage.Recorded pool) (hpooled : command.Pooled) {reply : Reply Pool}
    {next : Pool} (hdoes : Does usage pool command reply next) :
    Recorded ⟨usage.rebound command, usage.history ++ [(command, reply)]⟩ next := by
  refine ⟨?_, fun type factory => h.factories_rebound hpooled reply, ?_⟩
  · intro source validator hhanded
    cases hdoes with
    | quiet hreply _ =>
      obtain hold | ⟨-, hnew⟩ := handed?_concat hhanded
      · exact h.handed source validator hold
      · obtain ⟨earlier, hearlier⟩ := hreply validator hnew
        exact h.handed earlier validator hearlier
    | create answer _ =>
      obtain hold | ⟨-, hnew⟩ := handed?_concat hhanded
      · obtain ⟨other, number, hvalidator, hlt⟩ := h.handed source validator hold
        exact ⟨other, number, hvalidator, by simp; omega⟩
      · cases hnew
        exact ⟨answer, _, rfl, by simp⟩
    | ask _ =>
      obtain hold | ⟨-, hnew⟩ := handed?_concat hhanded
      · obtain ⟨other, number, hvalidator, hlt⟩ := h.handed source validator hold
        exact ⟨other, number, hvalidator, by simpa using hlt⟩
      · cases hnew
  · intro number
    cases hdoes with
    | quiet _ hcommand => rw [asks_concat_of_quiet hcommand, h.asked]
    | create answer hcommand =>
      rw [asks_concat_of_quiet fun source heq => absurd heq (hcommand source), ← h.asked]
      exact getD_concat_zero pool.calls number
    | @ask source asked answer hhanded =>
      obtain ⟨other, number', hvalidator, hlt⟩ := h.handed source _ hhanded
      rw [← validator_inj hvalidator] at hlt
      rw [ncard_asks_concat hhanded, ← h.asked]
      exact getD_modify hlt number

theorem recorded_after {commands : List (Command Pool)}
    (h : ∀ command ∈ commands, command.Pooled) :
    Recorded (after commands Pool.empty).value.1 (after commands Pool.empty).value.2 := by
  induction commands using List.reverseRecOn with
  | nil =>
    refine ⟨fun source validator hhanded => ?_, fun type factory hfactory => ?_, fun number => ?_⟩
    · cases hhanded
    · cases hfactory
    · have hnone : {index | Asks [] index number} = ∅ := by
        ext index
        simp [Asks]
      change ([] : List ℕ).getD number 0 = {index | Asks [] index number}.ncard
      rw [hnone, Set.ncard_empty]
      rfl
  | append_singleton commands command ih =>
    have hbefore := ih fun other hother => h other (List.mem_append_left _ hother)
    have hpooled := h command (by simp)
    rw [value_after_concat]
    exact hbefore.concat hpooled (hbefore.does hpooled)

/-- Whatever a client has done with a container, a type is got by what it was bound to last, under
whichever spelling of its name.  If that is nothing, it is not got; if it is a factory, then getting it
calls this factory once and does nothing else; if it is an instance, then this instance is handed out and
nothing else is done; and binding other types changes nothing of it.  If the instances are of a pool, a
factory hands out one that nobody has had before, and an instance is asked for the first, the second or
a later time according to how often it has been asked, whatever it was got as. -/
theorem after_resolves :
    (∀ (σ : Type) (commands : List (Command σ)) (world : σ) (type : String),
      let usage := (after commands world).value.1
      ((∀ entry ∈ usage.history, ¬Binds type entry) → usage.reply (.get type) =
        pure (.refused (.unresolved (normalize type) "no binding registered"))) ∧
      (∀ name factory, LastBinds usage.history type (.register name factory) →
        usage.reply (.get type) = .handed <$> factory) ∧
      (∀ name source, LastBinds usage.history type (.share name source) →
        ∃ validator, handed? usage.history source = some validator ∧
          usage.reply (.get type) = pure (.handed validator)) ∧
      ∀ command, (∀ reply, ¬Binds type (command, reply)) →
        (usage.rebound command).get type = usage.bindings.get type) ∧
    ∀ commands : List (Command Pool), (∀ command ∈ commands, command.Pooled) →
      let usage := (after commands Pool.empty).value.1
      let pool := (after commands Pool.empty).value.2
      (∀ source validator, handed? usage.history source = some validator →
        ∃ answer number, validator = Pool.validator answer number) ∧
      (∀ type name answer, LastBinds usage.history type (.register name (Pool.factory answer)) →
        ∃ number, (usage.reply (.get type) pool).value.1 = .handed (Pool.validator answer number) ∧
          ∀ source other, handed? usage.history source ≠ some (Pool.validator other number)) ∧
      ∀ source answer number, handed? usage.history source = some (Pool.validator answer number) →
        (usage.reply (.validate source) pool).value.1 =
          .answered (answer {index | Asks usage.history index number}.ncard) := by
  refine ⟨?_, ?_⟩
  · intro σ commands world type usage
    have hbound : BoundAs usage.history type (usage.bindings.factory? type) :=
      boundAs_after commands world type
    refine ⟨?_, ?_, ?_, ?_⟩
    · intro hnone
      rw [reply, Bindings.get, hbound.unbound hnone]
      rfl
    · intro name factory hlast
      exact reply_get_of_factory? (hbound.registered name factory hlast)
    · intro name source hlast
      obtain ⟨validator, hhanded, hfactory⟩ := hbound.shared name source hlast
      refine ⟨validator, hhanded, ?_⟩
      rw [reply_get_of_factory? hfactory, map_pure]
    · intro command hnot
      rw [Bindings.get, Bindings.get, factory?_rebound usage hnot]
  · intro commands hpooled usage pool
    have hrecorded : usage.Recorded pool := recorded_after hpooled
    refine ⟨?_, ?_, ?_⟩
    · intro source validator hhanded
      obtain ⟨answer, number, hvalidator, -⟩ := hrecorded.handed source validator hhanded
      exact ⟨answer, number, hvalidator⟩
    · intro type name answer hlast
      have hbound : BoundAs usage.history type (usage.bindings.factory? type) :=
        boundAs_after commands Pool.empty type
      refine ⟨pool.calls.length, ?_, ?_⟩
      · rw [reply_get_of_factory? (hbound.registered name _ hlast), value_factory]
      · intro source other hhanded
        obtain ⟨_, number, hvalidator, hlt⟩ := hrecorded.handed source _ hhanded
        exact absurd (validator_inj hvalidator) hlt.ne'
    · intro source answer number hhanded
      rw [reply, hhanded]
      exact congrArg (fun count => Reply.answered (answer count)) (hrecorded.asked number)

/-- An instance that accepts once, and then denies authority. -/
def once : ℕ → Except Rejection Unit
  | 0 => .ok ()
  | _ => .error (.unauthorized "used up")

/-- An instance is made and shared under two names, a third name is bound to a factory, and of the
shared instance and of a new one the validation is asked for. -/
def sharedUse : List (Command Pool) :=
  [.make (Pool.factory once), .share "\\A" 0, .share "B" 0, .register "\\C" (Pool.factory once),
    .get "A", .validate 4, .get "C", .validate 6, .get "\\B"]

/-- After that, the shared instance is handed out under its second name, and denies authority, for it has
been asked under its first; the third name gets one more new instance; and any other name gets none. -/
theorem after_resolves_of_sharedUse :
    let usage := (after sharedUse Pool.empty).value.1
    let pool := (after sharedUse Pool.empty).value.2
    (∀ command ∈ sharedUse, command.Pooled) ∧
      LastBinds usage.history "B" (.share "B" 0) ∧
      usage.reply (.get "B") = pure (.handed (Pool.validator once 0)) ∧
      (usage.reply (.validate 8) pool).value.1 = .answered (.error (.unauthorized "used up")) ∧
      LastBinds usage.history "C" (.register "\\C" (Pool.factory once)) ∧
      (∃ number, (usage.reply (.get "C") pool).value.1 = .handed (Pool.validator once number) ∧
        ∀ source other, handed? usage.history source ≠ some (Pool.validator other number)) ∧
      (∀ entry ∈ usage.history, ¬Binds "D" entry) ∧
      usage.reply (.get "D") = pure (.refused (.unresolved "D" "no binding registered")) := by
  intro usage pool
  have hpooled : ∀ command ∈ sharedUse, command.Pooled := by
    simp only [sharedUse, List.forall_mem_cons]
    exact ⟨.make once, .share _ _, .share _ _, .register _ once, .get _, .validate _, .get _,
      .validate _, .get _, fun _ hmem => absurd hmem List.not_mem_nil⟩
  have hgotten : ∀ type, ∀ entry ∈ usage.history.drop 4, ¬Binds type entry := by
    have hentries : usage.history.drop 4 = [(.get "A", .handed (Pool.validator once 0)),
      (.validate 4, .answered (.ok ())), (.get "C", .handed (Pool.validator once 1)),
      (.validate 6, .answered (.ok ())), (.get "\\B", .handed (Pool.validator once 0))] := rfl
    intro type entry hentry hbinds
    rw [hentries] at hentry
    cases hbinds <;> simp at hentry
  have hshared : LastBinds usage.history "B" (.share "B" 0) := by
    refine ⟨usage.history.take 2, usage.history.drop 3, rfl, .share 0 rfl, ?_⟩
    refine List.forall_mem_cons.2 ⟨?_, hgotten "B"⟩
    rintro (⟨_, hname⟩)
    exact absurd hname (by decide)
  have hmade : LastBinds usage.history "C" (.register "\\C" (Pool.factory once)) :=
    ⟨usage.history.take 3, usage.history.drop 4, rfl, .register _ (by decide), hgotten "C"⟩
  have hnone : ∀ entry ∈ usage.history, ¬Binds "D" entry := by
    refine List.forall_mem_cons.2 ⟨by rintro ⟨⟩, List.forall_mem_cons.2 ⟨?_, List.forall_mem_cons.2
      ⟨?_, List.forall_mem_cons.2 ⟨?_, hgotten "D"⟩⟩⟩⟩
    all_goals
      rintro (⟨_, hname⟩ | ⟨_, hname⟩)
      exact absurd hname (by decide)
  have hcount : {index | Asks usage.history index 0}.ncard = 1 :=
    ((recorded_after hpooled).asked 0).symm
  obtain ⟨hresolved, hpools⟩ := after_resolves
  obtain ⟨-, -, hinstance, -⟩ := hresolved Pool sharedUse Pool.empty "B"
  obtain ⟨hunbound, -⟩ := hresolved Pool sharedUse Pool.empty "D"
  obtain ⟨-, hnew, hanswers⟩ := hpools sharedUse hpooled
  obtain ⟨validator, hhanded, hsame⟩ := hinstance "B" 0 hshared
  obtain rfl : Pool.validator once 0 = validator := Option.some.inj hhanded
  refine ⟨hpooled, hshared, hsame, ?_, hmade, hnew "C" _ once hmade, hnone, hunbound hnone⟩
  refine (hanswers 8 once 0 rfl).trans ?_
  rw [hcount]
  rfl

end Usage

end Bindings

end Interception
