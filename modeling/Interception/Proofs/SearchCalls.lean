import Interception.Proofs.CapabilityClosure
import Interception.Proofs.LoadedManifests
import Interception.Proofs.Watched

/-!
# What a search for interfaces asks for

A search visits one type after the other, and what it meets on the way may lead back to where it has
been.  Here it goes on as long as something is pending, with no limit set from outside.  Main statement:
over a catalog, however its types refer to each other, every search ends; it asks for no name twice, and
for none but the type itself and the names that some declaration lists; and a limit of so many look-ups
is never felt.
-/

namespace Interception

namespace Closure

variable {lookup : String → Except Fault Declaration}

/-! ## The search without a limit -/

/-- With these types visited and these pending, the search asks for `asked`, in this order, and then
ends with this outcome. -/
inductive Asks (lookup : String → Except Fault Declaration) :
    List String → List String → NameSet → List String → Except Fault NameSet → Prop where
  | finished {visited : List String} {found : NameSet} : Asks lookup visited [] found [] (.ok found)
  /-- A type that has been visited is passed over. -/
  | again {visited pending asked : List String} {found : NameSet} {outcome : Except Fault NameSet}
      {name : String} (hvisited : name ∈ visited)
      (hrest : Asks lookup visited pending found asked outcome) :
      Asks lookup visited (name :: pending) found asked outcome
  /-- A known type leads further. -/
  | known {visited pending asked : List String} {found : NameSet} {outcome : Except Fault NameSet}
      {name : String} {decl : Declaration} (hnew : name ∉ visited) (hdecl : lookup name = .ok decl)
      (hrest : Asks lookup (name :: visited) (leads decl ++ pending)
        (found.insertAll decl.interfaces) asked outcome) :
      Asks lookup visited (name :: pending) found (name :: asked) outcome
  /-- A type that nobody declares leads nowhere. -/
  | unknown {visited pending asked : List String} {found : NameSet} {outcome : Except Fault NameSet}
      {name other : String} (hnew : name ∉ visited)
      (hnone : lookup name = .error (.unknownType other))
      (hrest : Asks lookup (name :: visited) pending found asked outcome) :
      Asks lookup visited (name :: pending) found (name :: asked) outcome
  /-- Any other fault ends the search. -/
  | failing {visited pending : List String} {found : NameSet} {name : String} {fault : Fault}
      (hnew : name ∉ visited) (hfails : Fails lookup name fault) :
      Asks lookup visited (name :: pending) found [name] (.error fault)

variable {visited pending asked : List String} {found : NameSet} {outcome : Except Fault NameSet}

/-- No name is asked for twice, and none that has been visited. -/
theorem Asks.nodup (h : Asks lookup visited pending found asked outcome) :
    asked.Nodup ∧ ∀ name ∈ asked, name ∉ visited := by
  induction h with
  | finished => exact ⟨List.nodup_nil, fun _ hmem => absurd hmem List.not_mem_nil⟩
  | again _ _ ih => exact ih
  | known hnew _ _ ih | unknown hnew _ _ ih =>
    obtain ⟨hnodup, hold⟩ := ih
    refine ⟨List.nodup_cons.2 ⟨fun hmem => hold _ hmem List.mem_cons_self, hnodup⟩, ?_⟩
    intro other hother
    rcases List.mem_cons.1 hother with rfl | hother
    · exact hnew
    · exact fun hvisited => hold other hother (List.mem_cons_of_mem _ hvisited)
  | failing hnew _ =>
    refine ⟨List.nodup_singleton _, fun other hother => ?_⟩
    rwa [List.mem_singleton.1 hother]

/-- Only what was pending, or what some type leads to, is asked for. -/
theorem Asks.mem {allowed : String → Prop} (h : Asks lookup visited pending found asked outcome)
    (hpending : ∀ name ∈ pending, allowed name)
    (hleads : ∀ name decl, lookup name = .ok decl → ∀ next ∈ leads decl, allowed next) :
    ∀ name ∈ asked, allowed name := by
  induction h with
  | finished => exact hpending
  | again _ _ ih => exact ih (List.forall_mem_cons.1 hpending).2
  | known _ hdecl _ ih =>
    obtain ⟨hfirst, hothers⟩ := List.forall_mem_cons.1 hpending
    refine List.forall_mem_cons.2 ⟨hfirst, ih fun name hname => ?_⟩
    rcases List.mem_append.1 hname with hlead | hother
    · exact hleads _ _ hdecl name hlead
    · exact hothers name hother
  | unknown _ _ _ ih =>
    obtain ⟨hfirst, hothers⟩ := List.forall_mem_cons.1 hpending
    exact List.forall_mem_cons.2 ⟨hfirst, ih hothers⟩
  | failing _ _ =>
    intro other hother
    rw [List.mem_singleton.1 hother]
    exact hpending _ List.mem_cons_self

/-- A search that fails has met a type that fails. -/
theorem Asks.exists_fails {fault : Fault}
    (h : Asks lookup visited pending found asked (.error fault)) :
    ∃ name, Fails lookup name fault := by
  generalize houtcome : Except.error fault = outcome at h
  induction h with
  | finished => cases houtcome
  | again _ _ ih | known _ _ _ ih | unknown _ _ _ ih => exact ih houtcome
  | failing _ hfails =>
    cases houtcome
    exact ⟨_, hfails⟩

/-- If everything that is pending, or that some type leads to, is among finitely many names, then the
search ends. -/
theorem exists_asks (names : Finset String)
    (hleads : ∀ name decl, lookup name = .ok decl → ∀ next ∈ leads decl, next ∈ names)
    (found : NameSet) (hpending : ∀ name ∈ pending, name ∈ names) :
    ∃ asked outcome, Asks lookup visited pending found asked outcome := by
  -- first by the names that have not been visited, then by what is pending
  induction hcount : (names.filter (· ∉ visited)).card using Nat.strong_induction_on
    generalizing visited pending found with
  | _ count ih =>
    induction pending with
    | nil => exact ⟨[], _, .finished⟩
    | cons name others ihothers =>
      obtain ⟨hname, hothers⟩ := List.forall_mem_cons.1 hpending
      by_cases hvisited : name ∈ visited
      · obtain ⟨asked, outcome, hrest⟩ := ihothers hothers
        exact ⟨asked, outcome, .again hvisited hrest⟩
      · have hfewer := hcount ▸ card_unvisited hname hvisited
        cases hdecl : lookup name with
        | ok decl =>
          have hboth : ∀ next ∈ leads decl ++ others, next ∈ names := fun next hnext =>
            (List.mem_append.1 hnext).elim (hleads name decl hdecl next) (hothers next)
          obtain ⟨asked, outcome, hrest⟩ := ih _ hfewer (found.insertAll decl.interfaces) hboth rfl
          exact ⟨_, outcome, .known hvisited hdecl hrest⟩
        | error fault =>
          by_cases hunknown : ∃ other, fault = .unknownType other
          · obtain ⟨other, rfl⟩ := hunknown
            obtain ⟨asked, outcome, hrest⟩ := ih _ hfewer found hothers rfl
            exact ⟨_, outcome, .unknown hvisited hdecl hrest⟩
          · exact ⟨_, _, .failing hvisited ⟨hdecl, fun other heq => hunknown ⟨other, heq⟩⟩⟩

/-! ## The search with a limit that suffices -/

theorem visit_again {m : Type → Type} [Monad m] {look : String → m (Except Fault Declaration)}
    {root name : String} {visited : List String} (h : name ∈ visited) (pending : List String)
    (found : NameSet) (steps : Nat) :
    visit look root visited (name :: pending) found steps =
      visit look root visited pending found steps := by
  have hdrop : (name :: pending).dropWhile visited.contains = pending.dropWhile visited.contains := by
    rw [List.dropWhile_cons, if_pos (List.contains_iff_mem.2 h)]
  cases steps <;> rw [visit, visit, hdrop]

theorem visit_new {m : Type → Type} [Monad m] {look : String → m (Except Fault Declaration)}
    {root name : String} {visited : List String} (h : name ∉ visited) (pending : List String)
    (found : NameSet) (steps : Nat) :
    visit look root visited (name :: pending) found (steps + 1) = look name >>= fun
      | .ok decl => visit look root (name :: visited) (leads decl ++ pending)
        (found.insertAll decl.interfaces) steps
      | .error (.unknownType _) => visit look root (name :: visited) pending found steps
      | .error fault => pure (.error fault) := by
  have hstep := visit.eq_2 look root visited (name :: pending) found steps
  rw [List.dropWhile_cons, if_neg (by simpa using h)] at hstep
  exact hstep

/-- With a look-up for every name it asks for, the search does so and ends with its outcome. -/
theorem Asks.visit_watched {σ : Type} {source : Source σ}
    (h : Asks lookup visited pending found asked outcome) (hsource : source.Answers lookup)
    (root : String) {steps : Nat} (hsteps : asked.length ≤ steps) (watched : Watched σ) :
    (visit source.watched.lookup root visited pending found steps watched).value =
      (outcome, ⟨watched.world, watched.calls ++ asked.map Call.declaration⟩) := by
  have hlook : ∀ (name : String) (watched : Watched σ), (source.watched.lookup name watched).value =
      (lookup name, ⟨watched.world, watched.calls ++ [.declaration name]⟩) := fun name watched => by
    have hplain := hsource name watched.world
    simp only [Source.watched, Call.asking, hplain]
  induction h generalizing steps watched with
  | finished => cases steps <;> simp [visit]
  | again hvisited _ ih =>
    rw [visit_again hvisited]
    exact ih hsteps watched
  | known hnew hdecl _ ih =>
    obtain ⟨below, rfl⟩ := Nat.exists_eq_add_of_le' hsteps
    rw [List.length_cons, ← Nat.add_assoc, visit_new hnew, Act.value_bind_of_eq (hlook _ watched), hdecl]
    refine (ih (Nat.le_add_left _ _) _).trans ?_
    simp
  | unknown hnew hnone _ ih =>
    obtain ⟨below, rfl⟩ := Nat.exists_eq_add_of_le' hsteps
    rw [List.length_cons, ← Nat.add_assoc, visit_new hnew, Act.value_bind_of_eq (hlook _ watched), hnone]
    refine (ih (Nat.le_add_left _ _) _).trans ?_
    simp
  | @failing _ _ _ name fault hnew hfails =>
    obtain ⟨below, rfl⟩ := Nat.exists_eq_add_of_le' hsteps
    rw [List.length_singleton, visit_new hnew, Act.value_bind_of_eq (hlook _ watched), hfails.1]
    cases fault with
    | unknownType other => exact absurd rfl (hfails.2 other)
    | _ => rfl

end Closure

namespace Catalog

open Closure

/-- The catalog as a source; asking it does nothing else. -/
def source {σ : Type} (catalog : Catalog) : Source σ where
  lookup name := pure (catalog.lookup name)
  reach _ := catalog.reach

/-- Some declaration lists the name as its parent or as one of its interfaces. -/
def Lists (catalog : Catalog) (name : String) : Prop :=
  ∃ decl ∈ catalog.decls, decl.parent = some name ∨ name ∈ decl.interfaces

variable (catalog : Catalog)

/-- The names that some declaration lists. -/
def listed : Finset String := (catalog.decls.flatMap leads).toFinset

theorem mem_listed {name : String} : name ∈ catalog.listed ↔ catalog.Lists name := by
  simp [listed, Lists]

theorem ncard_lists : {name | catalog.Lists name}.ncard = catalog.listed.card := by
  rw [← Set.ncard_coe_finset]
  congr 1
  ext name
  exact catalog.mem_listed.symm

/-- The catalog's own limit allows for the type itself and all names that are listed. -/
theorem ncard_lists_lt_reach : {name | catalog.Lists name}.ncard < catalog.reach := by
  have hreach : ∀ decls : List Declaration, decls.foldr
      (fun decl bound => decl.interfaces.length + decl.parent.toList.length + bound) 1 =
      (decls.flatMap leads).length + 1 := by
    intro decls
    induction decls with
    | nil => rfl
    | cons decl others ih =>
      rw [List.foldr_cons, ih, List.flatMap_cons, List.length_append, leads, List.length_append,
        List.length_reverse]
      omega
  rw [ncard_lists, reach, hreach, listed]
  exact Nat.lt_succ_of_le (List.toFinset_card_le _)

theorem lists_of_lookup {name : String} {decl : Declaration} (h : catalog.lookup name = .ok decl) :
    ∀ next ∈ leads decl, catalog.Lists next := fun _ hnext =>
  ⟨decl, List.mem_of_find?_eq_some (lookup_eq_ok_iff.1 h), mem_leads.1 hnext⟩

/-- A catalog never fails for another reason than that it does not know the type. -/
theorem not_fails {name : String} {fault : Fault} : ¬Fails catalog.lookup name fault := by
  rintro ⟨hfault, hother⟩
  exact hother _ (lookup_eq_error_iff.1 hfault).2

/-- The search from any type over any catalog ends and finds a set.  It asks for no name twice, and only
for the type itself and for names that some declaration lists, so that there are at most as many
look-ups as such names and one more.  With this many or more allowed, as a catalog allows, the search
makes the same look-ups and finds the same. -/
theorem search_asks_once (root : String) :
    ∃ asked set, Asks catalog.lookup [] [root] .empty asked (.ok set) ∧ asked.Nodup ∧
      (∀ name ∈ asked, name = root ∨ catalog.Lists name) ∧
      asked.length ≤ 1 + {name | catalog.Lists name}.ncard ∧
      1 + {name | catalog.Lists name}.ncard ≤ catalog.reach ∧
      ∀ bound, 1 + {name | catalog.Lists name}.ncard ≤ bound →
        ∀ (σ : Type) (watched : Watched σ),
          (interfaces catalog.source.watched.lookup bound root watched).value =
            (.ok set, ⟨watched.world, watched.calls ++ asked.map Call.declaration⟩) := by
  have hnames : ∀ name, name ∈ {root} ∪ catalog.listed ↔ name = root ∨ catalog.Lists name := by
    simp [mem_listed]
  have hroot : ∀ name ∈ [root], name ∈ {root} ∪ catalog.listed := by simp
  have hleads : ∀ name decl, catalog.lookup name = .ok decl →
      ∀ next ∈ leads decl, next ∈ {root} ∪ catalog.listed := fun name decl hdecl next hnext =>
    (hnames next).2 (.inr (catalog.lists_of_lookup hdecl next hnext))
  obtain ⟨asked, outcome, hasks⟩ : ∃ asked outcome, Asks catalog.lookup [] [root] .empty asked outcome :=
    exists_asks ({root} ∪ catalog.listed) hleads .empty hroot
  have hmem : ∀ name ∈ asked, name ∈ {root} ∪ catalog.listed := hasks.mem hroot hleads
  have hlength : asked.length ≤ 1 + {name | catalog.Lists name}.ncard := by
    rw [← List.toFinset_card_of_nodup hasks.nodup.1, ncard_lists]
    refine (Finset.card_le_card fun name hname => ?_).trans (Finset.card_union_le {root} _)
    exact hmem name (List.mem_toFinset.1 hname)
  cases outcome with
  | error fault => exact absurd hasks.exists_fails.choose_spec catalog.not_fails
  | ok set =>
    refine ⟨asked, set, hasks, hasks.nodup.1, fun name hname => (hnames name).1 (hmem name hname),
      hlength, ?_, ?_⟩
    · rw [Nat.add_comm]
      exact catalog.ncard_lists_lt_reach
    · intro bound hbound σ watched
      exact hasks.visit_watched (fun _ _ => rfl) root (hlength.trans hbound) watched

/-- The class `A` and its parent `B` extend each other, and two interfaces of `A` extend a third one,
which nobody declares. -/
def knot : Catalog := ofList
  [(((Declaration.empty "A" .classKind).extending "B").implementing "I").implementing "J",
    (Declaration.empty "B" .classKind).extending "A",
    (Declaration.empty "I" .interfaceKind).implementing "K",
    (Declaration.empty "J" .interfaceKind).implementing "K"]

/-- The search from `A`, with as many look-ups as the catalog allows. -/
def knotSearch : Except Fault NameSet × Watched Unit :=
  (interfaces knot.source.watched.lookup knot.reach "A" ⟨(), []⟩).value

/-- From `A` on, each of the five names is asked for once. -/
theorem search_asks_once_of_knot :
    ∃ asked set, Asks knot.lookup [] ["A"] .empty asked (.ok set) ∧
      asked = ["A", "B", "J", "K", "I"] ∧ set.names = ["I", "J", "K"] ∧
      asked.length ≤ 1 + {name | knot.Lists name}.ncard ∧
      knotSearch = (.ok set, ⟨(), asked.map Call.declaration⟩) := by
  obtain ⟨asked, set, hasks, -, -, hlength, hreach, hrun⟩ := knot.search_asks_once "A"
  have hvalue : knotSearch = (.ok set, ⟨(), asked.map Call.declaration⟩) :=
    hrun knot.reach hreach Unit ⟨(), []⟩
  have hcalls : knotSearch.2.calls = ["A", "B", "J", "K", "I"].map Call.declaration := by
    decide +kernel
  have hnames : knotSearch.1.map NameSet.names = .ok ["I", "J", "K"] := by decide +kernel
  rw [hvalue] at hcalls hnames
  have hasked : asked = ["A", "B", "J", "K", "I"] :=
    List.map_injective_iff.2 (fun _ _ h => Call.declaration.inj h) hcalls
  exact ⟨asked, set, hasks, hasked, Except.ok.inj hnames, hlength, hvalue⟩

end Catalog

end Interception
