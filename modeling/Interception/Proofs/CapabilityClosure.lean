import Mathlib.Data.Multiset.Basic
import Mathlib.Data.Set.Card
import Interception.Proofs.SteadySource

/-!
# The interfaces that a type can reach

What a type implements is told by the types that can be reached from it over parents and interfaces.
The search visits them one by one, and so does a search that takes whatever is pending in any order.
Main statements: no matter in which order, a search gives up exactly when some type that can be reached
fails for another reason than being unknown, and otherwise finds exactly the interfaces that are listed
by the types that can be reached; and the search comes to its end if there are only finitely many.
-/

namespace Interception.Closure

variable {lookup : String → Except Fault Declaration} {root : String}

/-- The types that can be reached from `root` over the parents and the interfaces of known types. -/
inductive Reaches (lookup : String → Except Fault Declaration) (root : String) : String → Prop where
  | root : Reaches lookup root root
  | lead {name next : String} {decl : Declaration} (hname : Reaches lookup root name)
      (hdecl : lookup name = .ok decl) (hnext : decl.parent = some next ∨ next ∈ decl.interfaces) :
      Reaches lookup root next

/-- The look-up fails for another reason than that nobody declares the type. -/
def Fails (lookup : String → Except Fault Declaration) (name : String) (fault : Fault) : Prop :=
  lookup name = .error fault ∧ ∀ other, fault ≠ .unknownType other

/-- An interface that some type which can be reached lists. -/
def Listed (lookup : String → Except Fault Declaration) (root interface : String) : Prop :=
  ∃ name decl, Reaches lookup root name ∧ lookup name = .ok decl ∧ interface ∈ decl.interfaces

/-- A search with so many types visited and so many pending, of which it takes any one next, may end
with this outcome. -/
inductive Explores (lookup : String → Except Fault Declaration) :
    List String → Multiset String → NameSet → Except Fault NameSet → Prop where
  | finished {visited : List String} {found : NameSet} : Explores lookup visited 0 found (.ok found)
  /-- Nothing is visited twice. -/
  | again {visited : List String} {pending : Multiset String} {found : NameSet}
      {outcome : Except Fault NameSet} {name : String} (hvisited : name ∈ visited)
      (hrest : Explores lookup visited pending found outcome) :
      Explores lookup visited (name ::ₘ pending) found outcome
  /-- A known type has its interfaces found and leads further. -/
  | known {visited : List String} {pending : Multiset String} {found : NameSet}
      {outcome : Except Fault NameSet} {name : String} {decl : Declaration} (hnew : name ∉ visited)
      (hdecl : lookup name = .ok decl)
      (hrest : Explores lookup (name :: visited) (↑(leads decl) + pending)
        (found.insertAll decl.interfaces) outcome) :
      Explores lookup visited (name ::ₘ pending) found outcome
  /-- A type that nobody declares leads nowhere. -/
  | unknown {visited : List String} {pending : Multiset String} {found : NameSet}
      {outcome : Except Fault NameSet} {name other : String} (hnew : name ∉ visited)
      (hnone : lookup name = .error (.unknownType other))
      (hrest : Explores lookup (name :: visited) pending found outcome) :
      Explores lookup visited (name ::ₘ pending) found outcome
  /-- Any other fault ends the search. -/
  | failing {visited : List String} {pending : Multiset String} {found : NameSet} {name : String}
      {fault : Fault} (hnew : name ∉ visited) (hfails : Fails lookup name fault) :
      Explores lookup visited (name ::ₘ pending) found (.error fault)

@[simp] theorem mem_leads {decl : Declaration} {next : String} :
    next ∈ leads decl ↔ decl.parent = some next ∨ next ∈ decl.interfaces := by
  simp [leads]

/-! ## What a search knows on its way -/

/-- What has been visited and what is pending are types that can be reached; all else that can be
reached lies behind what is pending; and what has been found is what visited types list. -/
structure Covers (lookup : String → Except Fault Declaration) (root : String)
    (visited : List String) (pending : Multiset String) (found : NameSet) : Prop where
  begins : root ∈ visited ∨ root ∈ pending
  reached : ∀ name, name ∈ visited ∨ name ∈ pending → Reaches lookup root name
  onward : ∀ name ∈ visited, ∀ decl, lookup name = .ok decl → ∀ next ∈ leads decl,
    next ∈ visited ∨ next ∈ pending
  succeeds : ∀ name ∈ visited, ∀ fault, ¬Fails lookup name fault
  listed : ∀ interface, interface ∈ found ↔
    ∃ name ∈ visited, ∃ decl, lookup name = .ok decl ∧ interface ∈ decl.interfaces

namespace Covers

variable {visited : List String} {pending : Multiset String} {found : NameSet} {name : String}

theorem start (lookup : String → Except Fault Declaration) (root : String) :
    Covers lookup root [] {root} .empty where
  begins := .inr (Multiset.mem_singleton_self root)
  reached := by
    rintro name (hvisited | hpending)
    · exact absurd hvisited List.not_mem_nil
    · rw [Multiset.mem_singleton.1 hpending]
      exact .root
  onward name hvisited := absurd hvisited List.not_mem_nil
  succeeds name hvisited := absurd hvisited List.not_mem_nil
  listed interface := by simp

/-- What has been visited needs not be pending. -/
theorem again (h : Covers lookup root visited (name ::ₘ pending) found) (hvisited : name ∈ visited) :
    Covers lookup root visited pending found := by
  have hkeep : ∀ other, other ∈ visited ∨ other ∈ name ::ₘ pending →
      other ∈ visited ∨ other ∈ pending := by
    rintro other (hother | hother)
    · exact .inl hother
    · rcases Multiset.mem_cons.1 hother with rfl | hother
      · exact .inl hvisited
      · exact .inr hother
  refine ⟨hkeep root h.begins, ?_, ?_, h.succeeds, h.listed⟩
  · intro other hother
    exact h.reached other (hother.imp_right Multiset.mem_cons_of_mem)
  · intro other hother decl hdecl next hnext
    exact hkeep next (h.onward other hother decl hdecl next hnext)

/-- A visit to a type: nothing of what is behind it is lost, and its interfaces are found. -/
theorem visit (h : Covers lookup root visited (name ::ₘ pending) found) {more : Multiset String}
    {found' : NameSet} (hsucceeds : ∀ fault, ¬Fails lookup name fault)
    (hmore : ∀ next, next ∈ more ↔ ∃ decl, lookup name = .ok decl ∧ next ∈ Closure.leads decl)
    (hfound : ∀ interface, interface ∈ found' ↔
      interface ∈ found ∨ ∃ decl, lookup name = .ok decl ∧ interface ∈ decl.interfaces) :
    Covers lookup root (name :: visited) (more + pending) found' := by
  have hname : Reaches lookup root name := h.reached name (.inr (Multiset.mem_cons_self _ _))
  have hkeep : ∀ other, other ∈ visited ∨ other ∈ name ::ₘ pending →
      other ∈ name :: visited ∨ other ∈ more + pending := by
    rintro other (hother | hother)
    · exact .inl (List.mem_cons_of_mem name hother)
    · rcases Multiset.mem_cons.1 hother with rfl | hother
      · exact .inl List.mem_cons_self
      · exact .inr (Multiset.mem_add.2 (.inr hother))
  refine ⟨hkeep root h.begins, ?_, ?_, ?_, ?_⟩
  · rintro other (hother | hother)
    · rcases List.mem_cons.1 hother with rfl | hother
      · exact hname
      · exact h.reached other (.inl hother)
    · rcases Multiset.mem_add.1 hother with hother | hother
      · obtain ⟨decl, hdecl, hlead⟩ := (hmore other).1 hother
        exact .lead hname hdecl (mem_leads.1 hlead)
      · exact h.reached other (.inr (Multiset.mem_cons_of_mem hother))
  · intro other hother decl hdecl next hnext
    rcases List.mem_cons.1 hother with rfl | hother
    · exact .inr (Multiset.mem_add.2 (.inl ((hmore next).2 ⟨decl, hdecl, hnext⟩)))
    · exact hkeep next (h.onward other hother decl hdecl next hnext)
  · intro other hother
    rcases List.mem_cons.1 hother with rfl | hother
    · exact hsucceeds
    · exact h.succeeds other hother
  · intro interface
    rw [hfound interface, h.listed interface, List.exists_mem_cons_iff]
    exact or_comm

theorem known (h : Covers lookup root visited (name ::ₘ pending) found) {decl : Declaration}
    (hdecl : lookup name = .ok decl) : Covers lookup root (name :: visited)
      (↑(Closure.leads decl) + pending) (found.insertAll decl.interfaces) := by
  refine h.visit ?_ ?_ ?_
  · rintro fault ⟨hfault, -⟩
    rw [hdecl] at hfault
    cases hfault
  · intro next
    simp [hdecl]
  · intro interface
    rw [NameSet.mem_insertAll, or_comm]
    simp [hdecl]

theorem unknown (h : Covers lookup root visited (name ::ₘ pending) found) {other : String}
    (hnone : lookup name = .error (.unknownType other)) :
    Covers lookup root (name :: visited) pending found := by
  have hvisit : Covers lookup root (name :: visited) (0 + pending) found := by
    refine h.visit ?_ ?_ ?_
    · rintro fault ⟨hfault, hother⟩
      rw [hnone] at hfault
      exact hother other (Except.error.inj hfault).symm
    · intro next
      simp [hnone]
    · intro interface
      simp [hnone]
  rwa [zero_add] at hvisit

/-- When nothing is pending, everything that can be reached has been visited. -/
theorem visited_of_reaches (h : Covers lookup root visited 0 found) (hname : Reaches lookup root name) :
    name ∈ visited := by
  have hnone : ∀ other, other ∈ visited ∨ other ∈ (0 : Multiset String) → other ∈ visited :=
    fun other hother => hother.resolve_right (Multiset.notMem_zero other)
  induction hname with
  | root => exact hnone root h.begins
  | lead _ hdecl hnext ih => exact hnone _ (h.onward _ ih _ hdecl _ (mem_leads.2 hnext))

end Covers

/-! ## Outcomes -/

/-- The outcome is the one that the types which can be reached ask for. -/
def Fits (lookup : String → Except Fault Declaration) (root : String) :
    Except Fault NameSet → Prop
  | .ok set => (∀ name, Reaches lookup root name → ∀ fault, ¬Fails lookup name fault) ∧
      ∀ interface, interface ∈ set ↔ Listed lookup root interface
  | .error fault => ∃ name, Reaches lookup root name ∧ Fails lookup name fault

/-- In whichever order a search goes on, its outcome fits. -/
theorem Explores.fits {visited : List String} {pending : Multiset String} {found : NameSet}
    {outcome : Except Fault NameSet} (h : Explores lookup visited pending found outcome)
    (hcovers : Covers lookup root visited pending found) : Fits lookup root outcome := by
  induction h with
  | finished =>
    refine ⟨fun name hname => hcovers.succeeds name (hcovers.visited_of_reaches hname), ?_⟩
    intro interface
    rw [hcovers.listed interface]
    constructor
    · rintro ⟨name, hname, decl, hdecl, hmem⟩
      exact ⟨name, decl, hcovers.reached name (.inl hname), hdecl, hmem⟩
    · rintro ⟨name, decl, hname, hdecl, hmem⟩
      exact ⟨name, hcovers.visited_of_reaches hname, decl, hdecl, hmem⟩
  | again hvisited _ ih => exact ih (hcovers.again hvisited)
  | known _ hdecl _ ih => exact ih (hcovers.known hdecl)
  | unknown _ hnone _ ih => exact ih (hcovers.unknown hnone)
  | failing _ hfails =>
    exact ⟨_, hcovers.reached _ (.inr (Multiset.mem_cons_self _ _)), hfails⟩

/-- Outcomes that fit agree on whether there is a set and on the set. -/
theorem Fits.ok_iff {first second : Except Fault NameSet} (hfirst : Fits lookup root first)
    (hsecond : Fits lookup root second) (set : NameSet) : first = .ok set ↔ second = .ok set := by
  have hone : ∀ {first second : Except Fault NameSet}, Fits lookup root first →
      Fits lookup root second → first = .ok set → second = .ok set := by
    rintro first second hfirst hsecond rfl
    cases second with
    | error fault =>
      obtain ⟨name, hname, hfails⟩ := hsecond
      exact absurd hfails (hfirst.1 name hname fault)
    | ok other =>
      have heq : other = set := NameSet.eq_of_mem_iff fun interface =>
        (hsecond.2 interface).trans (hfirst.2 interface).symm
      rw [heq]
  exact ⟨hone hfirst hsecond, hone hsecond hfirst⟩

/-! ## The search is one of these, and ends -/

/-- What has been visited may be dropped from what is pending. -/
theorem Explores.of_dropWhile {visited pending : List String} {found : NameSet}
    {outcome : Except Fault NameSet}
    (h : Explores lookup visited ↑(pending.dropWhile visited.contains) found outcome) :
    Explores lookup visited ↑pending found outcome := by
  induction pending with
  | nil => exact h
  | cons name others ih =>
    rw [List.dropWhile_cons] at h
    by_cases hvisited : visited.contains name = true
    · rw [if_pos hvisited] at h
      exact .again (List.contains_iff_mem.1 hvisited) (ih h)
    · rwa [if_neg hvisited] at h

theorem Covers.dropWhile {visited pending : List String} {found : NameSet}
    (h : Covers lookup root visited ↑pending found) :
    Covers lookup root visited ↑(pending.dropWhile visited.contains) found := by
  induction pending with
  | nil => exact h
  | cons name others ih =>
    rw [List.dropWhile_cons]
    by_cases hvisited : visited.contains name = true
    · rw [if_pos hvisited]
      exact ih (h.again (List.contains_iff_mem.1 hvisited))
    · rwa [if_neg hvisited]

/-- The first that is left has not been visited. -/
theorem not_mem_of_dropWhile {visited pending others : List String} {name : String}
    (h : pending.dropWhile visited.contains = name :: others) : name ∉ visited := by
  have hhead := List.head?_dropWhile_not visited.contains pending
  rw [h] at hhead
  simpa using hhead

/-- A visit leaves one name fewer to be visited. -/
theorem card_unvisited {names : Finset String} {visited : List String} {name : String}
    (hname : name ∈ names) (hnew : name ∉ visited) :
    (names.filter (· ∉ name :: visited)).card < (names.filter (· ∉ visited)).card := by
  have hmem : name ∈ names.filter (· ∉ visited) := Finset.mem_filter.2 ⟨hname, hnew⟩
  have herase : names.filter (· ∉ name :: visited) = (names.filter (· ∉ visited)).erase name := by
    ext other
    simp only [Finset.mem_filter, Finset.mem_erase, List.mem_cons, not_or]
    exact and_left_comm
  rw [herase]
  exact Finset.card_erase_lt_of_mem hmem

/-- With a step for every type that can be reached and has not been visited, the search ends, and it
is one of the searches that may take any type next. -/
theorem visit_explores (names : Finset String) (hnames : ∀ name, Reaches lookup root name → name ∈ names)
    (steps : Nat) {visited pending : List String} {found : NameSet}
    (hcovers : Covers lookup root visited ↑pending found)
    (hsteps : (names.filter (· ∉ visited)).card ≤ steps) :
    Explores lookup visited ↑pending found
      (Id.run (visit (Ancestry.quiet lookup) root visited pending found steps)) := by
  induction steps generalizing visited pending found with
  | zero =>
    rw [visit]
    refine Explores.of_dropWhile ?_
    cases hpending : pending.dropWhile visited.contains with
    | nil => exact .finished
    | cons name others =>
      -- a type is left, but no step for it
      have hleft := hcovers.dropWhile
      rw [hpending] at hleft
      have hname := hnames name (hleft.reached name (.inr (Multiset.mem_cons_self name ↑others)))
      have hcard := card_unvisited hname (not_mem_of_dropWhile hpending)
      omega
  | succ steps ih =>
    rw [visit]
    refine Explores.of_dropWhile ?_
    cases hpending : pending.dropWhile visited.contains with
    | nil => exact .finished
    | cons name others =>
      have hleft := hcovers.dropWhile
      rw [hpending, ← Multiset.cons_coe] at hleft
      have hnew := not_mem_of_dropWhile hpending
      have hname := hnames name (hleft.reached name (.inr (Multiset.mem_cons_self name ↑others)))
      have hcard := card_unvisited hname hnew
      have hfewer : (names.filter (· ∉ name :: visited)).card ≤ steps := by omega
      rw [← Multiset.cons_coe]
      simp only [Id.run_bind, Ancestry.run_quiet]
      cases hdecl : lookup name with
      | ok decl => exact .known hnew hdecl (ih (hleft.known hdecl) hfewer)
      | error fault =>
        cases fault with
        | unknownType other => exact .unknown hnew hdecl (ih (hleft.unknown hdecl) hfewer)
        | _ =>
          refine .failing hnew ⟨hdecl, ?_⟩
          intro other hother
          cases hother

/-! ## The search over a source -/

/-- Names that nothing leads out of hold all that can be reached from one of them. -/
theorem Reaches.mem_of_closed {names : List String} (hroot : root ∈ names)
    (hclosed : ∀ name ∈ names, ∀ decl, lookup name = .ok decl → ∀ next ∈ leads decl, next ∈ names)
    {name : String} (h : Reaches lookup root name) : name ∈ names := by
  induction h with
  | root => exact hroot
  | lead _ hdecl hnext ih => exact hclosed _ ih _ hdecl _ (mem_leads.2 hnext)

/-- From a type that nobody declares nothing else can be reached. -/
theorem Reaches.eq_root {other name : String} (hroot : lookup root = .error (.unknownType other))
    (h : Reaches lookup root name) : name = root := by
  have hclosed : ∀ known ∈ [root], ∀ decl, lookup known = .ok decl →
      ∀ next ∈ leads decl, next ∈ [root] := by
    intro known hknown decl hdecl
    rw [List.mem_singleton.1 hknown, hroot] at hdecl
    cases hdecl
  exact List.mem_singleton.1 (h.mem_of_closed (List.mem_singleton_self root) hclosed)

theorem Fits.eq_empty {outcome : Except Fault NameSet} (h : Fits lookup root outcome) {other : String}
    (hroot : lookup root = .error (.unknownType other)) : outcome = .ok .empty := by
  cases outcome with
  | error fault =>
    obtain ⟨name, hname, hfault, hother⟩ := h
    rw [hname.eq_root hroot, hroot] at hfault
    exact absurd (Except.error.inj hfault).symm (hother other)
  | ok set =>
    have hempty : set = .empty := by
      refine NameSet.eq_of_mem_iff fun interface => ?_
      rw [h.2 interface]
      refine iff_of_false ?_ (NameSet.not_mem_empty interface)
      rintro ⟨name, decl, hname, hdecl, -⟩
      rw [hname.eq_root hroot, hroot] at hdecl
      cases hdecl
    rw [hempty]

/-- Where only finitely many types can be reached from `root`, and the search may look up so many, it
ends with a set exactly when none of them fails for another reason than being unknown.  The set has
the interfaces that they list, and any other order of visits leads to the same set. -/
theorem interfaces_eq_ok_iff {σ : Type} {source : Source σ} (hsource : source.Answers lookup)
    (hfinite : {name | Reaches lookup root name}.Finite) {bound : Nat}
    (hbound : {name | Reaches lookup root name}.ncard ≤ bound) (world : σ) :
    ∃ outcome, (interfaces source.lookup bound root world).value = (outcome, world) ∧
      ((∃ set, outcome = .ok set) ↔
        ∀ name, Reaches lookup root name → ∀ fault, ¬Fails lookup name fault) ∧
      (∀ set, outcome = .ok set → ∀ interface, interface ∈ set ↔ Listed lookup root interface) ∧
      (∀ fault, outcome = .error fault → ∃ name, Reaches lookup root name ∧ Fails lookup name fault) ∧
      (∀ other, lookup root = .error (.unknownType other) → outcome = .ok .empty) ∧
      Explores lookup [] {root} .empty outcome ∧
      ∀ another, Explores lookup [] {root} .empty another →
        ∀ set, another = .ok set ↔ outcome = .ok set := by
  have hnames : ∀ name, Reaches lookup root name → name ∈ hfinite.toFinset :=
    fun name hname => hfinite.mem_toFinset.2 hname
  have hsteps : (hfinite.toFinset.filter (· ∉ ([] : List String))).card ≤ bound := by
    rw [Set.ncard_eq_toFinset_card _ hfinite] at hbound
    exact (Finset.card_filter_le _ _).trans hbound
  have hexplores : Explores lookup [] {root} .empty (interfacesIn lookup bound root) :=
    visit_explores hfinite.toFinset hnames bound (.start lookup root) hsteps
  have hfits := hexplores.fits (.start lookup root)
  refine ⟨interfacesIn lookup bound root, hsource.interfaces bound root world, ?_, ?_, ?_, ?_,
    hexplores, ?_⟩
  · constructor
    · rintro ⟨set, hset⟩
      rw [hset] at hfits
      exact hfits.1
    · intro hsucceeds
      cases houtcome : interfacesIn lookup bound root with
      | ok set => exact ⟨set, rfl⟩
      | error fault =>
        rw [houtcome] at hfits
        obtain ⟨name, hname, hfails⟩ := hfits
        exact absurd hfails (hsucceeds name hname fault)
  · intro set hset
    rw [hset] at hfits
    exact hfits.2
  · intro fault hfault
    rw [hfault] at hfits
    exact hfits
  · intro other hroot
    exact hfits.eq_empty hroot
  · intro another hanother
    exact (hanother.fits (.start lookup root)).ok_iff hfits

/-- The class `A` and its parent `B` extend each other, and the interface `I` of one extends the
interface `J` of the other, which nobody declares. -/
def ringFamily (name : String) : Except Fault Declaration :=
  if name = "A" then .ok (((Declaration.empty "A" .classKind).extending "B").implementing "I")
  else if name = "B" then .ok (((Declaration.empty "B" .classKind).extending "A").implementing "J")
  else if name = "I" then .ok ((Declaration.empty "I" .interfaceKind).implementing "J")
  else .error (.unknownType name)

/-- The source of that family. -/
def ringSource : Source Unit := ⟨fun name => pure (ringFamily name), fun _ => 4⟩

/-- `A` implements `I` and `J`, in whichever order they are met. -/
theorem interfaces_of_ringFamily :
    ringSource.Answers ringFamily ∧ {name | Reaches ringFamily "A" name}.Finite ∧
      {name | Reaches ringFamily "A" name}.ncard ≤ 4 ∧
      ∃ outcome, (interfaces ringSource.lookup 4 "A" ()).value = (outcome, ()) ∧
        (∃ set, outcome = .ok set ∧ set.names = ["I", "J"]) ∧
        (∀ set, outcome = .ok set → ∀ interface, interface ∈ set ↔ Listed ringFamily "A" interface) ∧
        ∀ another, Explores ringFamily [] {"A"} .empty another →
          ∀ set, another = .ok set ↔ outcome = .ok set := by
  have hsource : ringSource.Answers ringFamily := fun _ _ => rfl
  have hall : ∀ name ∈ ["A", "B", "I", "J"], ((ringFamily name).toOption.all fun decl =>
      (leads decl).all ["A", "B", "I", "J"].contains) = true := by decide +kernel
  have hclosed : ∀ name ∈ ["A", "B", "I", "J"], ∀ decl, ringFamily name = .ok decl →
      ∀ next ∈ leads decl, next ∈ ["A", "B", "I", "J"] := by
    intro name hname decl hdecl next hnext
    have hleads := hall name hname
    rw [hdecl] at hleads
    exact List.contains_iff_mem.1 (List.all_eq_true.1 hleads next hnext)
  have hsubset : {name | Reaches ringFamily "A" name} ⊆ ({"A", "B", "I", "J"} : Finset String) := by
    intro name hname
    simpa using hname.mem_of_closed List.mem_cons_self hclosed
  have hfinite := (Finset.finite_toSet _).subset hsubset
  have hbound : {name | Reaches ringFamily "A" name}.ncard ≤ 4 := by
    refine (Set.ncard_le_ncard hsubset (Finset.finite_toSet _)).trans ?_
    rw [Set.ncard_coe_finset]
    decide
  obtain ⟨outcome, hvalue, -, hlisted, -, -, -, horder⟩ :=
    interfaces_eq_ok_iff hsource hfinite hbound ()
  refine ⟨hsource, hfinite, hbound, outcome, hvalue, ?_, hlisted, horder⟩
  have hnames : (interfaces ringSource.lookup 4 "A" ()).value.1.map NameSet.names =
      .ok ["I", "J"] := by decide +kernel
  rw [hvalue] at hnames
  cases outcome with
  | error fault => cases hnames
  | ok set => exact ⟨set, rfl, Except.ok.inj hnames⟩

end Interception.Closure
