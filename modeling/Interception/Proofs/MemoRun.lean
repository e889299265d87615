import Mathlib.Data.List.Dedup
import Mathlib.Data.List.Induction
import Interception.Proofs.MemoTransparency

/-!
# Asking for interfaces again and again

The interfaces of types are asked for one after the other, by names in any spelling.  What is
remembered is tied to the answers given so far.  Main statement: over a steady source, in every run of
calls that begins with nothing remembered, each answer is what a search finds that remembers nothing;
there are as many memories, and there were as many searches, as there are names that a set was found
for; such a name is never searched for again, and a name whose search failed always is.
-/

namespace Interception

open Name

variable {σ : Type} {source : Source σ} {lookup : String → Except Fault Declaration}

/-- What a search that remembers nothing finds of a type, whose name may have leading separators. -/
def Source.finds (source : Source σ) (lookup : String → Except Fault Declaration) (type : String) :
    Except Fault NameSet :=
  Closure.interfacesIn lookup (source.reach (normalize type)) (normalize type)

/-! ## What is remembered of the answers so far -/

/-- The names that a set was found for, as often as it was given. -/
def answered (history : List (String × Except Fault NameSet)) : List String :=
  (history.filter fun call => call.2.isOk).map Prod.fst

theorem mem_answered_iff {history : List (String × Except Fault NameSet)} {name : String} :
    name ∈ answered history ↔ ∃ set, (name, .ok set) ∈ history := by
  rw [answered, List.mem_map]
  constructor
  · rintro ⟨⟨other, answer⟩, hmem, rfl⟩
    obtain ⟨hmem, hok⟩ := List.mem_filter.1 hmem
    cases answer with
    | ok set => exact ⟨set, hmem⟩
    | error fault => cases hok
  · rintro ⟨set, hmem⟩
    exact ⟨(name, .ok set), List.mem_filter.2 ⟨hmem, rfl⟩, rfl⟩

namespace Memo

variable {memo : Memo} {history : List (String × Except Fault NameSet)} {name : String}

theorem mem_names_iff (memo : Memo) (name : String) :
    name ∈ memo.entries.map Prod.fst ↔ ∃ set, memo.find? name = some set := by
  rw [find?]
  induction memo.entries with
  | nil => simp
  | cons entry others ih =>
    rw [List.map_cons, List.mem_cons, ih, List.lookup_cons]
    by_cases hname : name = entry.1
    · simp [hname]
    · have hne : (name == entry.1) = false := by simpa using hname
      simp [hname, hne]

/-- The memo holds the sets that were answered, each once, and each was searched for once. -/
structure Records (memo : Memo) (history : List (String × Except Fault NameSet)) : Prop where
  known : ∀ name set, memo.find? name = some set ↔ (name, .ok set) ∈ history
  distinct : (memo.entries.map Prod.fst).Nodup
  lookups : memo.lookups = memo.size

theorem Records.empty : Memo.empty.Records [] where
  known _ _ := iff_of_false nofun List.not_mem_nil
  distinct := List.nodup_nil
  lookups := rfl

/-- There are as many memories as names that a set was found for. -/
theorem Records.size_eq (h : memo.Records history) : memo.size = (answered history).dedup.length := by
  have hperm : (memo.entries.map Prod.fst).Perm (answered history).dedup := by
    refine (List.perm_ext_iff_of_nodup h.distinct (List.nodup_dedup _)).2 fun name => ?_
    rw [List.mem_dedup, mem_answered_iff, mem_names_iff]
    exact exists_congr (h.known name)
  rw [size, ← hperm.length_eq, List.length_map]

/-- An answer from memory is nothing new. -/
theorem Records.again (h : memo.Records history) {set : NameSet} (hset : memo.find? name = some set) :
    memo.Records (history ++ [(name, .ok set)]) where
  known other found := by
    rw [h.known, List.mem_append, List.mem_singleton]
    refine ⟨.inl, ?_⟩
    rintro (hold | hnew)
    · exact hold
    · cases hnew
      exact (h.known name set).1 hset
  distinct := h.distinct
  lookups := h.lookups

/-- An answer from a search is remembered if it is a set. -/
theorem Records.learn (h : memo.Records history) (hnone : memo.find? name = none)
    (answer : Except Fault NameSet) :
    (memo.learn name answer).Records (history ++ [(name, answer)]) := by
  cases answer with
  | error fault =>
    refine ⟨fun other found => ?_, h.distinct, h.lookups⟩
    rw [Memo.learn, h.known, List.mem_append, List.mem_singleton]
    refine ⟨.inl, fun hmem => hmem.resolve_right fun hcall => ?_⟩
    -- the call answered no set
    cases hcall
  | ok set =>
    have hnew : ∀ found, (name, .ok found) ∉ history := by
      intro found hmem
      rw [← h.known, hnone] at hmem
      cases hmem
    refine ⟨fun other found => ?_, ?_, congrArg (· + 1) h.lookups⟩
    · rw [Memo.learn, find?_remember, List.mem_append, List.mem_singleton]
      by_cases hother : other = name
      · rw [if_pos hother, hother]
        simp [hnew, eq_comm]
      · rw [if_neg hother, h.known]
        simp [hother]
    · rw [Memo.learn, remember, List.map_cons, List.nodup_cons, mem_names_iff]
      refine ⟨?_, h.distinct⟩
      rintro ⟨found, hfound⟩
      rw [hnone] at hfound
      cases hfound

/-- Learning about a name of which nothing is known keeps what is known of the others. -/
theorem Knows.of_learn (hnone : memo.find? name = none) (answer : Except Fault NameSet) :
    (memo.learn name answer).Knows memo := by
  intro other set hset
  cases answer with
  | error fault => exact hset
  | ok found =>
    have hother : other ≠ name := by
      rintro rfl
      rw [hnone] at hset
      cases hset
    rwa [Memo.learn, find?_remember, if_neg hother]

end Memo

/-! ## What is asked of the source -/

/-- A search that may look up anything asks for the declaration of the type itself first. -/
theorem Closure.interfaces_asks_root (source : Source σ) (steps : Nat) (root : String)
    (watched : Watched σ) :
    ∃ names, (interfaces source.watched.lookup (steps + 1) root watched).value.2.calls =
      watched.calls ++ (root :: names).map Call.declaration := by
  rcases hfirst : (source.watched.lookup root watched).value with ⟨answer, after⟩
  have hcalls : after.calls = watched.calls ++ [.declaration root] := by
    have hafter := congrArg (fun done => done.2.calls) hfirst
    exact hafter.symm
  -- whatever the answer, nothing but declarations is asked for from there on
  have hrest : OnlyDeclarations after.calls
      (interfaces source.watched.lookup (steps + 1) root watched).value.2.calls := by
    rw [interfaces, visit]
    simp only [List.dropWhile_cons, List.contains_nil, Bool.false_eq_true, if_false]
    rw [Act.value_bind_of_eq hfirst]
    have hvisit := fun visited pending found =>
      visit_corresponds (asksSource Watched.calls) source.watched_asks root visited pending found
        steps after
    cases answer with
    | ok decl => exact hvisit _ _ _
    | error fault =>
      cases fault with
      | unknownType other => exact hvisit _ _ _
      | _ => exact .refl _
  obtain ⟨names, hnames⟩ := hrest
  exact ⟨names, by rw [hnames, hcalls]; simp⟩

namespace Session

/-- A search leaves the world as finding the interfaces leaves it. -/
theorem world_search (source : Source σ) (name : String) (session : Session σ) :
    (search source name session).value.2.world =
      (Closure.interfaces source.lookup (source.reach name) name session.world).value.2 := by
  rcases hfound : (Closure.interfaces source.lookup (source.reach name) name session.world).value with
    ⟨answer, world⟩
  rw [search, Act.value_bind_of_eq (outside_of_eq hfound)]
  cases answer <;> rfl

/-- A search asks the source, and if it may look up anything, then for the type itself first. -/
theorem search_asks_root (source : Source σ) (name : String) (session : Session (Watched σ)) :
    ∃ names : List String, (search source.watched name session).value.2.calls =
        session.calls ++ names.map Call.declaration ∧
      (0 < source.reach name → names.head? = some name) := by
  cases hreach : source.reach name with
  | zero =>
    obtain ⟨names, hnames⟩ := search_asks source name session
    exact ⟨names, hnames, fun hpos => absurd hpos (Nat.lt_irrefl 0)⟩
  | succ steps =>
    obtain ⟨names, hnames⟩ := Closure.interfaces_asks_root source steps name session.world
    have hworld := world_search source.watched name session
    rw [show source.watched.reach name = steps + 1 from hreach] at hworld
    exact ⟨name :: names, by rw [calls, hworld, hnames]; rfl, fun _ => rfl⟩

/-- A search teaches the memo what it finds. -/
theorem memo_search (h : source.Answers lookup) (name : String) (session : Session (Watched σ)) :
    (search source.watched name session).value.2.memo =
      session.memo.learn name (search source.watched name session).value.1 := by
  obtain ⟨hanswer, hplain⟩ := search_watched h name session
  obtain ⟨hmemo, -⟩ := Session.mk.inj hplain
  rw [hanswer]
  exact hmemo

/-! ## One call more -/

variable {history : List (String × Except Fault NameSet)} {session : Session (Watched σ)}

/-- What a call for a type comes to after the calls of `history`, by the name of the type. -/
structure Continues (source : Source σ) (history : List (String × Except Fault NameSet))
    (before : Session (Watched σ)) (name : String) (answer : Except Fault NameSet)
    (after : Session (Watched σ)) : Prop where
  /-- A name that a set was found for is answered from memory. -/
  known : name ∈ answered history → after = before
  /-- For any other name, known to the source or not, the source is asked once more. -/
  unknown : name ∉ answered history → ∃ names : List String,
    after.calls = before.calls ++ names.map Call.declaration ∧
      (0 < source.reach name → names.head? = some name)
  /-- A set is remembered beside what was remembered before. -/
  found : ∀ set, name ∉ answered history → answer = .ok set →
    after.memo.entries = (name, set) :: before.memo.entries ∧
      after.memo.lookups = before.memo.lookups + 1
  /-- A fault is not remembered, and does not count. -/
  failed : ∀ fault, answer = .error fault → after.memo = before.memo

/-- The answer to a call is what a search finds, and the memo goes on to hold what was answered. -/
theorem interfaces_records (h : source.Answers lookup) {types : List String}
    (hrecords : session.memo.Records (types.map fun type => (normalize type, source.finds lookup type)))
    (type : String) :
    let done := (interfaces source.watched type session).value
    done.1 = source.finds lookup type ∧ done.2.memo.Records
      ((types ++ [type]).map fun type => (normalize type, source.finds lookup type)) := by
  intro done
  rw [List.map_append, List.map_singleton]
  cases hfind : session.memo.find? (normalize type) with
  | some set =>
    have hdone : done = (.ok set, session) := congrArg Noted.value (interfaces_of_known hfind)
    -- what is remembered was found for another spelling of the name, or for the same
    obtain ⟨other, -, hother⟩ := List.mem_map.1 ((hrecords.known _ set).1 hfind)
    obtain ⟨hname, hfound⟩ := Prod.mk.inj hother
    have hset : source.finds lookup type = .ok set := by
      rw [← hfound, Source.finds, Source.finds, hname]
    rw [hdone, hset]
    exact ⟨rfl, hrecords.again hfind⟩
  | none =>
    have hdone : done = (search source.watched (normalize type) session).value :=
      congrArg Noted.value (interfaces_of_unknown hfind)
    have hanswer : done.1 = source.finds lookup type := by
      rw [hdone]
      exact (search_watched h (normalize type) session).1
    have hmemo : done.2.memo = session.memo.learn (normalize type) done.1 := by
      rw [hdone]
      exact memo_search h (normalize type) session
    rw [hmemo, hanswer]
    exact ⟨rfl, hrecords.learn hfind _⟩

theorem interfaces_continues (h : source.Answers lookup) (hrecords : session.memo.Records history)
    (type : String) :
    Continues source history session (normalize type) (interfaces source.watched type session).value.1
      (interfaces source.watched type session).value.2 := by
  cases hfind : session.memo.find? (normalize type) with
  | some set =>
    have hmem : normalize type ∈ answered history :=
      mem_answered_iff.2 ⟨set, (hrecords.known _ set).1 hfind⟩
    rw [interfaces_of_known hfind]
    exact ⟨fun _ => rfl, fun hnew => absurd hmem hnew, fun _ hnew => absurd hmem hnew, fun _ _ => rfl⟩
  | none =>
    have hnew : normalize type ∉ answered history := by
      intro hmem
      obtain ⟨set, hset⟩ := mem_answered_iff.1 hmem
      rw [← hrecords.known, hfind] at hset
      cases hset
    have hmemo := memo_search h (normalize type) session
    rw [interfaces_of_unknown hfind]
    refine ⟨fun hmem => absurd hmem hnew, fun _ => search_asks_root source _ session, ?_, ?_⟩
    · intro set _ hset
      rw [hmemo, hset]
      exact ⟨rfl, rfl⟩
    · intro fault hfault
      rw [hmemo, hfault]
      rfl

/-! ## Any number of calls -/

/-- One call more than a run of calls. -/
theorem value_mapM_concat {α β : Type} (act : α → Act σ β) (first : List α) (last : α) (world : σ) :
    ((first ++ [last]).mapM act world).value =
      let run := (first.mapM act world).value
      (run.1 ++ [(act last run.2).value.1], (act last run.2).value.2) := by
  rw [List.mapM_append, List.mapM_cons, List.mapM_nil]
  rfl

/-- In a run of calls each answer is what a search finds, and the memo holds what was answered. -/
theorem mapM_interfaces_records (h : source.Answers lookup) (types : List String) (world : σ) :
    let start : Session (Watched σ) := ⟨.empty, ⟨world, []⟩⟩
    let run := (types.mapM (interfaces source.watched) start).value
    run.1 = types.map (source.finds lookup) ∧
      run.2.memo.Records (types.map fun type => (normalize type, source.finds lookup type)) := by
  intro start run
  induction types using List.reverseRecOn with
  | nil => exact ⟨rfl, .empty⟩
  | append_singleton first last ih =>
    obtain ⟨hanswers, hrecords⟩ := ih
    obtain ⟨hanswer, hrecords'⟩ := interfaces_records h hrecords last
    have hrun : run = _ := value_mapM_concat (interfaces source.watched) first last start
    rw [hrun, List.map_append, ← hanswers, List.map_singleton, ← hanswer]
    exact ⟨rfl, hrecords'⟩

/-- The acts after which all is remembered that was remembered before. -/
def keepsMemories : Correspondence (StateT (Session σ) Noted) (StateT (Session σ) Noted) :=
  Correspondence.keeping (fun before after => after.memo.Knows before.memo) (fun _ _ _ => id)
    fun hab hbc name set hset => hbc name set (hab name set hset)

theorem interfaces_keepsMemories (h : source.Answers lookup) (type : String) :
    keepsMemories.holds (interfaces source.watched type) (interfaces source.watched type) := by
  intro session name set hset
  cases hfind : session.memo.find? (normalize type) with
  | some known =>
    rw [interfaces_of_known hfind]
    exact hset
  | none =>
    rw [interfaces_of_unknown hfind, memo_search h]
    exact Memo.Knows.of_learn hfind _ name set hset

/-- Over a steady source, watched or not, every call of a run answers what a search finds that
remembers nothing.  After any run there are as many memories, and there were as many searches that ended
well, as there are names that a set was found for; what is remembered stays so whatever else is asked;
and one call more asks the source exactly if its name is not one of these. -/
theorem mapM_interfaces_continues (h : source.Answers lookup) (types more : List String)
    (type : String) (world : σ) :
    let start : Session (Watched σ) := ⟨.empty, ⟨world, []⟩⟩
    let run := (types.mapM (interfaces source.watched) start).value
    let later := (more.mapM (interfaces source.watched) run.2).value
    let call := (interfaces source.watched type run.2).value
    let history := (types.map normalize).zip run.1
    (types.mapM (interfaces source) start.plain).value = (run.1, run.2.plain) ∧
      run.1 = types.map (source.finds lookup) ∧ call.1 = source.finds lookup type ∧
      run.2.memo.lookups = run.2.memo.size ∧ run.2.memo.size = (answered history).dedup.length ∧
      (∀ name set, run.2.memo.find? name = some set ↔ (name, .ok set) ∈ history) ∧
      (∀ name set, run.2.memo.find? name = some set → later.2.memo.find? name = some set) ∧
      Continues source history run.2 (normalize type) call.1 call.2 := by
  intro start run later call history
  obtain ⟨hanswers, hrecords⟩ := mapM_interfaces_records h types world
  have hhistory : history = types.map fun type => (normalize type, source.finds lookup type) := by
    have hzip : history = (types.map normalize).zip (types.map (source.finds lookup)) :=
      congrArg _ hanswers
    rw [hzip, List.zip_map']
  rw [← hhistory] at hrecords
  have hseen := (Correspondence.seen Session.plain).mapM (interfaces_seen source) types start
  have hkeeps := keepsMemories.mapM (interfaces_keepsMemories h) more run.2
  refine ⟨(congrArg Noted.value hseen).symm, hanswers, ?_, hrecords.lookups, hrecords.size_eq,
    hrecords.known, hkeeps, interfaces_continues h hrecords type⟩
  rw [hhistory] at hrecords
  exact (interfaces_records h hrecords type).1

/-- The type `A` has an interface, `B` cannot be read, and no other type is declared. -/
def patchyTypes (name : String) : Except Fault Declaration :=
  if name = "A" then .ok ((Declaration.empty "A" .classKind).implementing "I")
  else if name = "B" then .error (.unresolved "B" "offline")
  else .error (.unknownType name)

/-- The source of these types. -/
def patchySource : Source Unit := ⟨fun name => pure (patchyTypes name), fun _ => 2⟩

/-- `A` and `C` are searched for once, whether they are declared or not, and `B` time and again. -/
theorem mapM_interfaces_continues_of_patchyTypes :
    let start : Session (Watched Unit) := ⟨.empty, ⟨(), []⟩⟩
    let types := ["A", "B", "\\A", "C"]
    let run := (types.mapM (interfaces patchySource.watched) start).value
    let call := (interfaces patchySource.watched "B" run.2).value
    let history := (types.map normalize).zip run.1
    patchySource.Answers patchyTypes ∧ answered history = ["A", "A", "C"] ∧
      run.2.calls = ["A", "I", "B", "C"].map Call.declaration ∧
      call.2.calls = run.2.calls ++ [.declaration "B"] ∧
      run.1 = types.map (patchySource.finds patchyTypes) ∧
      run.2.memo.lookups = run.2.memo.size ∧ run.2.memo.size = (answered history).dedup.length ∧
      Continues patchySource history run.2 (normalize "B") call.1 call.2 := by
  intro start types run call history
  have hsource : patchySource.Answers patchyTypes := fun _ _ => rfl
  have hanswered : answered history = ["A", "A", "C"] := by decide +kernel
  have hcalls : run.2.calls = ["A", "I", "B", "C"].map Call.declaration := by decide +kernel
  have hasked : call.2.calls = run.2.calls ++ [.declaration "B"] := by decide +kernel
  obtain ⟨-, hanswers, -, hlookups, hsize, -, -, hcontinues⟩ :=
    mapM_interfaces_continues hsource types [] "B" ()
  exact ⟨hsource, hanswered, hcalls, hasked, hanswers, hlookups, hsize, hcontinues⟩

end Session

end Interception
