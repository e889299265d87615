import Interception.Proofs.MemoRun
import Interception.Proofs.NormalDeclarations
import Interception.Settings.Codec

/-!
# How the marker is spelled

The gate looks for its marker among the interfaces of a type.  Over a source of normal declarations
none of these starts with a separator, so a marker that does is never found.  Main statement: a marker
that is chosen with separators before it is the marker without them, but one that is read from data
with separators before it has nothing validated; requests are answered as with the marker without them
if that marker has nothing validated either, and else they are not.
-/

namespace Interception

open Name

variable {σ : Type}

/-! ## Normal sources -/

/-- Whatever declaration the source hands out has normalized names. -/
def Source.Normal (source : Source σ) : Prop :=
  ∀ name world decl, (source.lookup name world).value.1 = .ok decl → decl.Normal

/-- No name in the set starts with a separator. -/
def NameSet.Normal (set : NameSet) : Prop := ∀ name ∈ set, name.toList.head? ≠ some separator

/-- No name that is remembered for a type starts with a separator. -/
def Memo.Normal (memo : Memo) : Prop := ∀ name set, memo.find? name = some set → set.Normal

theorem Source.Normal.watched {source : Source σ} (h : source.Normal) : source.watched.Normal :=
  fun name watched => h name watched.world

theorem NameSet.Normal.insertAll {set : NameSet} (h : set.Normal) {names : List String}
    (hnames : ∀ name ∈ names, name.toList.head? ≠ some separator) : (set.insertAll names).Normal := by
  intro name hname
  rcases NameSet.mem_insertAll.1 hname with hnew | hold
  · exact hnames name hnew
  · exact h name hold

theorem Memo.Normal.remember {memo : Memo} (h : memo.Normal) (name : String) {set : NameSet}
    (hset : set.Normal) : (memo.remember name set).Normal := by
  intro other found hfound
  rw [find?_remember] at hfound
  by_cases hother : other = name
  · rw [if_pos hother, Option.some.injEq] at hfound
    exact hfound ▸ hset
  · rw [if_neg hother] at hfound
    exact h other found hfound

theorem Closure.normal_of_visit {source : Source σ} (hsource : source.Normal) {root : String}
    {visited pending : List String} {found : NameSet} {steps : Nat} {world : σ} {set : NameSet}
    (hfound : found.Normal)
    (hset : (visit source.lookup root visited pending found steps world).value.1 = .ok set) :
    set.Normal := by
  induction steps generalizing visited pending found world with
  | zero =>
    cases hpending : pending.dropWhile visited.contains with
    | nil =>
      rw [visit, hpending] at hset
      exact Except.ok.inj hset ▸ hfound
    | cons name others =>
      rw [visit, hpending] at hset
      cases hset
  | succ steps ih =>
    cases hpending : pending.dropWhile visited.contains with
    | nil =>
      rw [visit, hpending] at hset
      exact Except.ok.inj hset ▸ hfound
    | cons name others =>
      rcases hanswer : (source.lookup name world).value with ⟨answer, after⟩
      rw [visit, hpending] at hset
      dsimp only at hset
      rw [Act.value_bind_of_eq hanswer] at hset
      cases answer with
      | ok decl =>
        -- only the interfaces that the declaration lists are added
        have hdecl : decl.Normal := hsource name world decl (by rw [hanswer])
        exact ih (hfound.insertAll hdecl.interfaces) hset
      | error fault =>
        cases fault with
        | unknownType => exact ih hfound hset
        | _ => cases hset

namespace Session

theorem normal_of_search {source : Source σ} (hsource : source.Normal) {name : String}
    {before after : Session σ} {answer : Except Fault NameSet} (hmemo : before.memo.Normal)
    (hsearch : (search source name before).value = (answer, after)) :
    after.memo.Normal ∧ ∀ set, answer = .ok set → set.Normal := by
  rcases hfound : (Closure.interfaces source.lookup (source.reach name) name before.world).value with
    ⟨found, world⟩
  rw [search, Act.value_bind_of_eq (outside_of_eq hfound)] at hsearch
  cases found with
  | error fault =>
    obtain ⟨rfl, rfl⟩ := Prod.mk.inj hsearch
    exact ⟨hmemo, fun set hset => by cases hset⟩
  | ok set =>
    have hset : set.Normal := Closure.normal_of_visit hsource
      (fun name hname => absurd hname (NameSet.not_mem_empty name)) (congrArg Prod.fst hfound)
    obtain ⟨rfl, rfl⟩ := Prod.mk.inj hsearch
    exact ⟨hmemo.remember name hset, fun other hother => Except.ok.inj hother ▸ hset⟩

/-- Interfaces that are found or remembered start with no separator. -/
theorem normal_of_interfaces {source : Source σ} (hsource : source.Normal) {type : String}
    {before after : Session σ} {answer : Except Fault NameSet} (hmemo : before.memo.Normal)
    (hinterfaces : (interfaces source type before).value = (answer, after)) :
    after.memo.Normal ∧ ∀ set, answer = .ok set → set.Normal := by
  cases hknown : before.memo.find? (normalize type) with
  | some set =>
    rw [interfaces_of_known hknown] at hinterfaces
    obtain ⟨rfl, rfl⟩ := Prod.mk.inj hinterfaces
    exact ⟨hmemo, fun other hother => Except.ok.inj hother ▸ hmemo _ set hknown⟩
  | none =>
    rw [interfaces_of_unknown hknown] at hinterfaces
    exact normal_of_search hsource hmemo hinterfaces

end Session

/-! ## What is validated -/

/-- Whether the call has to do with an instance that validates itself. -/
def Call.isValidation : Call → Bool
  | .resolve _ | .validate _ => true
  | _ => false

/-- The calls by which types are validated, in order. -/
def validations (calls : List Call) : List Call := calls.filter Call.isValidation

theorem OnlyDeclarations.validations_eq {before after : List Call}
    (h : OnlyDeclarations before after) : validations after = validations before := by
  obtain ⟨names, rfl⟩ := h
  simp [validations, Call.isValidation]

namespace Gate

/-- The gate with other settings. -/
def under (gate : Gate σ) (settings : GateSettings) : Gate σ := { gate with settings := settings }

/-- What lies between two sessions of a gate, of which `quiet` says that another gate does the same:
nothing is remembered that starts with a separator; `quiet` holds if nothing was validated; and nothing
was if the gate is `blind`. -/
structure Leaves (blind quiet : Prop) (before after : Session (Watched σ)) : Prop where
  memo : after.memo.Normal
  calls : ∃ more, validations after.calls = validations before.calls ++ more ∧
    (more = [] → quiet) ∧ (blind → more = [])

namespace Leaves

variable {blind quiet quiet' : Prop} {before between after : Session (Watched σ)}

/-- Nothing is validated. -/
theorem unasked (hmemo : after.memo.Normal)
    (hcalls : validations after.calls = validations before.calls) (h : quiet) :
    Leaves blind quiet before after where
  memo := hmemo
  calls := ⟨[], by rw [hcalls, List.append_nil], fun _ => h, fun _ => rfl⟩

/-- A type is validated, which a blind gate does not come to. -/
theorem asked (hmemo : after.memo.Normal) {more : List Call} (hne : more ≠ [])
    (hcalls : validations after.calls = validations before.calls ++ more) (h : ¬blind) :
    Leaves blind quiet before after where
  memo := hmemo
  calls := ⟨more, hcalls, fun hnil => absurd hnil hne, fun hblind => absurd hblind h⟩

/-- One after the other. -/
theorem trans {joint : Prop} (hfirst : Leaves blind quiet before between)
    (hsecond : Leaves blind quiet' between after) (h : quiet → quiet' → joint) :
    Leaves blind joint before after := by
  obtain ⟨more, hcalls, hquiet, hblind⟩ := hfirst.calls
  obtain ⟨more', hcalls', hquiet', hblind'⟩ := hsecond.calls
  refine ⟨hsecond.memo, more ++ more', by rw [hcalls', hcalls, List.append_assoc], ?_, ?_⟩
  · intro hnil
    obtain ⟨hmore, hmore'⟩ := List.append_eq_nil_iff.1 hnil
    exact h (hquiet hmore) (hquiet' hmore')
  · intro hb
    rw [hblind hb, hblind' hb, List.append_nil]

end Leaves

/-- The marker starts with a separator. -/
def Blind (gate : Gate σ) : Prop := gate.settings.marker.toList.head? = some separator

variable {gate : Gate σ} {settings : GateSettings} {next : Handler σ} {request : Request}
  {parameter : Parameter} {before found after : Session (Watched σ)}

/-- A marker that starts with a separator is on no type. -/
theorem Guarded.not_blind (hsource : gate.source.Normal) {type : String}
    (hmemo : before.memo.Normal) (h : gate.Guarded parameter type before found) : ¬gate.Blind := by
  intro hblind
  obtain ⟨set, hset, hmarker⟩ := h.marked
  have hnormal := (Session.normal_of_interfaces hsource.watched hmemo hset).2 set rfl
  exact hnormal _ hmarker hblind

/-- Calls of the container, and perhaps of the instance, after a type was found to be guarded. -/
theorem Guarded.leaves (hsource : gate.source.Normal) {type : String} (hmemo : before.memo.Normal)
    (h : gate.Guarded parameter type before found) {made : σ} {more : List Call} {quiet : Prop}
    (hne : more ≠ []) (hmore : validations more = more) :
    Leaves gate.Blind quiet before (found.after made more) := by
  obtain ⟨set, hset, -⟩ := h.marked
  have hfound := (Session.normal_of_interfaces hsource.watched hmemo hset).1
  have hcalls : validations (found.after made more).calls = validations before.calls ++ more := by
    show validations (found.calls ++ more) = _
    rw [← h.asked.validations_eq, ← hmore]
    simp [validations]
  exact .asked hfound hne hcalls (h.not_blind hsource hmemo)

/-- A parameter that passes without being validated passes whatever marker starts with a separator. -/
theorem Passes.leaves (hsource : gate.source.Normal) (hblind : (gate.under settings).Blind)
    (hmemo : before.memo.Normal) (h : gate.Passes parameter before after) :
    Leaves gate.Blind ((gate.under settings).Passes parameter before after) before after := by
  cases h with
  | untyped hnone => exact .unasked hmemo rfl (.untyped hnone)
  | builtin htype hbuiltin => exact .unasked hmemo rfl (.builtin htype hbuiltin)
  | @unmarked type set _ htype hdeclared hset hmarker hasked =>
    obtain ⟨hafter, hnormal⟩ := Session.normal_of_interfaces hsource.watched hmemo hset
    have hmarker' : settings.marker ∉ set := fun hmem => hnormal set rfl _ hmem hblind
    exact .unasked hafter hasked.validations_eq (.unmarked htype hdeclared hset hmarker' hasked)
  | accepted hguarded hgot haccepts => exact hguarded.leaves hsource hmemo (by simp) rfl

theorem PassesAll.leaves (hsource : gate.source.Normal) (hblind : (gate.under settings).Blind)
    {parameters : List Parameter} (hmemo : before.memo.Normal)
    (h : gate.PassesAll parameters before after) :
    Leaves gate.Blind ((gate.under settings).PassesAll parameters before after) before after := by
  induction h with
  | nil => exact .unasked hmemo rfl .nil
  | cons hfirst hothers ih =>
    have hleaves := hfirst.leaves hsource hblind hmemo
    exact hleaves.trans (ih hleaves.memo) .cons

/-- A parameter that decides the request without being validated has a type that cannot be found. -/
theorem Decides.leaves (hsource : gate.source.Normal) (settings : GateSettings)
    (hmemo : before.memo.Normal) {answer : Except Fault Response}
    (h : gate.Decides request parameter before answer after) :
    Leaves gate.Blind ((gate.under settings).Decides request parameter before answer after) before
      after := by
  cases h with
  | unknown htype hdeclared hfault hasked =>
    have hafter := (Session.normal_of_interfaces hsource.watched hmemo hfault).1
    exact .unasked hafter hasked.validations_eq (.unknown htype hdeclared hfault hasked)
  | unresolved hguarded hgot => exact hguarded.leaves hsource hmemo (by simp) rfl
  | unauthorized hguarded hgot hdenies => exact hguarded.leaves hsource hmemo (by simp) rfl
  | invalid hguarded hgot hdenies => exact hguarded.leaves hsource hmemo (by simp) rfl

/-- The next handler is no validation, and does not know of the memo. -/
theorem leaves_answer {blind quiet : Prop} {answer : Except Fault Response} {left : Session σ}
    (hmemo : before.memo.Normal)
    (hnext : (next.outside request before.plain).value = (answer, left)) (h : quiet) :
    Leaves blind quiet before ⟨left.memo, left.world, before.calls ++ [.answer request]⟩ := by
  have hleft : left.memo = before.memo := (congrArg (fun done => done.2.memo) hnext).symm
  refine .unasked ?_ ?_ h
  · rw [hleft]
    exact hmemo
  · simp [validations, Session.calls, Call.isValidation]

/-- Finding the parameters of a handler is no validation, and does not know of the memo. -/
theorem leaves_parameters {blind quiet : Prop} {source : Source σ} {handler : Callable}
    {answer : Except Fault (List Parameter)} (hmemo : before.memo.Normal)
    (hfound : (Session.outside (handler.parameters source.watched.lookup) before).value =
      (answer, found))
    (hasked : OnlyDeclarations before.calls found.calls) (h : quiet) :
    Leaves blind quiet before found := by
  have hmemo' : found.memo = before.memo := (congrArg (fun done => done.2.memo) hfound).symm
  exact .unasked (hmemo' ▸ hmemo) hasked.validations_eq h

/-- A run that validates nothing is a run whatever marker starts with a separator. -/
theorem Run.leaves (hsource : gate.source.Normal) (hblind : (gate.under settings).Blind)
    (hmemo : before.memo.Normal) {answer : Except Fault Response}
    (h : gate.Run next.outside request before answer after) :
    Leaves gate.Blind ((gate.under settings).Run next.outside request before answer after) before
      after := by
  cases h with
  | unrouted hroute => exact .unasked hmemo rfl (.unrouted hroute)
  | unhandled hroute => exact .unasked hmemo rfl (.unhandled hroute)
  | unfound hroute hstatus hnext =>
    exact leaves_answer hmemo hnext (.unfound hroute hstatus hnext)
  | faulty hroute hfault hasked =>
    exact leaves_parameters hmemo hfault hasked (.faulty hroute hfault hasked)
  | decided hroute hfound hasked hpassed hdecides =>
    have hstart : Leaves gate.Blind True before _ := leaves_parameters hmemo hfound hasked trivial
    have hpast := hpassed.leaves hsource hblind hstart.memo
    have hend := hdecides.leaves hsource settings hpast.memo
    exact (hstart.trans hpast fun _ hall => hall).trans hend fun hall hlast =>
      .decided hroute hfound hasked hall hlast
  | passed hroute hfound hasked hpassed hnext =>
    have hstart : Leaves gate.Blind True before _ := leaves_parameters hmemo hfound hasked trivial
    have hpast := hpassed.leaves hsource hblind hstart.memo
    have hend : Leaves gate.Blind True _ _ := leaves_answer hpast.memo hnext trivial
    exact (hstart.trans hpast fun _ hall => hall).trans hend fun hall _ =>
      .passed hroute hfound hasked hall hnext

/-! ## Requests one after the other -/

/-- The answers to requests that a gate deals with one after the other, and the session after them,
in which all calls have been watched.  The gate begins without memories. -/
def served (gate : Gate σ) (next : Handler σ) (requests : List Request) (world : σ) :
    List (Except Fault Response) × Session (Watched σ) :=
  (requests.mapM (gate.watched.process next.outside.watched) ⟨.empty, ⟨world, []⟩⟩).value

/-- Without anyone watching, the answers are the same. -/
theorem served_seen (gate : Gate σ) (next : Handler σ) (requests : List Request) (world : σ) :
    (requests.mapM (gate.process next.outside) ⟨.empty, world⟩).value =
      ((gate.served next requests world).1, (gate.served next requests world).2.plain) :=
  (congrArg Noted.value ((Correspondence.seen Session.plain).mapM (gate.process_seen next.outside)
    requests ⟨.empty, ⟨world, []⟩⟩)).symm

theorem served_concat {gate : Gate σ} {first : List Request} {last : Request} {world : σ}
    {answer : Except Fault Response}
    (h : gate.Run next.outside last (gate.served next first world).2 answer after) :
    gate.served next (first ++ [last]) world =
      ((gate.served next first world).1 ++ [answer], after) := by
  have hlast := Session.value_mapM_concat (gate.watched.process next.outside.watched) first last
    ⟨.empty, ⟨world, []⟩⟩
  refine hlast.trans ?_
  show (_ ++ [(gate.watched.process _ last (gate.served next first world).2).value.1],
    (gate.watched.process _ last (gate.served next first world).2).value.2) = _
  rw [h.process]
  rfl

/-- As long as a gate validates nothing, one whose marker starts with a separator does the same. -/
theorem leaves_served (gate : Gate σ) (hsource : gate.source.Normal)
    (hblind : (gate.under settings).Blind) (next : Handler σ) (requests : List Request) (world : σ) :
    Leaves gate.Blind ((gate.under settings).served next requests world =
      gate.served next requests world) ⟨.empty, ⟨world, []⟩⟩ (gate.served next requests world).2 := by
  induction requests using List.reverseRecOn with
  | nil => exact .unasked (fun _ _ hfound => absurd hfound nofun) rfl rfl
  | append_singleton first last ih =>
    obtain ⟨answer, after, hrun⟩ := exists_run gate next.outside last
      (gate.served next first world).2
    have hlast := hrun.leaves hsource hblind ih.memo
    have hserved := served_concat hrun
    rw [hserved]
    refine ih.trans hlast fun hfirst hrun' => ?_
    -- the run of the last request begins where the other gate is, too
    rw [← hfirst] at hrun'
    rw [served_concat hrun', hfirst]

/-- The gates answer the requests alike, and have the same types validated in the same order. -/
def Agree (first second : Gate σ) (next : Handler σ) (requests : List Request) (world : σ) : Prop :=
  (first.served next requests world).1 = (second.served next requests world).1 ∧
    validations (first.served next requests world).2.calls =
      validations (second.served next requests world).2.calls

theorem Agree.refl (gate : Gate σ) (next : Handler σ) (requests : List Request) (world : σ) :
    gate.Agree gate next requests world := ⟨rfl, rfl⟩

/-- A gate whose marker starts with a separator validates nothing, and agrees with those that validate
nothing either. -/
theorem agree_blind_iff (gate : Gate σ) (hsource : gate.source.Normal)
    (hblind : (gate.under settings).Blind) (next : Handler σ) (requests : List Request) (world : σ) :
    validations ((gate.under settings).served next requests world).2.calls = [] ∧
      ((gate.under settings).Agree gate next requests world ↔
        validations (gate.served next requests world).2.calls = []) := by
  obtain ⟨more, hmore, hquiet, -⟩ := (leaves_served gate hsource hblind next requests world).calls
  obtain ⟨found, hfound, -, hnothing⟩ :=
    (leaves_served (gate.under settings) hsource hblind next requests world).calls
  have hunasked : validations ((gate.under settings).served next requests world).2.calls = [] := by
    rw [hfound, hnothing hblind]
    rfl
  refine ⟨hunasked, fun hagree => hagree.2 ▸ hunasked, fun hcalls => ?_⟩
  have hsame : (gate.under settings).served next requests world = gate.served next requests world := by
    refine hquiet ?_
    rw [hcalls] at hmore
    exact (List.append_eq_nil_iff.1 hmore.symm).2
  rw [Agree, hsame]
  exact ⟨rfl, rfl⟩

end Gate

/-! ## The marker that is read -/

theorem GateSettings.withMarker_led (settings : GateSettings) (count : Nat) {marker : String}
    (h : marker.toList.head? ≠ some separator) :
    settings.withMarker (led count marker) = { settings with marker := marker } := by
  rw [withMarker, normalize_led count h]

/-- The marker is read as it is written. -/
theorem GateSettings.marker_of_ofJson? {json : Json} {fields : Json.Fields} {read : GateSettings}
    {marker : String}
    (hfields : json.fields? ["capability_marker", "forbidden_status"] = some fields)
    (hmarker : fields "capability_marker" = some (.str marker))
    (hread : GateSettings.ofJson? json = some read) : read.marker = marker := by
  simp only [ofJson?, hfields, Json.orElse, hmarker, Json.text?, Option.bind_eq_bind,
    Option.bind_some] at hread
  obtain ⟨status, -, hstatus⟩ := Option.bind_eq_some_iff.1 hread
  obtain rfl := Option.some.inj hstatus
  rfl

/-- Separators before the marker do not matter where it is chosen.  Where it is read from data they
do: with any of them nothing is validated, so that a gate agrees with one for the bare marker only if
there are none or that one has nothing to validate. -/
theorem Gate.agree_led_iff (gate : Gate σ) (hsource : gate.source.Normal) (next : Handler σ)
    (requests : List Request) (world : σ) {marker : String}
    (hmarker : marker.toList.head? ≠ some separator) (count : Nat) :
    (∀ settings, (requests.mapM ((gate.under settings).process next.outside) ⟨.empty, world⟩).value =
        (((gate.under settings).served next requests world).1,
          ((gate.under settings).served next requests world).2.plain)) ∧
      (∀ settings : GateSettings, (gate.under (settings.withMarker (led count marker))).Agree
        (gate.under { settings with marker := marker }) next requests world) ∧
      ∀ json fields read,
        json.fields? ["capability_marker", "forbidden_status"] = some fields →
        fields "capability_marker" = some (.str (led count marker)) →
        GateSettings.ofJson? json = some read →
        (count ≠ 0 → validations ((gate.under read).served next requests world).2.calls = []) ∧
          ((gate.under read).Agree (gate.under { read with marker := marker }) next requests world ↔
            count = 0 ∨ validations
              ((gate.under { read with marker := marker }).served next requests world).2.calls = []) := by
  refine ⟨fun settings => served_seen _ next requests world, fun settings => ?_, ?_⟩
  · rw [settings.withMarker_led count hmarker]
    exact .refl _ next requests world
  · intro json fields read hfields hwritten hread
    have hled : read.marker = led count marker :=
      GateSettings.marker_of_ofJson? hfields hwritten hread
    by_cases hcount : count = 0
    · have hsame : { read with marker := marker } = read := by
        have hbare : led 0 marker = marker := by simp [led]
        rw [hcount, hbare] at hled
        rw [← hled]
      rw [hsame]
      exact ⟨fun hne => absurd hcount hne, fun _ => .inl hcount, fun _ => .refl _ next requests world⟩
    · have hblind : ((gate.under { read with marker := marker }).under read).Blind := by
        show read.marker.toList.head? = some separator
        rw [hled]
        exact head?_led hcount marker
      obtain ⟨hnone, hagree⟩ :=
        agree_blind_iff (gate.under { read with marker := marker }) hsource hblind next requests world
      exact ⟨fun _ => hnone, hagree.trans (by simp [hcount])⟩

/-- The type `R` validates itself, and no other type is known. -/
def validatedTypes (name : String) : Except Fault Declaration :=
  if name = "R" then .ok ((Declaration.empty "R" .classKind).implementing "App\\Validates")
  else .error (.unknownType name)

/-- A gate whose instances deny authority to everyone. -/
def closedGate : Gate Unit where
  source :=
    { lookup := fun name => pure (validatedTypes name)
      reach := fun _ => 2 }
  container := fun _ => pure (.ok fun _ => ⟨(.error (.unauthorized "admins only"), ()), []⟩)
  settings := .standard

theorem normal_closedGate : closedGate.source.Normal := by
  intro name world decl hdecl
  have hdecl : validatedTypes name = .ok decl := hdecl
  rw [validatedTypes] at hdecl
  split at hdecl
  · rw [← Except.ok.inj hdecl]
    exact (Declaration.normal_empty "R" .classKind).implementing "App\\Validates"
  · cases hdecl

/-- A request for a handler that takes an `R`. -/
def requestForR : Request := ⟨"r", some ⟨.found, some (.inline [.typed "r" "R"])⟩, .empty 200⟩

/-- Settings as data, in which a separator stands before the marker. -/
def ledMarker : Json := .obj [("capability_marker", .str "\\App\\Validates")]

/-- Every request is answered. -/
def openHandler : Handler Unit := fun _ => pure (.ok (.empty 204))

/-- With a separator before it the marker may be chosen, and the request is denied as it is for the
bare marker; but where it is read with the separator, it does not come to that. -/
theorem Gate.agree_led_iff_of_closedGate :
    let bare := closedGate.under ⟨"App\\Validates", 403⟩
    (bare.served openHandler [requestForR] ()).1 = [.ok (.empty 403)] ∧
      (closedGate.under (GateSettings.standard.withMarker "\\App\\Validates")).Agree bare openHandler
        [requestForR] () ∧
      GateSettings.ofJson? ledMarker = some ⟨"\\App\\Validates", 403⟩ ∧
      ¬(closedGate.under ⟨"\\App\\Validates", 403⟩).Agree bare openHandler [requestForR] () := by
  intro bare
  have hmarker : "App\\Validates".toList.head? ≠ some separator := by decide
  have hled : led 1 "App\\Validates" = "\\App\\Validates" := by decide
  have hread : GateSettings.ofJson? ledMarker = some ⟨"\\App\\Validates", 403⟩ := by decide +kernel
  have hdenied : (bare.served openHandler [requestForR] ()).1 = [.ok (.empty 403)] := by
    decide +kernel
  have hvalidated : validations (bare.served openHandler [requestForR] ()).2.calls =
      [.resolve "R", .validate "R"] := by decide +kernel
  obtain ⟨-, hchosen, hspelled⟩ :=
    closedGate.agree_led_iff normal_closedGate openHandler [requestForR] () hmarker 1
  rw [hled] at hchosen hspelled
  obtain ⟨-, hagree⟩ := hspelled ledMarker _ _ rfl rfl hread
  refine ⟨hdenied, hchosen .standard, hread, fun h => ?_⟩
  rcases hagree.1 h with hcount | hnone
  · cases hcount
  · cases hvalidated.symm.trans hnone

/-- A gate for the marker as it is read lets a request pass that it denies for the bare marker. -/
theorem Gate.served_ledMarker :
    let read := closedGate.under ⟨led 1 "App\\Validates", 403⟩
    let bare := closedGate.under ⟨"App\\Validates", 403⟩
    closedGate.source.Normal ∧
      GateSettings.ofJson? ledMarker = some ⟨led 1 "App\\Validates", 403⟩ ∧
      (read.served openHandler [requestForR] ()).1 = [.ok (.empty 204)] ∧
      validations (read.served openHandler [requestForR] ()).2.calls = [] ∧
      (bare.served openHandler [requestForR] ()).1 = [.ok (.empty 403)] ∧
      validations (bare.served openHandler [requestForR] ()).2.calls =
        [.resolve "R", .validate "R"] := by
  refine ⟨normal_closedGate, ?_⟩
  decide +kernel

end Interception
