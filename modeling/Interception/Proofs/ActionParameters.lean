import Interception.Proofs.AncestryChain
import Interception.Proofs.HintTokens
import Interception.Proofs.LostFaults

/-!
# The parameters of an action

An action may be declared by a trait that the controller uses, or by one of its ancestors, and the names
in its hints mean what they mean there.

Main statement: the parameters of a handler are those that its action declares, in order, with nothing
changed but the hints, where each class name is the one that was meant in the namespace of the
declaring type.  So a hint of one class name leads to the type that the name stands for there.
-/

namespace Interception

open Name Text

/-! ## Renamed hints -/

namespace Hint

/-- The second text is the first with each class name sent through `f`: the maximal runs of name
characters are replaced, except for builtins, and everything between them stays. -/
inductive Renames (f : String → String) : List Char → List Char → Prop where
  | nil : Renames f [] []
  | mark {c : Char} {rest out : List Char} (hmark : isNameChar c = false) (hrest : Renames f rest out) :
    Renames f (c :: rest) (c :: out)
  | builtin {run rest out : List Char} (hrun : IsRun run)
    (hend : ∀ c ∈ rest.head?, isNameChar c = false) (hword : isBuiltin (String.ofList run) = true)
    (hrest : Renames f rest out) : Renames f (run ++ rest) (run ++ out)
  | className {run rest out : List Char} (hrun : IsRun run)
    (hend : ∀ c ∈ rest.head?, isNameChar c = false) (hword : isBuiltin (String.ofList run) = false)
    (hrest : Renames f rest out) : Renames f (run ++ rest) ((f (String.ofList run)).toList ++ out)

/-- A text that starts with no name character does not start with a run. -/
theorem head?_tokens_ne_name {text : List Char} (h : ∀ c ∈ text.head?, isNameChar c = false)
    (run : List Char) : (tokens text).head? ≠ some (.name run) := by
  cases text with
  | nil => simp [tokens]
  | cons c rest => simp [tokens, h c rfl]

/-- What stands right after a run is no name character. -/
theorem Maximal.head?_chars {parts : List Token} (h : Maximal parts)
    (hend : ∀ run, parts.head? ≠ some (.name run)) :
    ∀ c ∈ (parts.flatMap Token.chars).head?, isNameChar c = false := by
  cases h with
  | nil => simp
  | mark hmark => simp [Token.chars, hmark]
  | name => exact absurd rfl (hend _)

theorem Maximal.renames {parts : List Token} (h : Maximal parts) (f : String → String) :
    Renames f (parts.flatMap Token.chars) (parts.flatMap (Token.renamed f)) := by
  induction h with
  | nil => exact .nil
  | mark hmark _ ih => exact .mark hmark ih
  | @name run rest hrun hend hrest ih =>
    have hstop := hrest.head?_chars hend
    rw [List.flatMap_cons, List.flatMap_cons, Token.chars, Token.renamed]
    split
    · next hword => exact .builtin hrun hstop hword ih
    · next hword => exact .className hrun hstop (by simpa using hword) ih

/-- Only one text is a hint with its class names sent through `f`: the one that is made. -/
theorem renames_iff {f : String → String} {hint out : String} :
    Renames f hint.toList out.toList ↔ out = mapNames f hint := by
  have hunique : ∀ text made, Renames f text made → made = (tokens text).flatMap (Token.renamed f) := by
    intro text made h
    induction h with
    | nil => rfl
    | mark hmark _ ih =>
      rw [tokens_of_mark hmark, ih]
      rfl
    | builtin hrun hend hword _ ih =>
      rw [tokens_append_of_isRun hrun (head?_tokens_ne_name hend), List.flatMap_cons, Token.renamed,
        if_pos hword, ih]
    | className hrun hend hword _ ih =>
      rw [tokens_append_of_isRun hrun (head?_tokens_ne_name hend), List.flatMap_cons, Token.renamed,
        if_neg (by simp [hword]), ih]
  rw [mapNames, ← String.toList_inj, String.toList_ofList]
  constructor
  · exact hunique _ _
  · intro hout
    rw [hout]
    have h := (maximal_tokens hint.toList).renames f
    rwa [flatMap_chars_tokens] at h

/-- A character whose small form is a small letter is a letter. -/
theorem isAlpha_of_isLower_toLower {c : Char} (h : c.toLower.isLower = true) : c.isAlpha = true := by
  show (c.isUpper || c.isLower) = true
  by_cases hupper : c.val ≥ 'A'.val ∧ c.val ≤ 'Z'.val
  · have hcapital : c.isUpper = true := decide_eq_true hupper
    rw [hcapital, Bool.true_or]
  · have hsame : c.toLower = c := dif_neg hupper
    rw [hsame] at h
    rw [h, Bool.or_true]

/-- A builtin is a run of name characters. -/
theorem isRun_of_isBuiltin {word : String} (h : isBuiltin word = true) : IsRun word.toList := by
  obtain ⟨builtin, hmem, hsame⟩ := List.any_eq_true.mp h
  have hlowered : lowered builtin = lowered word := sameLetters_iff.mp hsame
  have hletters : ∀ known ∈ builtins, lowered known ≠ [] ∧ (lowered known).all Char.isLower = true := by
    decide
  obtain ⟨hne, hlower⟩ := hletters builtin hmem
  rw [hlowered] at hne hlower
  refine ⟨?_, ?_⟩
  · intro hempty
    exact hne (by rw [lowered, hempty]; rfl)
  · intro c hc
    have hsmall := List.all_eq_true.mp hlower c.toLower (List.mem_map_of_mem hc)
    have halpha := isAlpha_of_isLower_toLower hsmall
    simp [isNameChar, isAlphanumeric_of_isAlphanum, Char.isAlphanum, halpha]

end Hint

/-! ## Resolved parameters -/

/-- The hint is one word, which a `?` may stand in front of. -/
def Parameter.HintedAs (parameter : Parameter) (word : String) : Prop :=
  parameter.hint = some word ∨ parameter.hint = some ("?" ++ word)

/-- The second parameter is the first as it is meant in `space`: each class name of its hint is given
in full, and nothing else is changed. -/
structure Parameter.ResolvedIn (space : String) (declared resolved : Parameter) : Prop where
  name : resolved.name = declared.name
  hint : Option.Rel (fun before after => Hint.Renames (qualify · space) before.toList after.toList)
    declared.hint resolved.hint
  default : resolved.default = declared.default
  byRef : resolved.byRef = declared.byRef
  variadic : resolved.variadic = declared.variadic

/-- A parameter with one class name for a hint leads to the type that the name means in `space`. -/
def Parameter.LeadsTo (space : String) (declared resolved : Parameter) : Prop :=
  ∀ word, declared.HintedAs word → IsRun word.toList → isBuiltin word = false →
    ¬ "\\\\".toList <+: word.toList → resolved.classType = some (qualify word space)

/-- A parameter whose hint is a builtin stays as it is. -/
def Parameter.KeepsBuiltin (declared resolved : Parameter) : Prop :=
  ∀ word, declared.HintedAs word → isBuiltin word = true → resolved = declared

namespace Hint

/-- The one name in a hint. -/
theorem mapNames_of_isRun {word : String} (h : IsRun word.toList) (f : String → String) :
    mapNames f word = if isBuiltin word then word else f word := by
  have htokens : tokens word.toList = [.name word.toList] := by
    have happended : tokens (word.toList ++ []) = .name word.toList :: tokens [] :=
      tokens_append_of_isRun h (by simp [tokens])
    rwa [List.append_nil] at happended
  rw [mapNames, htokens, List.flatMap_cons, List.flatMap_nil, List.append_nil, Token.renamed,
    String.ofList_toList]
  split <;> exact String.ofList_toList

/-- The mark in front stays. -/
theorem mapNames_question (f : String → String) (word : String) :
    mapNames f ("?" ++ word) = "?" ++ mapNames f word := by
  have htokens : tokens ("?" ++ word).toList = .mark '?' :: tokens word.toList := by
    rw [String.toList_append]
    exact tokens_of_mark (by decide) word.toList
  rw [mapNames, htokens, List.flatMap_cons, Token.renamed, ← String.toList_inj]
  simp [mapNames]

end Hint

namespace Parameter

variable {declared resolved : Parameter} {space word : String}

/-- Only one parameter is the declared one as it is meant in `space`: the one that is made. -/
theorem resolvedIn_iff : ResolvedIn space declared resolved ↔ resolved = declared.qualifiedIn space := by
  obtain ⟨name, hint, default, byRef, variadic⟩ := declared
  obtain ⟨name', hint', default', byRef', variadic'⟩ := resolved
  have hhints : Option.Rel (fun before after => Hint.Renames (qualify · space) before.toList after.toList)
      hint hint' ↔ hint' = hint.map (Hint.mapNames (qualify · space)) := by
    simp only [Hint.renames_iff]
    cases hint <;> cases hint' <;> simp
  simp only [qualifiedIn, mk.injEq, ← hhints]
  constructor
  · rintro ⟨hname, hhint, hdefault, hbyRef, hvariadic⟩
    exact ⟨hname, hhint, hdefault, hbyRef, hvariadic⟩
  · rintro ⟨hname, hhint, hdefault, hbyRef, hvariadic⟩
    exact ⟨hname, hhint, hdefault, hbyRef, hvariadic⟩

/-- A hint of one word stays one, with the word resolved. -/
theorem hintedAs_qualifiedIn (h : declared.HintedAs word) (hrun : IsRun word.toList)
    (space : String) :
    (declared.qualifiedIn space).HintedAs (if isBuiltin word then word else qualify word space) := by
  rw [← Hint.mapNames_of_isRun hrun (qualify · space)]
  rcases h with hplain | hoptional
  · exact .inl (by rw [qualifiedIn, hplain]; rfl)
  · exact .inr (by rw [qualifiedIn, hoptional, ← Hint.mapNames_question]; rfl)

/-- The type of a hint that is a proper name is this name. -/
theorem classType_of_proper {parameter : Parameter} {name : String} (h : parameter.hint = some name)
    (hname : Proper name) : parameter.classType = some name := by
  have hnot : ∀ c, isNameChar c = false → c ∉ name.toList := by
    intro c hc hmem
    rw [hname.chars c hmem] at hc
    cases hc
  have hbar : name.toList.contains '|' = false := by simpa using hnot '|' (by decide)
  have hand : name.toList.contains '&' = false := by simpa using hnot '&' (by decide)
  rw [classType, h, Option.bind_some]
  split
  · next rest hmark => exact absurd (hmark ▸ List.mem_cons_self) (hnot '?' (by decide))
  · dsimp only
    rw [hbar, hand, Bool.or_false, if_neg Bool.false_ne_true]
    split
    · next rest habsolute => exact absurd (by rw [habsolute]; rfl) hname.head
    · rw [String.ofList_toList]

/-- A `?` in front of the hint makes no difference to its type. -/
theorem classType_question {parameter : Parameter} {name : String}
    (h : parameter.hint = some ("?" ++ name)) (hname : Proper name) :
    parameter.classType = { parameter with hint := some name }.classType := by
  have hmark : ("?" ++ name).toList = '?' :: name.toList := by simp
  have hfirst : ∀ rest, name.toList ≠ '?' :: rest := by
    intro rest hrest
    have hchar := hname.chars '?' (hrest ▸ List.mem_cons_self)
    exact absurd hchar (by decide)
  rw [classType, classType, h, Option.bind_some, Option.bind_some, hmark]
  split
  · next rest hrest =>
    obtain rfl := (List.cons.inj hrest).2
    split
    · next rest hrest => exact absurd hrest (hfirst rest)
    · rfl
  · next hother => exact absurd rfl (hother name.toList)

theorem classType_of_hintedAs {parameter : Parameter} {name : String} (h : parameter.HintedAs name)
    (hname : Proper name) : parameter.classType = some name := by
  rcases h with hplain | hoptional
  · exact classType_of_proper hplain hname
  · rw [classType_question hoptional hname]
    exact classType_of_proper rfl hname

theorem leadsTo_qualifiedIn (hspace : Proper space) :
    LeadsTo space declared (declared.qualifiedIn space) := by
  intro word hhint hrun hclass hleading
  have hproper : Proper (qualify word space) :=
    ⟨chars_qualify hspace hrun.chars, head?_qualify hleading hspace⟩
  have hresolved := hintedAs_qualifiedIn hhint hrun space
  rw [hclass] at hresolved
  exact classType_of_hintedAs hresolved hproper

theorem keepsBuiltin_qualifiedIn : KeepsBuiltin declared (declared.qualifiedIn space) := by
  intro word hhint hbuiltin
  have hword : Hint.mapNames (qualify · space) word = word := by
    rw [Hint.mapNames_of_isRun (Hint.isRun_of_isBuiltin hbuiltin), if_pos hbuiltin]
  have hsame : declared.hint.map (Hint.mapNames (qualify · space)) = declared.hint := by
    rcases hhint with hplain | hoptional
    · rw [hplain, Option.map_some, hword]
    · rw [hoptional, Option.map_some, Hint.mapNames_question, hword]
  rw [qualifiedIn, hsame]

end Parameter

/-! ## Where an action is declared -/

variable {σ : Type}

/-- In every world the value that the act gives has the property. -/
def Act.Ensures {α : Type} (act : Act σ α) (property : α → Prop) : Prop :=
  ∀ world, property (act world).value.1

namespace Act.Ensures

variable {α β : Type}

theorem done {a : α} {property : α → Prop} (h : property a) :
    Act.Ensures (pure a : Act σ α) property := fun _ => h

theorem next {act : Act σ α} {rest : α → Act σ β} {property : α → Prop} {property' : β → Prop}
    (hact : act.Ensures property) (hrest : ∀ a, property a → (rest a).Ensures property') :
    Act.Ensures (act >>= rest) property' :=
  fun world => hrest (act world).value.1 (hact world) (act world).value.2

end Act.Ensures

/-- A declaration that the source hands out declares the method, under this name. -/
def Source.Declares (source : Source σ) (name : String) (sighting : Sighting) : Prop :=
  ∃ decl, source.HandsOut decl ∧ decl.name = sighting.owner ∧ decl.Declares name sighting.method

namespace Ancestry

variable {source : Source σ} {decl : Declaration}

theorem lookup_ensures (source : Source σ) (name : String) : Act.Ensures (source.lookup name)
    fun answer => ∀ decl, answer = .ok decl → source.HandsOut decl :=
  fun world _ hanswer => ⟨name, world, hanswer⟩

theorem own?_declares (hdecl : source.HandsOut decl) (name : String) :
    ∀ sighting, own? decl name = some sighting → source.Declares name sighting := by
  intro sighting h
  obtain ⟨method, hmethod, rfl⟩ := own?_eq_some_iff.mp h
  exact ⟨decl, hdecl, rfl, hmethod⟩

theorem amongTraits_ensures (source : Source σ) (name : String) (traits : List String) :
    Act.Ensures (amongTraits source.lookup name traits)
      fun found => ∀ sighting, found = some sighting → source.Declares name sighting := by
  induction traits with
  | nil =>
    apply Act.Ensures.done
    intro sighting h
    cases h
  | cons first others ih =>
    rw [amongTraits]
    refine Act.Ensures.next (lookup_ensures source first) ?_
    intro answer hanswer
    cases answer with
    | error fault => exact ih
    | ok mixin =>
      have hown := own?_declares (hanswer mixin rfl) name
      dsimp only
      cases hfound : own? mixin name with
      | none => exact ih
      | some sighting => exact .done (hfound ▸ hown)

theorem onType_ensures (hdecl : source.HandsOut decl) (name : String) :
    Act.Ensures (onType source.lookup decl name)
      fun found => ∀ sighting, found = some sighting → source.Declares name sighting := by
  have hown := own?_declares hdecl name
  rw [onType]
  cases hfound : own? decl name with
  | none => exact amongTraits_ensures source name decl.traits
  | some sighting => exact .done (hfound ▸ hown)

theorem climb_ensures (hdecl : source.HandsOut decl) (name : String) (steps : Nat) :
    Act.Ensures (climb source.lookup name steps decl)
      fun found => ∀ sighting, found = some sighting → source.Declares name sighting := by
  induction steps generalizing decl with
  | zero => exact onType_ensures hdecl name
  | succ steps ih =>
    rw [climb]
    refine Act.Ensures.next (onType_ensures hdecl name) ?_
    intro found hfound
    cases found with
    | some sighting => exact .done hfound
    | none =>
      dsimp only
      cases decl.parent with
      | none => exact .done hfound
      | some parent =>
        refine Act.Ensures.next (lookup_ensures source parent) ?_
        intro answer hanswer
        cases answer with
        | error fault => exact .done hfound
        | ok ancestor => exact ih (hanswer ancestor rfl)

/-- What the search finds is declared where it says. -/
theorem find_ensures (source : Source σ) (type name : String) :
    Act.Ensures (find source.lookup type name)
      fun found => ∀ sighting, found = .ok (some sighting) → source.Declares name sighting := by
  rw [find]
  refine Act.Ensures.next (lookup_ensures source type) ?_
  intro answer hanswer
  cases answer with
  | error fault =>
    apply Act.Ensures.done
    intro sighting h
    cases h
  | ok decl =>
    refine Act.Ensures.next (climb_ensures (hanswer decl rfl) name limit) ?_
    intro found hfound
    exact .done fun sighting h => hfound sighting (Except.ok.inj h)

end Ancestry

/-! ## The parameters of a handler -/

namespace Callable

open Parameter

/-- What resolving does to parameters that are written in `space`. -/
theorem resolved_forall₂ (declared : List Parameter) (space : String) :
    let resolved := declared.map (·.qualifiedIn space)
    List.Forall₂ (ResolvedIn space) declared resolved ∧
      List.Forall₂ KeepsBuiltin declared resolved ∧
      (Proper space → List.Forall₂ (LeadsTo space) declared resolved) := by
  refine ⟨?_, ?_, ?_⟩
  · apply List.forall₂_map_right_iff.mpr
    exact List.forall₂_same.mpr fun _ _ => resolvedIn_iff.mpr rfl
  · apply List.forall₂_map_right_iff.mpr
    exact List.forall₂_same.mpr fun _ _ => keepsBuiltin_qualifiedIn
  · intro hspace
    apply List.forall₂_map_right_iff.mpr
    exact List.forall₂_same.mpr fun _ _ => leadsTo_qualifiedIn hspace

/-- The parameters of an action that is found are those that it declares, as they are meant in the
namespace of the type that declares it, whichever controller the reference names.  If that type has a
proper name, a hint of one class name leads to the type that the name stands for in this namespace.
The parameters of a closure are those that it carries, as they are meant in the global namespace. -/
theorem parameters_resolved (source : Source σ) (world : σ) :
    (∀ handler controller action sighting after,
      split handler = .ok (controller, action) →
      (Ancestry.find source.lookup controller action world).value = (.ok (some sighting), after) →
      source.Declares action sighting ∧
        ∃ parameters, (handler.parameters source.lookup world).value = (.ok parameters, after) ∧
          List.Forall₂ (ResolvedIn (namespaceOf sighting.owner)) sighting.method.parameters parameters ∧
          List.Forall₂ KeepsBuiltin sighting.method.parameters parameters ∧
          (Proper sighting.owner →
            List.Forall₂ (LeadsTo (namespaceOf sighting.owner)) sighting.method.parameters parameters)) ∧
    ∀ declared, ∃ parameters,
      ((Callable.inline declared).parameters source.lookup world).value = (.ok parameters, world) ∧
        List.Forall₂ (ResolvedIn "") declared parameters ∧
        List.Forall₂ KeepsBuiltin declared parameters ∧
        List.Forall₂ (LeadsTo "") declared parameters := by
  constructor
  · intro handler controller action sighting after hsplit hfound
    have hdeclares := Ancestry.find_ensures source controller action world
    rw [hfound] at hdeclares
    refine ⟨hdeclares sighting rfl, resolved sighting, ?_, ?_⟩
    · rw [parameters_of_split source.lookup hsplit, map_eq_pure_bind, Act.value_bind_of_eq hfound]
      rfl
    · obtain ⟨hresolved, hbuiltins, htypes⟩ :=
        resolved_forall₂ sighting.method.parameters (namespaceOf sighting.owner)
      exact ⟨hresolved, hbuiltins, fun howner => htypes howner.namespaceOf⟩
  · intro declared
    obtain ⟨hresolved, hbuiltins, htypes⟩ := resolved_forall₂ declared ""
    exact ⟨_, rfl, hresolved, hbuiltins, htypes (by decide)⟩

/-- An action with hints that are relative, absolute and builtin. -/
def sharedAction : Method :=
  (((Method.empty "x").addParameter (.typed "r" "?R")).addParameter (.typed "f" "\\G\\F")).addParameter
    (.typed "n" "?Int")

/-- The class `C` inherits the action from the class `B`, which uses the trait that declares it; each of
the three has a namespace of its own. -/
def sharedFamily (name : String) : Except Fault Declaration :=
  if name = "A\\C" then .ok ((Declaration.empty "A\\C" .classKind).extending "U\\B")
  else if name = "U\\B" then .ok ((Declaration.empty "U\\B" .classKind).mixing "S\\T")
  else if name = "S\\T" then .ok ((Declaration.empty "S\\T" .traitKind).addMethod sharedAction)
  else .error (.unknownType name)

/-- The source of that family counts what it is asked. -/
def sharedSource : Source Nat :=
  ⟨fun name asked => ⟨(sharedFamily name, asked + 1), []⟩, fun _ => 4⟩

/-- The names in the hints mean what they mean beside the trait. -/
theorem parameters_of_sharedSource :
    ∃ request format number,
      split (.written "A\\C@x") = .ok ("A\\C", "x") ∧
        (Ancestry.find sharedSource.lookup "A\\C" "x" 0).value =
          (.ok (some ⟨"S\\T", sharedAction⟩), 3) ∧
        Proper "S\\T" ∧
        (parameters sharedSource.lookup (.written "A\\C@x") 0).value =
          (.ok [request, format, number], 3) ∧
        request.classType = some "S\\R" ∧ format.classType = some "G\\F" ∧
        number = .typed "n" "?Int" := by
  have hsplit : split (.written "A\\C@x") = .ok ("A\\C", "x") := by decide +kernel
  have hfound : (Ancestry.find sharedSource.lookup "A\\C" "x" 0).value =
      (.ok (some ⟨"S\\T", sharedAction⟩), 3) := by decide +kernel
  have howner : Proper "S\\T" := by decide +kernel
  obtain ⟨hactions, -⟩ := parameters_resolved sharedSource 0
  obtain ⟨-, parameters, hparameters, -, hbuiltins, htypes⟩ := hactions _ _ _ _ _ hsplit hfound
  have hdeclared : sharedAction.parameters =
      [.typed "r" "?R", .typed "f" "\\G\\F", .typed "n" "?Int"] := rfl
  rw [hdeclared] at hbuiltins htypes
  obtain _ | ⟨hrequest, _ | ⟨hformat, _ | ⟨-, ⟨⟩⟩⟩⟩ := htypes howner
  obtain _ | ⟨-, _ | ⟨-, _ | ⟨hnumber, ⟨⟩⟩⟩⟩ := hbuiltins
  refine ⟨_, _, _, hsplit, hfound, howner, hparameters, ?_, ?_, ?_⟩
  · have hrun : IsRun "R".toList := ⟨by decide, List.all_eq_true.mp (by decide)⟩
    rw [hrequest "R" (.inr rfl) hrun (by decide) (by decide)]
    decide +kernel
  · have hrun : IsRun "\\G\\F".toList := ⟨by decide, List.all_eq_true.mp (by decide)⟩
    rw [hformat "\\G\\F" (.inl rfl) hrun (by decide) (by decide)]
    decide +kernel
  · exact hnumber "Int" (.inr rfl) (by decide)

end Callable

end Interception
