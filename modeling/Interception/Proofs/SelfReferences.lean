import Interception.Proofs.EffectiveConstructor
import Interception.Proofs.LeadingClasses

/-!
# The word `self` in inherited signatures

In the signature of a constructor `self` is the type that declares it; where another class repeats
the signature it would be that class.  Main statement: the constructor made for a class repeats a
signature from its own namespace to the letter, and in one from another namespace a default value that
begins with `self` begins with a name of the declaring type instead.
-/

namespace Interception

open Name Text

/-- Whether the word stands for the type that it is written in. -/
def isSelf (word : List Char) : Bool := sameLetters (String.ofList word) "self"

/-! ## Names for the owner -/

/-- The word stands for `owner` in the namespace `target`, without being `self`. -/
structure Name.Denotes (owner target : String) (word : List Char) : Prop where
  meaning : qualify (String.ofList word) target = owner
  other : isSelf word = false

/-- An absolute name stands for its type in every namespace. -/
theorem Name.denotes_absolute (owner target : String) :
    Denotes owner target (separator :: owner.toList) where
  meaning := by
    rw [qualify, String.toList_ofList]
    exact String.ofList_toList
  other := by
    rw [isSelf, Bool.eq_false_iff, ne_eq, sameLetters_iff, lowered, String.toList_ofList]
    intro hsame
    exact absurd (List.cons.inj hsame).1 (by decide)

/-- What a token becomes where each `self` is to name the owner. -/
def Hint.Token.NamesOwner (owner target : String) (token token' : Token) : Prop :=
  ∀ run, token = .name run → isSelf run = true →
    ∃ run', token' = .name run' ∧ Denotes owner target run'

/-- Wherever `self` stands in the one hint, a name of the owner stands in the other. -/
def Hint.NamesOwner (owner target hint hint' : String) : Prop :=
  List.Forall₂ (Token.NamesOwner owner target) (tokens hint.toList) (tokens hint'.toList)

/-- If the one value begins with `self`, a name of the owner stands there in the other, with the same
text after it; white space before it may go.  It is read as a class again if the owner has a name that
can be read. -/
def DefaultNamesOwner (owner target value value' : String) : Prop :=
  ∀ found blanks, LeadingClass.Reads found blanks value.toList → isSelf found.name = true →
    ∃ name' blanks', Denotes owner target name' ∧ (blanks' = [] ∨ blanks' = blanks) ∧
      value'.toList = LeadingClass.text { found with name := name' } blanks' ∧
      ((∀ c ∈ owner.toList, isNameChar c = true) →
        LeadingClass.Reads { found with name := name' } blanks' value'.toList)

/-- Wherever the declared parameter says `self`, in its hint or in front of its default value, the
written one has a name of the owner. -/
structure Parameter.NamesOwner (owner target : String) (declared written : Parameter) : Prop where
  hint : Option.Rel (Hint.NamesOwner owner target) declared.hint written.hint
  default : Option.Rel (DefaultNamesOwner owner target) declared.default written.default

variable {owner target : String}

/-- A hint that stays as it is names the owner only if `self` does not occur in it. -/
theorem Hint.NamesOwner.isSelf_eq_false {hint : String} (h : NamesOwner owner target hint hint)
    {run : List Char} (hrun : .name run ∈ tokens hint.toList) : isSelf run = false := by
  rw [Bool.eq_false_iff]
  intro hself
  obtain ⟨run', hrun', hdenotes⟩ := List.forall₂_same.mp h _ hrun run rfl hself
  cases hrun'
  rw [hdenotes.other] at hself
  cases hself

/-- A value that stays as it is names the owner only if it does not begin with `self::`. -/
theorem DefaultNamesOwner.isSelf_eq_false {value : String}
    (h : DefaultNamesOwner owner target value value) {found : LeadingClass}
    (hfound : LeadingClass.find? value.toList = some found) (hold : found.isNew = false) :
    isSelf found.name = false := by
  rw [Bool.eq_false_iff]
  intro hself
  obtain ⟨blanks, hreads⟩ := LeadingClass.find?_eq_some_iff.mp hfound
  obtain ⟨name', blanks', hdenotes, -, hspelled, -⟩ := h found blanks hreads hself
  -- without the keyword the value is the name and the text after it
  have hsame : found.name ++ found.rest = name' ++ found.rest := by
    rw [hreads.spelled, LeadingClass.text, LeadingClass.text, hold] at hspelled
    simpa using hspelled
  rw [List.append_cancel_right hsame, hdenotes.other] at hself
  cases hself

/-- A default value that is written for another namespace names the owner. -/
theorem movedDefault_namesOwner (hother : namespaceOf owner ≠ target) (value : String) :
    DefaultNamesOwner owner target value (movedDefault owner target value) := by
  intro found blanks hreads hself
  have hfind : LeadingClass.find? value.toList = some found :=
    LeadingClass.find?_eq_some_iff.mpr ⟨blanks, hreads⟩
  have hspelled : (movedDefault owner target value).toList =
      LeadingClass.text { found with name := separator :: owner.toList } [] := by
    rw [isSelf] at hself
    rw [movedDefault, hfind]
    dsimp only
    rw [if_pos hself, display, if_neg hother, LeadingClass.toList_respelled, String.toList_append]
    rfl
  refine ⟨_, [], denotes_absolute owner target, .inl rfl, hspelled, fun hchars => ?_⟩
  refine ⟨⟨⟨List.cons_ne_nil _ _, ?_⟩, ?_, hreads.ending, hreads.colons⟩, rfl, hspelled⟩
  · exact List.forall_mem_cons.mpr ⟨isNameChar_separator, hchars⟩
  · rintro c ⟨⟩
    decide

/-! ## The constructor made for a class -/

/-- What the constructor made for a class takes, with regard to the type that declares the inherited
one. -/
inductive Declaration.Repeats (lookup : String → Except Fault Declaration) (decl : Declaration) :
    List Parameter → Prop where
  /-- Nothing is found from the parent on, and nothing is taken. -/
  | nothing
    (hnone : ∀ parent ∈ decl.parent, ∀ sighting,
      Ancestry.findIn lookup parent constructorName ≠ .ok (some sighting)) :
    Repeats lookup decl []
  /-- What is declared in the namespace of the class is repeated to the letter. -/
  | near {parent : String} {sighting : Sighting} (hparent : decl.parent = some parent)
    (hfound : Ancestry.findIn lookup parent constructorName = .ok (some sighting))
    (hspace : namespaceOf sighting.owner = decl.space) :
    Repeats lookup decl sighting.method.parameters
  /-- What is declared in another namespace names its owner in front of default values. -/
  | far {parent : String} {sighting : Sighting} {parameters : List Parameter}
    (hparent : decl.parent = some parent)
    (hfound : Ancestry.findIn lookup parent constructorName = .ok (some sighting))
    (hspace : namespaceOf sighting.owner ≠ decl.space)
    (hnames : List.Forall₂ (fun declared written : Parameter => written.name = declared.name ∧
        Option.Rel (DefaultNamesOwner sighting.owner decl.space) declared.default written.default)
      sighting.method.parameters parameters) :
    Repeats lookup decl parameters

section

variable {lookup : String → Except Fault Declaration} {decl : Declaration}

/-- Nothing is taken over from ancestors that have no constructor. -/
theorem Inheritance.parameters_of_missing
    (hnone : ∀ parent ∈ decl.parent, ∀ sighting,
      Ancestry.findIn lookup parent constructorName ≠ .ok (some sighting)) :
    (find lookup decl).parameters = [] := by
  unfold find
  cases hparent : decl.parent with
  | none => rfl
  | some parent =>
    cases hancestor : lookup parent with
    | error fault => simp only [hancestor]; rfl
    | ok ancestor =>
      cases hctor : ancestor.constructor? with
      | some ctor =>
        -- a constructor of the parent would have been found
        have hfound := Ancestry.findIn_of_method hancestor (ancestor.constructor?_eq ▸ hctor)
        exact absurd hfound (hnone parent hparent _)
      | none =>
        simp only [hancestor, hctor]
        split
        · next sighting hfound => exact absurd hfound (hnone parent hparent sighting)
        · rfl

/-- What is inherited is nothing, or comes from the namespace of the class or from another one. -/
theorem Inheritance.repeats_parameters (lookup : String → Except Fault Declaration)
    (decl : Declaration) : decl.Repeats lookup (find lookup decl).parameters := by
  by_cases hsome : ∃ parent ∈ decl.parent, ∃ sighting,
      Ancestry.findIn lookup parent constructorName = .ok (some sighting)
  · obtain ⟨parent, hparent, sighting, hfound⟩ := hsome
    rw [parameters_of_findIn hparent hfound, Method.movedTo]
    split
    · next hspace => exact .near hparent hfound hspace
    · next hspace =>
      refine .far hparent hfound hspace ?_
      rw [List.forall₂_map_right_iff]
      refine List.forall₂_same.mpr fun parameter _ => ⟨rfl, ?_⟩
      show Option.Rel _ parameter.default (parameter.default.map (movedDefault _ _))
      cases parameter.default with
      | none => exact .none
      | some value => exact .some (movedDefault_namesOwner hspace value)
  · have hnone : ∀ parent ∈ decl.parent, ∀ sighting,
        Ancestry.findIn lookup parent constructorName ≠ .ok (some sighting) :=
      fun parent hparent sighting hfound => hsome ⟨parent, hparent, sighting, hfound⟩
    rw [parameters_of_missing hnone]
    exact .nothing hnone

end

/-- A class without a constructor gets one, and its signature repeats the inherited one, with the
name of the declaring type for `self` in front of the default values from another namespace. -/
theorem weave_repeats {lookup : String → Except Fault Declaration} {name : String}
    {decl : Declaration} (hdecl : lookup name = .ok decl) (haccepted : decl.obstacle? = none)
    (hkind : decl.kind = .classKind) (hctor : decl.constructor? = none)
    (advising : List String → List Advice) (settings : WeaveSettings) :
    ∃ proxy node, weave lookup advising settings name = .ok proxy ∧
      proxy.file.type.method? constructorName = some node ∧ decl.Repeats lookup node.parameters := by
  obtain ⟨node, hnode, hparameters⟩ :=
    Declaration.wovenType_constructor lookup (decl.applicable advising) settings hkind
  refine ⟨_, node, weave_eq_ok_iff.2 ⟨decl, hdecl, haccepted, rfl⟩, hnode, ?_⟩
  rw [hctor] at hparameters
  rw [hparameters]
  exact Inheritance.repeats_parameters lookup decl

/-- A constructor that says `self` in a hint and in front of a default value. -/
def modeConstructor : Method :=
  ((Method.empty "__construct").addParameter
    { Parameter.typed "outer" "?self" with default := some "null" }).addParameter
    { Parameter.typed "mode" "int" with default := some "self::STRICT" }

/-- The class `Lib\Base` with that constructor. -/
def modeBase : Declaration :=
  (Declaration.empty "Lib\\Base" .classKind).addMethod modeConstructor

/-- A class that extends it. -/
def modeHeir (name : String) : Declaration :=
  (Declaration.empty name .classKind).extending "Lib\\Base"

/-- The class `Lib\Base`, and heirs of it in any namespace. -/
def modeFamily (name : String) : Except Fault Declaration :=
  if name = "Lib\\Base" then .ok modeBase else .ok (modeHeir name)

theorem findIn_modeFamily : Ancestry.findIn modeFamily "Lib\\Base" constructorName =
    .ok (some ⟨"Lib\\Base", modeConstructor⟩) := by
  have hname : modeBase.name = "Lib\\Base" := by decide +kernel
  have hctor : modeBase.method? constructorName = some modeConstructor := by decide +kernel
  rw [Ancestry.findIn_of_method (if_pos rfl) hctor, hname]

/-- What the constructor takes that is made for an heir. -/
theorem weave_modeHeir {name : String} (hother : name ≠ "Lib\\Base")
    (haccepted : (modeHeir name).obstacle? = none) :
    ∃ proxy node, weave modeFamily (fun _ => []) .standard name = .ok proxy ∧
      proxy.file.type.method? constructorName = some node ∧
      node.parameters = (modeConstructor.movedTo "Lib\\Base" (modeHeir name).space).parameters := by
  have hdecl : modeFamily name = .ok (modeHeir name) := if_neg hother
  have hkind : (modeHeir name).kind = .classKind := rfl
  obtain ⟨node, hnode, hparameters⟩ := Declaration.wovenType_constructor modeFamily
    ((modeHeir name).applicable fun _ => []) .standard hkind
  have hnone : (modeHeir name).constructor? = none := rfl
  rw [hnone] at hparameters
  have hparent : (modeHeir name).parent = some "Lib\\Base" :=
    congrArg some (show normalize "Lib\\Base" = "Lib\\Base" by decide +kernel)
  have hinherited := Inheritance.parameters_of_findIn hparent findIn_modeFamily
  dsimp only at hparameters
  rw [hinherited] at hparameters
  refine ⟨_, node, weave_eq_ok_iff.2 ⟨_, hdecl, haccepted, rfl⟩, hnode, ?_⟩
  rw [hparameters]

/-- An heir in another namespace has the name of the class in front of the default value. -/
theorem weave_repeats_of_modeFamily :
    modeFamily "App\\Child" = .ok (modeHeir "App\\Child") ∧
      (modeHeir "App\\Child").obstacle? = none ∧ (modeHeir "App\\Child").constructor? = none ∧
      (modeConstructor.movedTo "Lib\\Base" (modeHeir "App\\Child").space).parameters.map
        Parameter.default = [some "null", some "\\Lib\\Base::STRICT"] ∧
      ∃ proxy node, weave modeFamily (fun _ => []) .standard "App\\Child" = .ok proxy ∧
        proxy.file.type.method? constructorName = some node ∧
        (modeHeir "App\\Child").Repeats modeFamily node.parameters := by
  have hdecl : modeFamily "App\\Child" = .ok (modeHeir "App\\Child") := rfl
  have haccepted : (modeHeir "App\\Child").obstacle? = none := by decide +kernel
  have hctor : (modeHeir "App\\Child").constructor? = none := rfl
  exact ⟨hdecl, haccepted, hctor, by decide +kernel,
    weave_repeats hdecl haccepted rfl hctor (fun _ => []) .standard⟩

/-- Whoever keeps the hints of that constructor keeps `self` in one of them. -/
theorem modeConstructor_not_namesOwner {target : String} {written : List Parameter}
    (hkept : written.map Parameter.hint = modeConstructor.parameters.map Parameter.hint) :
    ¬List.Forall₂ (Parameter.NamesOwner "Lib\\Base" target) modeConstructor.parameters written := by
  intro hnames
  cases hnames with
  | @cons _ first _ _ hfirst _ =>
    have hsame : first.hint = some "?self" := (List.cons.inj hkept).1
    have hhint := hfirst.hint
    rw [hsame] at hhint
    have hnamed : Hint.NamesOwner "Lib\\Base" target "?self" "?self" :=
      Option.rel_some_some.mp hhint
    have hrun : .name "self".toList ∈ Hint.tokens "?self".toList := by decide
    exact absurd (hnamed.isSelf_eq_false hrun) (by decide)

/-- An heir in the namespace of the class keeps each `self`, one elsewhere that of the hint. -/
theorem weave_of_modeFamily :
    Ancestry.findIn modeFamily "Lib\\Base" constructorName =
        .ok (some ⟨"Lib\\Base", modeConstructor⟩) ∧
      (∃ proxy node, weave modeFamily (fun _ => []) .standard "Lib\\Twin" = .ok proxy ∧
        proxy.file.type.method? constructorName = some node ∧
        node.parameters = modeConstructor.parameters ∧
        ¬List.Forall₂ (Parameter.NamesOwner "Lib\\Base" "Lib") modeConstructor.parameters
          node.parameters) ∧
      ¬DefaultNamesOwner "Lib\\Base" "Lib" "self::STRICT" "self::STRICT" ∧
      ∃ proxy node, weave modeFamily (fun _ => []) .standard "App\\Child" = .ok proxy ∧
        proxy.file.type.method? constructorName = some node ∧
        node.parameters.map Parameter.hint = modeConstructor.parameters.map Parameter.hint ∧
        ¬List.Forall₂ (Parameter.NamesOwner "Lib\\Base" "App") modeConstructor.parameters
          node.parameters := by
  have htwin : (modeConstructor.movedTo "Lib\\Base" (modeHeir "Lib\\Twin").space).parameters =
      modeConstructor.parameters := by decide +kernel
  have hchild : (modeConstructor.movedTo "Lib\\Base" (modeHeir "App\\Child").space).parameters.map
      Parameter.hint = modeConstructor.parameters.map Parameter.hint := by decide +kernel
  have hdefault : ¬DefaultNamesOwner "Lib\\Base" "Lib" "self::STRICT" "self::STRICT" := by
    intro hnames
    have hfound : LeadingClass.find? "self::STRICT".toList =
        some ⟨false, "self".toList, "::STRICT".toList⟩ := rfl
    exact absurd (hnames.isSelf_eq_false hfound rfl) (by decide)
  obtain ⟨twin, made, hwoven, hmade, hsame⟩ :=
    weave_modeHeir (show "Lib\\Twin" ≠ "Lib\\Base" by decide) (by decide +kernel)
  obtain ⟨child, made', hwoven', hmade', hsame'⟩ :=
    weave_modeHeir (show "App\\Child" ≠ "Lib\\Base" by decide) (by decide +kernel)
  rw [htwin] at hsame
  rw [← hsame'] at hchild
  have hkept : made.parameters.map Parameter.hint = modeConstructor.parameters.map Parameter.hint := by
    rw [hsame]
  exact ⟨findIn_modeFamily,
    ⟨twin, made, hwoven, hmade, hsame, modeConstructor_not_namesOwner hkept⟩, hdefault,
    child, made', hwoven', hmade', hchild, modeConstructor_not_namesOwner hchild⟩

end Interception
