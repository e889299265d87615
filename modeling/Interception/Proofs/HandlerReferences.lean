import Interception.Proofs.FirstCut
import Interception.Proofs.LostFaults

/-!
# How references to handlers are read

A callback names a controller and an action in one text, with `@` or `::` between them, and `@` counts
before `::`.  A pair names them apart.

Main statement: a callback leads to a controller and an action exactly when it can be read as them, and
it can be read in one way at most; everything else does not exist, by the text of the reference.  For
plain names the two spellings and the pair lead to the same parameters.
-/

namespace Interception

/-! ## Separators -/

namespace Text

/-- The separator stands in the text. -/
def Occurs (separator text : String) : Prop := ∃ front back, text = front ++ separator ++ back

/-- The text is the two parts around the first separator. -/
structure FirstAt (separator text before after : String) : Prop where
  spelled : text = before ++ separator ++ after
  first : ∀ front back, text = front ++ separator ++ back → before.length ≤ front.length

theorem cut?_eq_some_iff_firstAt {separator text before after : String} (hseparator : separator ≠ "") :
    cut? separator text = some (before, after) ↔ FirstAt separator text before after :=
  (cut?_eq_some_iff hseparator).trans ⟨fun h => ⟨h.1, h.2⟩, fun h => ⟨h.spelled, h.first⟩⟩

theorem cut?_eq_none_iff_not_occurs {separator text : String} (hseparator : separator ≠ "") :
    cut? separator text = none ↔ ¬ Occurs separator text := by
  rw [cut?_eq_none_iff hseparator, Occurs]
  simp only [not_exists, ne_eq]

theorem FirstAt.occurs {separator text before after : String}
    (h : FirstAt separator text before after) : Occurs separator text :=
  ⟨before, after, h.spelled⟩

/-- A separator does not stand in a text that lacks one of its characters. -/
theorem not_occurs_of_not_mem {separator text : String} {c : Char} (hc : c ∈ separator.toList)
    (h : c ∉ text.toList) : ¬ Occurs separator text := by
  rintro ⟨front, back, rfl⟩
  simp [hc] at h

/-- Behind a text without the first character of the separator stands the first separator. -/
theorem firstAt_of_not_mem {separator before : String} {c : Char} {others : List Char}
    (hseparator : separator.toList = c :: others) (h : c ∉ before.toList) (after : String) :
    FirstAt separator (before ++ separator ++ after) before after := by
  refine ⟨rfl, fun front back hspelled => ?_⟩
  refine Nat.le_of_not_lt fun hshort => ?_
  rw [← String.length_toList, ← String.length_toList] at hshort
  -- otherwise the separator after `front` would begin within `before`
  have hchars : before.toList ++ (c :: others ++ after.toList) =
      front.toList ++ (c :: others ++ back.toList) := by
    simpa [hseparator] using congrArg String.toList hspelled
  have hmem : (front.toList ++ (c :: others ++ back.toList))[front.toList.length]? = some c := by
    simp
  rw [← hchars, List.getElem?_append_left hshort] at hmem
  exact h (List.mem_of_getElem? hmem)

end Text

open Text

/-! ## Readings of a callback -/

namespace Callable

/-- The controller and the action that a callback is cut into, by the separator between them. -/
inductive CutInto (callback : String) : String → String → String → Prop where
  | at {controller action : String} (hfirst : FirstAt "@" callback controller action) :
    CutInto callback "@" controller action
  | colons {controller action : String} (hat : ¬ Occurs "@" callback)
    (hfirst : FirstAt "::" callback controller action) : CutInto callback "::" controller action

/-- A callback reads as a controller and an action with a separator between them.  Neither is empty,
and there is no `::` in the action. -/
structure Reads (callback separator controller action : String) : Prop where
  cut : CutInto callback separator controller action
  controller_ne : controller ≠ ""
  action_ne : action ≠ ""
  not_occurs : ¬ Occurs "::" action

/-- A callback is cut in one way. -/
theorem parts?_written_iff {callback controller action : String} :
    parts? (.written callback) = some (controller, action) ↔
      ∃ separator, CutInto callback separator controller action := by
  rw [parts?, Option.or_eq_some_iff, cut?_eq_some_iff_firstAt (by decide),
    cut?_eq_some_iff_firstAt (by decide), cut?_eq_none_iff_not_occurs (by decide)]
  constructor
  · rintro (hfirst | ⟨hat, hfirst⟩)
    · exact ⟨_, .at hfirst⟩
    · exact ⟨_, .colons hat hfirst⟩
  · rintro ⟨_, hfirst | ⟨hat, hfirst⟩⟩
    · exact .inl hfirst
    · exact .inr ⟨hat, hfirst⟩

theorem split_eq_ok_iff {handler : Callable} {controller action : String} :
    handler.split = .ok (controller, action) ↔ handler.parts? = some (controller, action) ∧
      controller ≠ "" ∧ action ≠ "" ∧ ¬ Occurs "::" action := by
  rw [← cut?_eq_none_iff_not_occurs (by decide), ← Option.isNone_iff_eq_none, split]
  split
  · next controller' action' hparts =>
    rw [hparts]
    split
    · next hparts =>
      constructor
      · rintro ⟨⟩
        exact ⟨rfl, hparts⟩
      · rintro ⟨⟨⟩, -⟩
        rfl
    · next hbad =>
      constructor
      · rintro ⟨⟩
      · rintro ⟨⟨⟩, hgood⟩
        exact absurd hgood hbad
  · next hparts => simp [hparts]

/-- A reference that is not accepted does not exist, by its text. -/
theorem eq_unknownHandler_of_split {handler : Callable} {fault : Fault}
    (h : handler.split = .error fault) : fault = .unknownHandler handler.text := by
  rw [split] at h
  split at h
  · split at h
    · cases h
    · exact (Except.error.inj h).symm
  · exact (Except.error.inj h).symm

/-- A callback is accepted exactly when it can be read. -/
theorem split_written_eq_ok_iff {callback controller action : String} :
    split (.written callback) = .ok (controller, action) ↔
      ∃ separator, Reads callback separator controller action := by
  rw [split_eq_ok_iff, parts?_written_iff]
  constructor
  · rintro ⟨⟨separator, hcut⟩, hcontroller, haction, hcolons⟩
    exact ⟨separator, hcut, hcontroller, haction, hcolons⟩
  · rintro ⟨separator, hcut, hcontroller, haction, hcolons⟩
    exact ⟨⟨separator, hcut⟩, hcontroller, haction, hcolons⟩

/-- A callback is read in one way at most. -/
theorem Reads.unique {callback separator separator' controller controller' action action' : String}
    (h : Reads callback separator controller action)
    (h' : Reads callback separator' controller' action') :
    separator = separator' ∧ controller = controller' ∧ action = action' := by
  have hsplit := split_written_eq_ok_iff.mpr ⟨_, h⟩
  have hsplit' := split_written_eq_ok_iff.mpr ⟨_, h'⟩
  have hparts : (controller, action) = (controller', action') :=
    Except.ok.inj (hsplit.symm.trans hsplit')
  refine ⟨?_, Prod.mk.inj hparts⟩
  -- `@` separates whenever there is one
  cases h.cut with
  | «at» hfirst =>
    cases h'.cut with
    | «at» _ => rfl
    | colons hat _ => exact absurd hfirst.occurs hat
  | colons hat _ =>
    cases h'.cut with
    | «at» hfirst => exact absurd hfirst.occurs hat
    | colons _ _ => rfl

/-- The separator between its parts gives the callback back. -/
theorem Reads.spelled {callback separator controller action : String}
    (h : Reads callback separator controller action) :
    callback = controller ++ separator ++ action := by
  cases h.cut with
  | «at» hfirst => exact hfirst.spelled
  | colons _ hfirst => exact hfirst.spelled

/-! ## Three spellings -/

/-- A name that no separator stands in, not even in part. -/
structure Plain (name : String) : Prop where
  ne_empty : name ≠ ""
  at_not_mem : '@' ∉ name.toList
  colon_not_mem : ':' ∉ name.toList

theorem Plain.not_occurs {name : String} (h : Plain name) : ¬ Occurs "::" name :=
  not_occurs_of_not_mem (c := ':') (by decide) h.colon_not_mem

theorem reads_at {controller action : String} (hcontroller : Plain controller)
    (haction : Plain action) :
    Reads (controller ++ "@" ++ action) "@" controller action where
  cut := .at (firstAt_of_not_mem rfl hcontroller.at_not_mem action)
  controller_ne := hcontroller.ne_empty
  action_ne := haction.ne_empty
  not_occurs := haction.not_occurs

theorem reads_colons {controller action : String} (hcontroller : Plain controller)
    (haction : Plain action) :
    Reads (controller ++ "::" ++ action) "::" controller action where
  cut := by
    refine .colons ?_ (firstAt_of_not_mem rfl hcontroller.colon_not_mem action)
    refine not_occurs_of_not_mem (c := '@') (by decide) ?_
    simp [hcontroller.at_not_mem, haction.at_not_mem]
  controller_ne := hcontroller.ne_empty
  action_ne := haction.ne_empty
  not_occurs := haction.not_occurs

/-- What the search for an action tells of its parameters; nothing if the action is not there. -/
def told : Except Fault (Option Sighting) → Option (Except Fault (List Parameter))
  | .error fault => some (.error fault)
  | .ok none => none
  | .ok (some sighting) => some (.ok (resolved sighting))

/-- The result for a reference, which does not exist by its own text if nothing is told. -/
def concluded (handler : Callable) (told : Option (Except Fault (List Parameter))) :
    Except Fault (List Parameter) :=
  told.getD (.error (.unknownHandler handler.text))

/-- References to the same controller and action.  On every source one search tells the parameters of
both, and where it tells nothing each does not exist by its own text. -/
structure Alike (first second : Callable) : Prop where
  split : first.split = second.split
  parameters : ∀ {m : Type → Type} [Monad m] [LawfulMonad m]
    (lookup : String → m (Except Fault Declaration)),
    ∃ search : m (Option (Except Fault (List Parameter))),
      first.parameters lookup = first.concluded <$> search ∧
        second.parameters lookup = second.concluded <$> search

theorem parameters_eq_concluded {m : Type → Type} [Monad m] [LawfulMonad m]
    (lookup : String → m (Except Fault Declaration)) {handler : Callable}
    {controller action : String} (hsplit : handler.split = .ok (controller, action)) :
    handler.parameters lookup =
      handler.concluded <$> told <$> Ancestry.find lookup controller action := by
  rw [parameters_of_split lookup hsplit, ← comp_map]
  congr 1
  funext found
  rcases found with fault | found | sighting <;> rfl

/-- What a reference leads to depends on its controller and its action only, but for its text. -/
theorem alike_of_split {first second : Callable} {controller action : String}
    (hfirst : first.split = .ok (controller, action))
    (hsecond : second.split = .ok (controller, action)) : Alike first second where
  split := hfirst.trans hsecond.symm
  parameters lookup := ⟨told <$> Ancestry.find lookup controller action,
    parameters_eq_concluded lookup hfirst, parameters_eq_concluded lookup hsecond⟩

/-- A callback is accepted exactly when it can be read, as the parts that it is read into, and with the
separator between them these are the callback; no callback can be read in two ways.  A reference that
is not accepted, as no closure is, does not exist by its text: a callback shows as it is written, a pair
with `::` between its parts, and a closure as a word in braces.  Plain names may be spelled with either
separator or as a pair. -/
theorem split_unambiguous :
    (∀ callback controller action, split (.written callback) = .ok (controller, action) ↔
      ∃ separator, Reads callback separator controller action) ∧
    (∀ callback separator controller action, Reads callback separator controller action →
      callback = controller ++ separator ++ action ∧
        ∀ separator' controller' action', Reads callback separator' controller' action' →
          separator = separator' ∧ controller = controller' ∧ action = action') ∧
    (∀ handler fault, split handler = .error fault → fault = .unknownHandler handler.text) ∧
    (∀ declared, split (.inline declared) = .error (.unknownHandler (text (.inline declared)))) ∧
    ((∀ callback, text (.written callback) = callback) ∧
      (∀ controller action, text (.apart controller action) = controller ++ "::" ++ action) ∧
      ∀ declared, text (.inline declared) = leftBrace ++ "closure" ++ rightBrace) ∧
    ∀ controller action, Plain controller → Plain action →
      split (.apart controller action) = .ok (controller, action) ∧
        Alike (.written (controller ++ "@" ++ action)) (.apart controller action) ∧
        Alike (.written (controller ++ "::" ++ action)) (.apart controller action) := by
  refine ⟨fun _ _ _ => split_written_eq_ok_iff,
    fun _ _ _ _ h => ⟨h.spelled, fun _ _ _ => h.unique⟩,
    fun _ _ => eq_unknownHandler_of_split, fun _ => rfl,
    ⟨fun _ => rfl, fun _ _ => rfl, fun _ => rfl⟩, ?_⟩
  intro controller action hcontroller haction
  have hapart : split (.apart controller action) = .ok (controller, action) :=
    split_eq_ok_iff.mpr ⟨rfl, hcontroller.ne_empty, haction.ne_empty, haction.not_occurs⟩
  have hat := split_written_eq_ok_iff.mpr ⟨_, reads_at hcontroller haction⟩
  have hcolons := split_written_eq_ok_iff.mpr ⟨_, reads_colons hcontroller haction⟩
  exact ⟨hapart, alike_of_split hat hapart, alike_of_split hcolons hapart⟩

/-- Two `@`, the plain names of an action in its three spellings, a callback with one `::` too many, and
a closure. -/
theorem split_unambiguous_of_index :
    split (.written "A@b@c") = .ok ("A", "b@c") ∧
      (∃ separator, Reads "A@b@c" separator "A" "b@c" ∧ "A@b@c" = "A" ++ separator ++ "b@c") ∧
      split (.written "C::a::b") = .error (.unknownHandler "C::a::b") ∧
      Fault.unknownHandler "C::a::b" = .unknownHandler (text (.written "C::a::b")) ∧
      split (.inline []) = .error (.unknownHandler (leftBrace ++ "closure" ++ rightBrace)) ∧
      split (.apart "App\\C" "index") = .ok ("App\\C", "index") ∧
      Alike (.written ("App\\C" ++ "@" ++ "index")) (.apart "App\\C" "index") ∧
      Alike (.written ("App\\C" ++ "::" ++ "index")) (.apart "App\\C" "index") := by
  obtain ⟨haccepted, hread, hrejected, hinline, ⟨-, -, hshown⟩, hspellings⟩ := split_unambiguous
  have htwice : split (.written "A@b@c") = .ok ("A", "b@c") := by decide +kernel
  obtain ⟨separator, hreads⟩ := (haccepted "A@b@c" "A" "b@c").mp htwice
  have hmalformed : split (.written "C::a::b") = .error (.unknownHandler "C::a::b") := by
    decide +kernel
  have hplain : Plain "App\\C" ∧ Plain "index" :=
    ⟨⟨by decide, by decide, by decide⟩, ⟨by decide, by decide, by decide⟩⟩
  exact ⟨htwice, ⟨separator, hreads, (hread _ _ _ _ hreads).1⟩, hmalformed,
    hrejected _ _ hmalformed, hshown [] ▸ hinline [], hspellings _ _ hplain.1 hplain.2⟩

end Callable

end Interception
