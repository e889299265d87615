import Interception.Proxy.Layout

/-!
# What a printed parameter list says

In a signature the type of a parameter, its signs, its name and its default run together, and so do the
parameters.  Types may hold blanks and `&`, defaults commas and ` = `.  Only one `$` stands in each
parameter, though, so the text between two of them ends one parameter and begins the next one.

Main statement: two parameter lists that are printed alike are equal.
-/

namespace Interception

/-! ## Where a character stands first or last -/

namespace Text

/-- What stands around the first place of a character is determined. -/
theorem append_cons_inj_first {mark : Char} {before before' after after' : List Char}
    (h : mark ∉ before) (h' : mark ∉ before')
    (heq : before ++ mark :: after = before' ++ mark :: after') :
    before = before' ∧ after = after' := by
  induction before generalizing before' with
  | nil =>
    cases before' with
    | nil => exact ⟨rfl, (List.cons.inj heq).2⟩
    | cons c rest' => exact absurd ((List.cons.inj heq).1 ▸ List.mem_cons_self) h'
  | cons c rest ih =>
    cases before' with
    | nil => exact absurd ((List.cons.inj heq).1 ▸ List.mem_cons_self) h
    | cons c' rest' =>
      obtain ⟨rfl, htail⟩ := List.cons.inj heq
      obtain ⟨rfl, hafter⟩ := ih (List.not_mem_of_not_mem_cons h)
        (List.not_mem_of_not_mem_cons h') htail
      exact ⟨rfl, hafter⟩

/-- What stands around the last place of a character is determined. -/
theorem append_cons_inj_last {mark : Char} {before before' after after' : List Char}
    (h : mark ∉ after) (h' : mark ∉ after')
    (heq : before ++ mark :: after = before' ++ mark :: after') :
    before = before' ∧ after = after' := by
  -- read from the back, the last place is the first
  have hback : after.reverse ++ mark :: before.reverse = after'.reverse ++ mark :: before'.reverse := by
    simpa using congrArg List.reverse heq
  obtain ⟨hafter, hbefore⟩ := append_cons_inj_first (by simpa using h) (by simpa using h') hback
  exact ⟨List.reverse_inj.mp hbefore, List.reverse_inj.mp hafter⟩

end Text

/-! ## Legible parameters -/

/-- The marks of a signature do not stand inside the parts of the parameter where they would mislead:
no blank, comma or `$` in its name, no comma or `$` in its type, no `$` in its default. -/
structure Parameter.Legible (parameter : Parameter) : Prop where
  name : ' ' ∉ parameter.name.toList ∧ ',' ∉ parameter.name.toList ∧ '$' ∉ parameter.name.toList
  hint : ∀ hint ∈ parameter.hint, ',' ∉ hint.toList ∧ '$' ∉ hint.toList
  default : ∀ default ∈ parameter.default, '$' ∉ default.toList

instance Parameter.decidableLegible (parameter : Parameter) : Decidable parameter.Legible :=
  decidable_of_iff
    ((' ' ∉ parameter.name.toList ∧ ',' ∉ parameter.name.toList ∧ '$' ∉ parameter.name.toList) ∧
      (∀ hint ∈ parameter.hint, ',' ∉ hint.toList ∧ '$' ∉ hint.toList) ∧
      ∀ default ∈ parameter.default, '$' ∉ default.toList)
    ⟨fun h => ⟨h.1, h.2.1, h.2.2⟩, fun h => ⟨h.name, h.hint, h.default⟩⟩

namespace Layout

open Text

/-! ## One parameter -/

/-- The signs in front of the `$`. -/
def signs (parameter : Parameter) : List Char :=
  (onlyIf parameter.byRef "&").toList ++ (onlyIf parameter.variadic "...").toList

/-- What stands in front of the `$`. -/
def front (parameter : Parameter) : List Char := (hintPart parameter.hint).toList ++ signs parameter

/-- What stands behind the `$`. -/
def back (parameter : Parameter) : List Char :=
  parameter.name.toList ++ (defaultPart parameter.default).toList

theorem toList_parameter (declared : Parameter) :
    (parameter declared).toList = front declared ++ '$' :: back declared := by
  simp [parameter, front, back, signs]

theorem not_mem_signs {c : Char} (parameter : Parameter) (hand : c ≠ '&') (hdot : c ≠ '.') :
    c ∉ signs parameter := by
  rw [signs]
  cases parameter.byRef <;> cases parameter.variadic <;> simp [onlyIf, hand, hdot]

/-- The signs tell how the argument is passed. -/
theorem signs_inj {first second : Parameter} (h : signs first = signs second) :
    first.byRef = second.byRef ∧ first.variadic = second.variadic := by
  have hforms : ∀ byRef variadic byRef' variadic' : Bool,
      (onlyIf byRef "&").toList ++ (onlyIf variadic "...").toList =
          (onlyIf byRef' "&").toList ++ (onlyIf variadic' "...").toList →
        byRef = byRef' ∧ variadic = variadic' := by decide
  exact hforms _ _ _ _ h

/-- A type ends at the last blank in front of the `$`, if there is one. -/
theorem hintPart_append_inj {hint hint' : Option String} {rest rest' : List Char} (hrest : ' ' ∉ rest)
    (hrest' : ' ' ∉ rest')
    (h : (hintPart hint).toList ++ rest = (hintPart hint').toList ++ rest') :
    hint = hint' ∧ rest = rest' := by
  have hblank : ∀ hint, ' ' ∈ (hintPart (some hint)).toList := by simp [hintPart]
  cases hint with
  | none =>
    cases hint' with
    | none => exact ⟨rfl, List.append_cancel_left h⟩
    | some hint' =>
      have hmem := List.mem_append_left rest' (hblank hint')
      rw [← h] at hmem
      exact absurd (by simpa [hintPart] using hmem) hrest
  | some hint =>
    cases hint' with
    | none =>
      have hmem := List.mem_append_left rest (hblank hint)
      rw [h] at hmem
      exact absurd (by simpa [hintPart] using hmem) hrest'
    | some hint' =>
      simp only [hintPart, String.toList_append, List.append_assoc] at h
      obtain ⟨hhint, hsame⟩ := append_cons_inj_last hrest hrest' h
      exact ⟨congrArg some (String.toList_inj.mp hhint), hsame⟩

/-- A default begins at the first blank behind the `$`, if there is one. -/
theorem append_defaultPart_inj {default default' : Option String} {name name' : List Char}
    (hname : ' ' ∉ name) (hname' : ' ' ∉ name')
    (h : name ++ (defaultPart default).toList = name' ++ (defaultPart default').toList) :
    name = name' ∧ default = default' := by
  have hblank : ∀ default, ' ' ∈ (defaultPart (some default)).toList := by simp [defaultPart]
  cases default with
  | none =>
    cases default' with
    | none => exact ⟨List.append_cancel_right h, rfl⟩
    | some default' =>
      have hmem := List.mem_append_right name' (hblank default')
      rw [← h] at hmem
      exact absurd (by simpa [defaultPart] using hmem) hname
  | some default =>
    cases default' with
    | none =>
      have hmem := List.mem_append_right name (hblank default)
      rw [h] at hmem
      exact absurd (by simpa [defaultPart] using hmem) hname'
    | some default' =>
      simp only [defaultPart, String.toList_append] at h
      obtain ⟨hsame, hrest⟩ := append_cons_inj_first hname hname' h
      have hdefault := (List.cons.inj (List.cons.inj hrest).2).2
      exact ⟨hsame, congrArg some (String.toList_inj.mp hdefault)⟩

/-- A parameter is told by what stands on both sides of its `$`. -/
theorem eq_of_front_eq_of_back_eq {first second : Parameter} (hfirst : first.Legible)
    (hsecond : second.Legible) (hfront : front first = front second)
    (hback : back first = back second) : first = second := by
  have hblank : ∀ parameter, ' ' ∉ signs parameter := fun parameter =>
    not_mem_signs parameter (by decide) (by decide)
  obtain ⟨hhint, hsigns⟩ := hintPart_append_inj (hblank first) (hblank second) hfront
  obtain ⟨hbyRef, hvariadic⟩ := signs_inj hsigns
  obtain ⟨hname, hdefault⟩ := append_defaultPart_inj hfirst.name.1 hsecond.name.1 hback
  rw [String.toList_inj] at hname
  cases first
  cases second
  simp_all only

/-- In front of the `$` there is no comma, and no other `$`. -/
theorem not_mem_front {parameter : Parameter} (h : parameter.Legible) :
    ',' ∉ front parameter ∧ '$' ∉ front parameter := by
  have hsigns := fun c => not_mem_signs (c := c) parameter
  rw [front]
  cases hhint : parameter.hint with
  | none => simp [hintPart, hsigns]
  | some hint =>
    obtain ⟨hcomma, hdollar⟩ := h.hint hint hhint
    simp [hintPart, hsigns, hcomma, hdollar]

/-- Behind the `$` there is no other one. -/
theorem not_mem_back {parameter : Parameter} (h : parameter.Legible) : '$' ∉ back parameter := by
  rw [back]
  cases hdefault : parameter.default with
  | none => simp [defaultPart, h.name.2.2]
  | some default => simp [defaultPart, h.name.2.2, h.default default hdefault]

/-! ## Parameter lists -/

/-- What follows a parameter in the list. -/
def further : List Parameter → List Char
  | [] => []
  | next :: others => ',' :: ' ' :: (parameters (next :: others)).toList

theorem toList_parameters_cons (first : Parameter) (others : List Parameter) :
    (parameters (first :: others)).toList = front first ++ '$' :: (back first ++ further others) := by
  cases others with
  | nil => simp [parameters, listed, further, toList_parameter]
  | cons next others => simp [parameters, listed, further, toList_parameter]

theorem further_cons (next : Parameter) (others : List Parameter) :
    further (next :: others) =
      ',' :: ' ' :: front next ++ '$' :: (back next ++ further others) := by
  rw [further, toList_parameters_cons]
  rfl

/-- A parameter ends at the last comma in front of the next `$`. -/
theorem back_append_further_inj {first second : Parameter} (hfirst : first.Legible)
    (hsecond : second.Legible) {others others' : List Parameter} (hothers : ∀ p ∈ others, p.Legible)
    (hothers' : ∀ p ∈ others', p.Legible)
    (h : back first ++ further others = back second ++ further others') :
    back first = back second ∧ parameters others = parameters others' := by
  cases others with
  | nil =>
    cases others' with
    | nil => exact ⟨List.append_cancel_right h, rfl⟩
    | cons next' rest' =>
      refine absurd ?_ (not_mem_back hfirst)
      rw [further, List.append_nil, further_cons] at h
      simp [h]
  | cons next rest =>
    cases others' with
    | nil =>
      refine absurd ?_ (not_mem_back hsecond)
      rw [further_cons, further, List.append_nil] at h
      simp [← h]
    | cons next' rest' =>
      obtain ⟨hcomma, hdollar⟩ := not_mem_front (hothers next List.mem_cons_self)
      obtain ⟨hcomma', hdollar'⟩ := not_mem_front (hothers' next' List.mem_cons_self)
      have hbetween : (back first ++ ',' :: ' ' :: front next) ++ '$' :: (back next ++ further rest) =
          (back second ++ ',' :: ' ' :: front next') ++ '$' :: (back next' ++ further rest') := by
        simpa only [further_cons, List.append_assoc, List.cons_append] using h
      obtain ⟨hends, hrest⟩ := append_cons_inj_first (by simp [not_mem_back hfirst, hdollar])
        (by simp [not_mem_back hsecond, hdollar']) hbetween
      obtain ⟨hback, hfront⟩ := append_cons_inj_last (by simpa using hcomma)
        (by simpa using hcomma') hends
      refine ⟨hback, ?_⟩
      rw [← String.toList_inj, toList_parameters_cons, toList_parameters_cons,
        (List.cons.inj hfront).2, hrest]

/-- Only the empty list is printed as nothing. -/
theorem parameters_cons_ne (first : Parameter) (others : List Parameter) :
    parameters (first :: others) ≠ parameters [] := by
  intro h
  have hchars : front first ++ '$' :: (back first ++ further others) = [] := by
    rw [← toList_parameters_cons, h]
    rfl
  exact List.cons_ne_nil _ _ (List.append_eq_nil_iff.mp hchars).2

/-- Parameter lists that are printed alike are equal: they have the same length and order, and each
parameter has the same name, type, default and signs. -/
theorem eq_of_parameters_eq {list list' : List Parameter} (hlist : ∀ p ∈ list, p.Legible)
    (hlist' : ∀ p ∈ list', p.Legible) (h : parameters list = parameters list') : list = list' := by
  induction list generalizing list' with
  | nil =>
    cases list' with
    | nil => rfl
    | cons first' others' => exact absurd h.symm (parameters_cons_ne first' others')
  | cons first others ih =>
    cases list' with
    | nil => exact absurd h (parameters_cons_ne first others)
    | cons first' others' =>
      obtain ⟨hfirst, hothers⟩ := List.forall_mem_cons.mp hlist
      obtain ⟨hfirst', hothers'⟩ := List.forall_mem_cons.mp hlist'
      have hchars := congrArg String.toList h
      rw [toList_parameters_cons, toList_parameters_cons] at hchars
      obtain ⟨hfront, hrest⟩ := append_cons_inj_first (not_mem_front hfirst).2
        (not_mem_front hfirst').2 hchars
      obtain ⟨hback, htexts⟩ := back_append_further_inj hfirst hfirst' hothers hothers' hrest
      rw [eq_of_front_eq_of_back_eq hfirst hfirst' hfront hback, ih hothers hothers' htexts]

/-- A parameter with an optional type and a default, one that is passed by reference, and one that takes
all further arguments. -/
def allForms : List Parameter :=
  [⟨"a", some "?int", some "f(1, 2)", false, false⟩, ⟨"b", some "A & B", none, true, false⟩,
    ⟨"rest", none, none, true, true⟩]

/-- Another list with the text of `allForms` is that list. -/
theorem eq_of_parameters_eq_allForms :
    (∀ p ∈ allForms, p.Legible) ∧
      parameters allForms = "?int $a = f(1, 2), A & B &$b, &...$rest" ∧
      parameters (allForms.take 1 ++ allForms.drop 1) = parameters allForms ∧
      allForms.take 1 ++ allForms.drop 1 = allForms := by
  have hlegible : ∀ p ∈ allForms, p.Legible := by decide
  have htext : parameters (allForms.take 1 ++ allForms.drop 1) = parameters allForms := by decide
  exact ⟨hlegible, by decide, htext, eq_of_parameters_eq (by decide) hlegible htext⟩

-- with a `$` in a name, one parameter can pass for two
example : parameters [⟨"a, $b", none, none, false, false⟩] =
    parameters [⟨"a", none, none, false, false⟩, ⟨"b", none, none, false, false⟩] := by
  decide

end Layout

end Interception
