import Interception.Proxy.Constructor

/-!
# Names moved between namespaces

A name is resolved in the namespace it was written in, and what it means there is written anew for
another namespace: short in its own, absolute elsewhere.  Main statements: the text that comes out is
again one class name, and it means the same, unless what it means is a name of the new namespace that
ends with a separator; of that one nothing would be left.
-/

namespace Interception.Name

open Interception.Text

/-! ## The last segment -/

theorem cutLast_eq_none_iff {text : List Char} : cutLast text = none ↔ separator ∉ text := by
  constructor
  · exact separator_not_mem_of_cutLast_eq_none
  · intro h
    cases hcut : cutLast text with
    | none => rfl
    | some halves =>
      have hname := cutLast_append hcut
      exact absurd (hname ▸ List.mem_append_right _ List.mem_cons_self) h

/-- A text is cut at the separator that no other one follows. -/
theorem cutLast_eq_some_iff {name space short : List Char} :
    cutLast name = some (space, short) ↔ name = space ++ separator :: short ∧ separator ∉ short := by
  constructor
  · intro h
    exact ⟨(cutLast_append h).symm, separator_not_mem_short h⟩
  · rintro ⟨rfl, hshort⟩
    induction space with
    | nil => rw [List.nil_append, cutLast, cutLast_eq_none_iff.mpr hshort]; exact if_pos rfl
    | cons c rest ih => rw [List.cons_append, cutLast, ih]

/-- A name either has a separator before its last segment, or it is the last segment. -/
theorem namespaceOf_append_shortOf (name : String) :
    (name = namespaceOf name ++ "\\" ++ shortOf name ∨ namespaceOf name = "" ∧ shortOf name = name) ∧
      separator ∉ (shortOf name).toList := by
  unfold namespaceOf shortOf
  cases hcut : cutLast name.toList with
  | none => exact ⟨.inr ⟨rfl, rfl⟩, cutLast_eq_none_iff.mp hcut⟩
  | some halves =>
    obtain ⟨hname, hshort⟩ := cutLast_eq_some_iff.mp hcut
    refine ⟨.inl ?_, by simpa using hshort⟩
    rw [← String.toList_inj, hname]
    simp [separator]

/-- What stands before a separator has no part in the last segment. -/
theorem shortOf_append (front back : String) : shortOf (front ++ "\\" ++ back) = shortOf back := by
  have htext : (front ++ "\\" ++ back).toList = front.toList ++ separator :: back.toList := by
    simp [separator]
  unfold shortOf
  rw [htext]
  cases hcut : cutLast back.toList with
  | none =>
    rw [cutLast_eq_some_iff.mpr ⟨rfl, cutLast_eq_none_iff.mp hcut⟩]
    exact String.ofList_toList
  | some halves =>
    obtain ⟨hback, hshort⟩ := cutLast_eq_some_iff.mp hcut
    have hwhole : cutLast (front.toList ++ separator :: back.toList) =
        some (front.toList ++ separator :: halves.1, halves.2) :=
      cutLast_eq_some_iff.mpr ⟨by simp [hback], hshort⟩
    rw [hwhole]

/-! ## Resolved names -/

theorem qualify_absolute (name space : String) : qualify ("\\" ++ name) space = name := by
  simp [qualify]

theorem qualify_relative {name : String} (h : name.toList.head? ≠ some separator) (space : String) :
    qualify name space = if space = "" then name else space ++ "\\" ++ name := by
  unfold qualify
  split
  · next absolute hname =>
    rw [hname] at h
    exact absurd rfl h
  · rfl

/-- A name starts with a separator or it does not. -/
theorem leading_cases (name : String) :
    (∃ rest, name = "\\" ++ rest) ∨ name.toList.head? ≠ some separator := by
  by_cases h : name.toList.head? = some separator
  · obtain ⟨rest, hrest⟩ := List.head?_eq_some_iff.mp h
    refine .inl ⟨String.ofList rest, ?_⟩
    rw [← String.toList_inj, hrest]
    simp [separator]
  · exact .inr h

/-- Resolving a name changes nothing about its last segment. -/
theorem shortOf_qualify (name space : String) : shortOf (qualify name space) = shortOf name := by
  rcases leading_cases name with ⟨rest, rfl⟩ | hrelative
  · rw [qualify_absolute, ← String.empty_append (s := "\\"), shortOf_append]
  · rw [qualify_relative hrelative]
    split
    · rfl
    · exact shortOf_append _ _

/-- In its own namespace the last segment of a name stands for the name. -/
theorem qualify_shortOf {name : String} (hhead : name.toList.head? ≠ some separator) :
    qualify (shortOf name) (namespaceOf name) = name := by
  obtain ⟨hparts, hshort⟩ := namespaceOf_append_shortOf name
  have hrelative : (shortOf name).toList.head? ≠ some separator :=
    fun hc => hshort (List.mem_of_mem_head? hc)
  rw [qualify_relative hrelative]
  rcases hparts with hwhole | ⟨hglobal, hwhole⟩
  · rw [if_neg, ← hwhole]
    -- with nothing before its separator the name would start with one
    intro hempty
    rw [hwhole, hempty] at hhead
    simp [separator] at hhead
  · rw [if_pos hglobal, hwhole]

/-- A name as it is displayed in a namespace stands for the name there. -/
theorem qualify_display {name : String} (hhead : name.toList.head? ≠ some separator)
    (space : String) : qualify (display name space) space = name := by
  rw [display]
  split
  · next hspace =>
    rw [← hspace]
    exact qualify_shortOf hhead
  · exact qualify_absolute _ _

theorem isNameChar_separator : isNameChar separator = true := by decide

/-- A name of name characters that does not start with a separator, as declarations carry it. -/
structure Proper (name : String) : Prop where
  chars : ∀ c ∈ name.toList, isNameChar c = true
  head : name.toList.head? ≠ some separator

instance (name : String) : Decidable (Proper name) :=
  decidable_of_iff (name.toList.all isNameChar = true ∧ name.toList.head? ≠ some separator)
    ⟨fun ⟨hchars, hhead⟩ => ⟨List.all_eq_true.mp hchars, hhead⟩,
      fun ⟨hchars, hhead⟩ => ⟨List.all_eq_true.mpr hchars, hhead⟩⟩

/-- A text that reads as one class name or builtin. -/
structure IsRun (text : List Char) : Prop where
  nonempty : text ≠ []
  chars : ∀ c ∈ text, isNameChar c = true

/-- The namespace of a proper name is one. -/
theorem Proper.namespaceOf {name : String} (h : Proper name) : Proper (namespaceOf name) := by
  rcases (namespaceOf_append_shortOf name).1 with hname | ⟨hempty, -⟩
  · have htext : name.toList =
        (Name.namespaceOf name).toList ++ separator :: (shortOf name).toList := by
      simpa [separator] using congrArg String.toList hname
    have hchars := h.chars
    have hhead := h.head
    rw [htext] at hchars hhead
    refine ⟨fun c hc => hchars c (List.mem_append_left _ hc), fun hc => hhead ?_⟩
    rw [List.head?_append, hc]
    rfl
  · rw [hempty]
    exact ⟨by simp, by simp⟩

/-! ## Moved names -/

/-- A class name that can be moved: it has at most one leading separator, its last segment is no
builtin, and if what it means belongs to the namespace `target`, that segment is not empty. -/
structure Movable (source target name : String) : Prop where
  leading : ¬ "\\\\".toList <+: name.toList
  word : isBuiltin (shortOf name) = false
  short : Name.namespaceOf (qualify name source) = target → shortOf name ≠ ""

instance (source target name : String) : Decidable (Movable source target name) :=
  decidable_of_iff (¬ "\\\\".toList <+: name.toList ∧ isBuiltin (shortOf name) = false ∧
      (Name.namespaceOf (qualify name source) = target → shortOf name ≠ ""))
    ⟨fun ⟨hleading, hword, hshort⟩ => ⟨hleading, hword, hshort⟩,
      fun ⟨hleading, hword, hshort⟩ => ⟨hleading, hword, hshort⟩⟩

variable {source target name : String}

/-- What a name with at most one leading separator means does not start with one. -/
theorem head?_qualify (hleading : ¬ "\\\\".toList <+: name.toList) (hsource : Proper source) :
    (qualify name source).toList.head? ≠ some separator := by
  rcases leading_cases name with ⟨rest, rfl⟩ | hrelative
  · rw [qualify_absolute]
    intro hrest
    obtain ⟨others, hothers⟩ := List.head?_eq_some_iff.mp hrest
    refine hleading ⟨others, ?_⟩
    simp [hothers, separator]
  · rw [qualify_relative hrelative]
    split
    · exact hrelative
    · next hspace =>
      have hhead := hsource.head
      cases hlist : source.toList with
      | nil => exact absurd (String.toList_inj.mp hlist) hspace
      | cons c rest => simpa [hlist] using hhead

theorem chars_qualify (hsource : Proper source) (hname : ∀ c ∈ name.toList, isNameChar c = true) :
    ∀ c ∈ (qualify name source).toList, isNameChar c = true := by
  rcases leading_cases name with ⟨rest, rfl⟩ | hrelative
  · rw [qualify_absolute]
    intro c hc
    exact hname c (by simp [hc])
  · rw [qualify_relative hrelative]
    split
    · exact hname
    · intro c hc
      have hsplit : c ∈ source.toList ∨ c = separator ∨ c ∈ name.toList := by
        simpa [separator, or_assoc] using hc
      rcases hsplit with hfront | rfl | hback
      · exact hsource.chars c hfront
      · exact isNameChar_separator
      · exact hname c hback

/-- No builtin has a separator in it. -/
theorem isBuiltin_eq_false_of_separator {word : String} (h : separator ∈ word.toList) :
    isBuiltin word = false := by
  have hwords : ∀ builtin ∈ builtins, separator ∉ lowered builtin := by decide
  have hlowered : separator ∈ lowered word := List.mem_map.mpr ⟨separator, h, by decide⟩
  rw [isBuiltin, List.any_eq_false]
  intro builtin hmem hsame
  rw [sameLetters_iff] at hsame
  exact hwords builtin hmem (hsame ▸ hlowered)

/-- A moved name means in the new namespace what the name meant in the old one. -/
theorem Movable.qualify_moved (h : Movable source target name) (hsource : Proper source) :
    qualify (moved source target name) target = qualify name source :=
  qualify_display (head?_qualify h.leading hsource) target

/-- A moved name reads as one name again. -/
theorem Movable.isRun_moved (h : Movable source target name) (hsource : Proper source)
    (hname : ∀ c ∈ name.toList, isNameChar c = true) : IsRun (moved source target name).toList := by
  have hqualified := chars_qualify hsource hname
  rw [moved, display]
  split
  · next hspace =>
    refine ⟨?_, fun c hc => hqualified c ?_⟩
    · rw [shortOf_qualify, ← String.toList_empty, ne_eq, String.toList_inj]
      exact h.short hspace
    · rcases (namespaceOf_append_shortOf (qualify name source)).1 with hwhole | ⟨-, hwhole⟩
      · rw [hwhole]
        simp [hc]
      · rwa [hwhole] at hc
  · refine ⟨by simp, fun c hc => ?_⟩
    have hsplit : c = separator ∨ c ∈ (qualify name source).toList := by
      simpa [separator] using hc
    rcases hsplit with rfl | hrest
    · exact isNameChar_separator
    · exact hqualified c hrest

/-- A moved name is not taken for a builtin. -/
theorem Movable.isBuiltin_moved (h : Movable source target name) :
    isBuiltin (moved source target name) = false := by
  rw [moved, display]
  split
  · rw [shortOf_qualify]
    exact h.word
  · exact isBuiltin_eq_false_of_separator (by simp [separator])

end Interception.Name
