import Interception.Proofs.QualifiedNames

/-!
# Classes in front of default values

A default value may begin with a class, as in `C::rest` or `new C rest`.  Main statements: the class
that is found there is the one that the text can be put together from, and there is at most one; a
default that is written for another namespace keeps its form and the text after the class, and the
class keeps its meaning.
-/

namespace Interception

open Name Text

/-- White space is not part of a name. -/
theorem Name.isNameChar_eq_false_of_isBlank {c : Char} (h : isBlank c = true) :
    isNameChar c = false := by
  have hblanks : ∀ code ∈ [9, 10, 11, 12, 13, 0x20, 0x85, 0xa0, 0x1680, 0x2000, 0x2001, 0x2002, 0x2003,
      0x2004, 0x2005, 0x2006, 0x2007, 0x2008, 0x2009, 0x200a, 0x2028, 0x2029, 0x202f, 0x205f, 0x3000],
      isNameChar (Char.ofNat code) = false := by decide +kernel
  rw [← Char.ofNat_toNat c]
  apply hblanks
  simp only [isBlank, Bool.or_eq_true, Bool.and_eq_true, beq_iff_eq, decide_eq_true_eq] at h
  simp only [List.mem_cons, List.not_mem_nil, or_false]
  omega

namespace LeadingClass

/-! ## What is found -/

/-- The value that begins with this class, with `blanks` after the keyword if it is a new instance. -/
def text (found : LeadingClass) (blanks : List Char) : List Char :=
  (if found.isNew then "new ".toList ++ blanks else []) ++ found.name ++ found.rest

/-- A class that can stand in front of a value: its name goes on up to the rest and does not start with
a digit, and without the keyword two colons follow it. -/
structure Fronts (found : LeadingClass) : Prop where
  run : IsRun found.name
  digit : ∀ c ∈ found.name.head?, c.isDigit = false
  ending : ∀ c ∈ found.rest.head?, isNameChar c = false
  colons : found.isNew = false → "::".toList <+: found.rest

/-- `value` begins with the class `found`, with `blanks` after the keyword. -/
structure Reads (found : LeadingClass) (blanks value : List Char) : Prop extends Fronts found where
  blank : allBlank blanks = true
  spelled : value = found.text blanks

/-- Name characters up to another one are taken off together. -/
theorem span_run {run rest : List Char} (hrun : ∀ c ∈ run, isNameChar c = true)
    (hend : ∀ c ∈ rest.head?, isNameChar c = false) :
    (run ++ rest).takeWhile isNameChar = run ∧ (run ++ rest).dropWhile isNameChar = rest := by
  rw [List.takeWhile_append_of_pos hrun, List.dropWhile_append_of_pos hrun]
  cases rest with
  | nil => simp
  | cons c rest =>
    have hc : isNameChar c = false := hend c rfl
    simp [hc]

/-- White space in front of a name is dropped. -/
theorem trimStart_append {blanks run rest : List Char} (hblank : allBlank blanks = true)
    (hrun : IsRun run) : trimStart (blanks ++ (run ++ rest)) = run ++ rest := by
  have hblanks : ∀ c ∈ blanks, isBlank c = true := List.all_eq_true.mp hblank
  rw [trimStart, List.dropWhile_append_of_pos hblanks]
  cases run with
  | nil => exact absurd rfl hrun.nonempty
  | cons c run =>
    have hname : isNameChar c = true := hrun.chars c List.mem_cons_self
    have hc : isBlank c = false := by
      cases hblank : isBlank c with
      | false => rfl
      | true => rw [isNameChar_eq_false_of_isBlank hblank] at hname; cases hname
    rw [List.cons_append, List.dropWhile_cons, hc]
    rfl

/-- What is found when the keyword and the white space after it have been taken off. -/
theorem find?_eq_some_iff_fronts {value : List Char} {found : LeadingClass} :
    find? value = some found ↔ found.Fronts ∧ found.isNew = "new ".toList.isPrefixOf value ∧
      (if "new ".toList.isPrefixOf value then trimStart (value.drop 4) else value) =
        found.name ++ found.rest := by
  simp only [find?]
  generalize (if "new ".toList.isPrefixOf value = true then trimStart (value.drop 4) else value) =
    expression
  generalize "new ".toList.isPrefixOf value = isNew
  constructor
  · intro h
    split at h
    · cases h
    · next hname =>
      split at h
      · cases h
      · next hcolons =>
        split at h
        · cases h
        · next hdigit =>
          cases h
          refine ⟨⟨⟨hname, fun c hc => ?_⟩, fun c hc => ?_, fun c hc => ?_, fun hnew => ?_⟩, rfl, ?_⟩
          · exact List.all_eq_true.mp List.all_takeWhile c hc
          · rw [Option.mem_def.mp hc] at hdigit
            simpa using hdigit
          · have hstop := List.head?_dropWhile_not isNameChar expression
            rw [Option.mem_def.mp hc] at hstop
            simpa using hstop
          · dsimp only at hnew
            rw [hnew] at hcolons
            simpa using hcolons
          · exact List.takeWhile_append_dropWhile.symm
  · rintro ⟨⟨hrun, hdigit, hend, hcolons⟩, rfl, rfl⟩
    obtain ⟨hname, hrest⟩ := span_run hrun.chars hend
    rw [hname, hrest, if_neg hrun.nonempty, if_neg, if_neg]
    · cases hhead : found.name.head? with
      | none => simp
      | some c => simpa using hdigit c hhead
    · cases hnew : found.isNew with
      | true => simp
      | false => simpa using hcolons hnew

/-- The class that is looked for is the one that the value begins with. -/
theorem find?_eq_some_iff {value : List Char} {found : LeadingClass} :
    find? value = some found ↔ ∃ blanks, found.Reads blanks value := by
  rw [find?_eq_some_iff_fronts]
  constructor
  · rintro ⟨hfronts, hnew, hexpression⟩
    by_cases hprefix : "new ".toList.isPrefixOf value = true
    · rw [if_pos hprefix] at hexpression
      obtain ⟨tail, rfl⟩ := List.isPrefixOf_iff_prefix.mp hprefix
      have htail : tail.dropWhile isBlank = found.name ++ found.rest := hexpression
      refine ⟨tail.takeWhile isBlank, hfronts, List.all_takeWhile, ?_⟩
      rw [text, hnew, hprefix, if_pos rfl, List.append_assoc, List.append_assoc, ← htail,
        List.takeWhile_append_dropWhile]
    · rw [if_neg hprefix] at hexpression
      refine ⟨[], hfronts, rfl, ?_⟩
      rw [text, hnew, if_neg hprefix, List.nil_append, hexpression]
  · rintro ⟨blanks, hfronts, hblank, rfl⟩
    refine ⟨hfronts, ?_⟩
    rw [text]
    cases hnew : found.isNew with
    | true =>
      have hprefix : "new ".toList.isPrefixOf
          ("new ".toList ++ blanks ++ found.name ++ found.rest) = true := by
        rw [List.isPrefixOf_iff_prefix, List.append_assoc, List.append_assoc]
        exact List.prefix_append _ _
      rw [if_pos rfl, hprefix, if_pos rfl, List.append_assoc, List.append_assoc]
      exact ⟨rfl, trimStart_append hblank hfronts.run⟩
    | false =>
      have hprefix : "new ".toList.isPrefixOf (found.name ++ found.rest) = false := by
        rw [Bool.eq_false_iff]
        intro hprefix
        -- after its name the value has a colon, and after the keyword it would have a blank
        obtain ⟨tail, htail⟩ := List.isPrefixOf_iff_prefix.mp hprefix
        obtain ⟨more, hrest⟩ := hfronts.colons hnew
        have hkeyword : ("new".toList ++ ' ' :: tail).dropWhile isNameChar = ' ' :: tail :=
          (span_run (List.all_eq_true.mp (by decide)) (by simp; decide)).2
        have hname := (span_run hfronts.run.chars hfronts.ending).2
        have hends : ' ' :: tail = "::".toList ++ more := by
          rw [← hkeyword, hrest, ← hname, ← htail]
          rfl
        cases hends
      rw [if_neg Bool.false_ne_true, List.nil_append, hprefix, if_neg Bool.false_ne_true]
      exact ⟨rfl, rfl⟩

/-- No class is found where the value begins with none. -/
theorem find?_eq_none_iff {value : List Char} :
    find? value = none ↔ ∀ found blanks, ¬ Reads found blanks value := by
  rw [Option.eq_none_iff_forall_ne_some]
  constructor
  · intro h found blanks hreads
    exact h found (find?_eq_some_iff.mpr ⟨blanks, hreads⟩)
  · intro h found hfound
    obtain ⟨blanks, hreads⟩ := find?_eq_some_iff.mp hfound
    exact h found blanks hreads

end LeadingClass

/-! ## Moved defaults -/

/-- What a default value of a type `owner` becomes in the namespace `target`. -/
inductive DefaultRestates (owner target : String) : String → String → Prop where
  /-- A class keeps its meaning, and the text after it stays; white space before it may go. -/
  | named {found : LeadingClass} {blanks blanks' name' : List Char} {value value' : String}
    (hreads : found.Reads blanks value.toList) (hclass : isBuiltin (String.ofList found.name) = false)
    (hspelled : value'.toList = LeadingClass.text { found with name := name' } blanks')
    (hblanks : blanks' = [] ∨ blanks' = blanks)
    (hrun : IsRun name') (hclass' : isBuiltin (String.ofList name') = false)
    (hmeans : qualify (String.ofList name') target =
      qualify (String.ofList found.name) (namespaceOf owner)) :
    DefaultRestates owner target value value'
  /-- `self` becomes the name of the owner, unless the namespace is its own; no other word that
  stands for a class is touched. -/
  | pseudo {found : LeadingClass} {blanks blanks' name' : List Char} {value value' : String}
    (hreads : found.Reads blanks value.toList) (hword : isBuiltin (String.ofList found.name) = true)
    (hspelled : value'.toList = LeadingClass.text { found with name := name' } blanks')
    (hblanks : blanks' = [] ∨ blanks' = blanks)
    (hname : name' = if sameLetters (String.ofList found.name) "self" ∧ namespaceOf owner ≠ target
      then ("\\" ++ owner).toList else found.name) :
    DefaultRestates owner target value value'
  /-- A value that begins with no class stays as it is. -/
  | other {value : String} (hother : ∀ found blanks, ¬ LeadingClass.Reads found blanks value.toList) :
    DefaultRestates owner target value value

variable {owner target value : String}

/-- In its own namespace a default value means the same as it stands. -/
theorem DefaultRestates.refl (hsame : namespaceOf owner = target) :
    DefaultRestates owner target value value := by
  cases hfind : LeadingClass.find? value.toList with
  | none => exact .other (LeadingClass.find?_eq_none_iff.mp hfind)
  | some found =>
    obtain ⟨blanks, hreads⟩ := LeadingClass.find?_eq_some_iff.mp hfind
    cases hword : isBuiltin (String.ofList found.name) with
    | false => exact .named hreads hword hreads.spelled (.inr rfl) hreads.run hword (by rw [hsame])
    | true =>
      have hkept : ¬ (sameLetters (String.ofList found.name) "self" ∧ namespaceOf owner ≠ target) :=
        fun h => h.2 hsame
      exact .pseudo hreads hword hreads.spelled (.inr rfl) (if_neg hkept).symm

/-- A value put together anew, with one blank after the keyword. -/
theorem LeadingClass.toList_respelled (found : LeadingClass) (name : String) :
    ((if found.isNew then "new " else "") ++ name ++ String.ofList found.rest).toList =
      text { found with name := name.toList } [] := by
  rw [text, String.toList_append, String.toList_append, String.toList_ofList]
  cases found.isNew <;> rfl

/-- A class name is not taken for the keyword that stands for the owner. -/
theorem sameLetters_self_eq_false {name : String} (h : isBuiltin name = false) :
    sameLetters name "self" = false := by
  rw [Bool.eq_false_iff, sameLetters_comm]
  intro hself
  have hbuiltin : isBuiltin name = true := List.any_eq_true.mpr ⟨"self", by decide, hself⟩
  rw [h] at hbuiltin
  cases hbuiltin

/-- A default value that is written for another namespace. -/
theorem movedDefault_restates (howner : Proper owner) (hother : namespaceOf owner ≠ target)
    (hmovable : ∀ found blanks, LeadingClass.Reads found blanks value.toList →
      isBuiltin (String.ofList found.name) = false →
        Movable (namespaceOf owner) target (String.ofList found.name)) :
    DefaultRestates owner target value (movedDefault owner target value) := by
  cases hfind : LeadingClass.find? value.toList with
  | none =>
    rw [movedDefault, hfind]
    exact .other (LeadingClass.find?_eq_none_iff.mp hfind)
  | some found =>
    obtain ⟨blanks, hreads⟩ := LeadingClass.find?_eq_some_iff.mp hfind
    rw [movedDefault, hfind]
    dsimp only
    cases hword : isBuiltin (String.ofList found.name) with
    | false =>
      have hname := hmovable found blanks hreads hword
      have hchars : ∀ c ∈ (String.ofList found.name).toList, isNameChar c = true := by
        rw [String.toList_ofList]
        exact hreads.run.chars
      rw [sameLetters_self_eq_false hword, if_neg Bool.false_ne_true, if_neg Bool.false_ne_true]
      refine .named hreads hword (found.toList_respelled _) (.inl rfl)
        (hname.isRun_moved howner.namespaceOf hchars) ?_ ?_
      · rw [String.ofList_toList]
        exact hname.isBuiltin_moved
      · rw [String.ofList_toList]
        exact hname.qualify_moved howner.namespaceOf
    | true =>
      refine .pseudo hreads hword (found.toList_respelled _) (.inl rfl) ?_
      by_cases hself : sameLetters (String.ofList found.name) "self" = true
      · rw [if_pos hself, if_pos ⟨hself, hother⟩, display, if_neg hother]
      · rw [if_neg hself, if_pos rfl, if_neg fun h => hself h.1, String.toList_ofList]

end Interception
