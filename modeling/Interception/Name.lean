import Interception.Text.Alphanumeric
import Interception.Text.Case

/-!
# Qualified type names

A name is a chain of segments joined by `\`.  A leading `\` marks a name as absolute; stored names
carry none.  This module resolves names written inside a namespace, writes names relative to one,
and knows the words that name no declared type.  Main statements: normalizing is idempotent and takes
away the separators before a name and nothing else, and the namespace, the separator and the short
name of a name that has a separator are the whole name.
-/

namespace Interception.Name

open Interception.Text

/-- Stands between the segments of a name. -/
def separator : Char := '\\'

/-- The name without any leading separator. -/
def normalize (name : String) : String :=
  String.ofList (name.toList.dropWhile (· == separator))

/-- The characters before and after the last separator. -/
def cutLast : List Char → Option (List Char × List Char)
  | [] => none
  | c :: rest =>
    match cutLast rest with
    | some (space, short) => some (c :: space, short)
    | none => if c = separator then some ([], rest) else none

/-- All but the last segment; empty for a name of the global namespace. -/
def namespaceOf (name : String) : String :=
  match cutLast name.toList with
  | some (space, _) => String.ofList space
  | none => ""

/-- The last segment. -/
def shortOf (name : String) : String :=
  match cutLast name.toList with
  | some (_, short) => String.ofList short
  | none => name

/-- What `name` means when it is written inside `space`: a leading separator makes it absolute. -/
def qualify (name space : String) : String :=
  match name.toList with
  | '\\' :: absolute => String.ofList absolute
  | _ => if space = "" then name else space ++ "\\" ++ name

/-- How the type `name` is written inside `space`: short in its own namespace, absolute elsewhere. -/
def display (name space : String) : String :=
  if namespaceOf name = space then shortOf name else "\\" ++ name

/-- Words that stand for a primitive or a pseudo type. -/
def builtins : List String :=
  ["array", "bool", "callable", "false", "float", "int", "iterable", "mixed", "never", "null",
   "object", "parent", "self", "static", "string", "true", "void"]

/-- Whether `word` names a builtin, in any case, and so no declared type. -/
def isBuiltin (word : String) : Bool := builtins.any (sameLetters · word)

/-- The characters that names are made of. -/
def isNameChar (c : Char) : Bool := isAlphanumeric c || c == '_' || c == separator

theorem head?_normalize (name : String) : (normalize name).toList.head? ≠ some separator := by
  rw [normalize, String.toList_ofList]
  have h := List.head?_dropWhile_not (· == separator) name.toList
  intro hc
  rw [hc] at h
  simp at h

theorem normalize_of_head? {name : String} (h : name.toList.head? ≠ some separator) :
    normalize name = name := by
  unfold normalize
  cases hs : name.toList with
  | nil => simp [← String.toList_inj, hs]
  | cons c rest =>
    have hc : (c == separator) = false := by simpa [hs] using h
    rw [List.dropWhile_cons, hc]
    simp [← String.toList_inj, hs]

/-- Normalizing a normalized name changes nothing. -/
@[simp] theorem normalize_normalize (name : String) :
    normalize (normalize name) = normalize name := normalize_of_head? (head?_normalize name)

/-- The name with so many separators before it. -/
def led (count : Nat) (name : String) : String :=
  String.ofList (List.replicate count separator ++ name.toList)

theorem normalize_led (count : Nat) {name : String}
    (h : name.toList.head? ≠ some separator) : normalize (led count name) = name := by
  have hdrop : (List.replicate count separator ++ name.toList).dropWhile (· == separator) =
      name.toList.dropWhile (· == separator) :=
    List.dropWhile_append_of_pos fun c hc => by simp [List.eq_of_mem_replicate hc]
  calc normalize (led count name)
      = String.ofList (name.toList.dropWhile (· == separator)) := by
        rw [normalize, led, String.toList_ofList, hdrop]
    _ = name := normalize_of_head? h

theorem head?_led {count : Nat} (h : count ≠ 0) (name : String) :
    (led count name).toList.head? = some separator := by
  obtain ⟨below, rfl⟩ := Nat.exists_eq_succ_of_ne_zero h
  rw [led, String.toList_ofList]
  rfl

/-- `name` is what `written` is without the separators before it. -/
structure Bare (written name : String) : Prop where
  led : ∃ count, written = led count name
  head : name.toList.head? ≠ some separator

/-- Normalizing takes the separators before a name away, and nothing else. -/
theorem bare_iff {written name : String} : Bare written name ↔ normalize written = name := by
  constructor
  · rintro ⟨⟨count, rfl⟩, hhead⟩
    exact normalize_led count hhead
  · rintro rfl
    refine ⟨⟨(written.toList.takeWhile (· == separator)).length, ?_⟩, head?_normalize written⟩
    have hseparators : written.toList.takeWhile (· == separator) =
        List.replicate (written.toList.takeWhile (· == separator)).length separator :=
      List.eq_replicate_of_mem fun c hc => by simpa using List.all_eq_true.1 List.all_takeWhile c hc
    rw [← String.toList_inj, led, String.toList_ofList, ← hseparators, normalize,
      String.toList_ofList, List.takeWhile_append_dropWhile]

/-- The namespace and the short name, with the separator between them, are the name. -/
theorem cutLast_append {name space short : List Char} (h : cutLast name = some (space, short)) :
    space ++ separator :: short = name := by
  induction name generalizing space with
  | nil => simp [cutLast] at h
  | cons c rest ih =>
    rw [cutLast] at h
    split at h
    · next s t hrest =>
      cases h
      simp [ih hrest]
    · split at h
      · next hc =>
        cases h
        simp [hc]
      · cases h

/-- Only a text without separators cannot be cut. -/
theorem separator_not_mem_of_cutLast_eq_none {text : List Char} (h : cutLast text = none) :
    separator ∉ text := by
  induction text with
  | nil => simp
  | cons c rest ih =>
    rw [cutLast] at h
    split at h
    · cases h
    · next hrest =>
      by_cases hc : c = separator
      · simp [hc] at h
      · simp [ih hrest, Ne.symm hc]

/-- The short name holds no separator. -/
theorem separator_not_mem_short {name space short : List Char}
    (h : cutLast name = some (space, short)) : separator ∉ short := by
  induction name generalizing space with
  | nil => simp [cutLast] at h
  | cons c rest ih =>
    rw [cutLast] at h
    split at h
    · next s t hrest =>
      cases h
      exact ih hrest
    · next hrest =>
      split at h
      · cases h
        exact separator_not_mem_of_cutLast_eq_none hrest
      · cases h

end Interception.Name
