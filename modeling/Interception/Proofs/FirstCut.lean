import Interception.Text.Cut

/-!
# Where a text is cut

Main statement: a text is cut where the separator occurs first, and it is not cut exactly when the
separator does not occur in it.
-/

namespace Interception.Text

variable {separator text before after : List Char}

/-- A text that is not cut is not spelled with a separator in it. -/
theorem ne_append_of_cutChars_eq_none (hseparator : separator ≠ [])
    (h : cutChars separator text = none) (front back : List Char) :
    text ≠ front ++ separator ++ back := by
  induction text generalizing front with
  | nil =>
    intro hspelled
    apply hseparator
    exact (List.append_eq_nil_iff.mp (List.append_eq_nil_iff.mp hspelled.symm).1).2
  | cons c rest ih =>
    rw [cutChars] at h
    split at h
    · cases h
    · next hprefix =>
      rw [Option.map_eq_none_iff] at h
      intro hspelled
      cases front with
      | nil =>
        apply hprefix
        rw [List.isPrefixOf_iff_prefix, hspelled, List.nil_append]
        exact List.prefix_append separator back
      | cons d front => exact ih h front (List.cons.inj hspelled).2

/-- In front of the cut there is no separator, not even one that reaches into the one at the cut. -/
theorem length_le_of_cutChars (hcut : cutChars separator text = some (before, after))
    {front back : List Char} (hspelled : text = front ++ separator ++ back) :
    before.length ≤ front.length := by
  induction text generalizing before after front with
  | nil => cases hcut
  | cons c rest ih =>
    rw [cutChars] at hcut
    split at hcut
    · obtain ⟨rfl, -⟩ := Prod.mk.inj (Option.some.inj hcut)
      exact Nat.zero_le _
    · next hprefix =>
      obtain ⟨⟨short, long⟩, hrest, hparts⟩ := Option.map_eq_some_iff.mp hcut
      obtain ⟨rfl, -⟩ := Prod.mk.inj hparts
      cases front with
      | nil =>
        exfalso
        apply hprefix
        rw [List.isPrefixOf_iff_prefix, hspelled, List.nil_append]
        exact List.prefix_append separator back
      | cons d front =>
        have hlength := ih hrest (List.cons.inj hspelled).2
        simp only [List.length_cons]
        omega

/-- The characters are cut at the first separator. -/
theorem cutChars_eq_some_iff (hseparator : separator ≠ []) :
    cutChars separator text = some (before, after) ↔ text = before ++ separator ++ after ∧
      ∀ front back, text = front ++ separator ++ back → before.length ≤ front.length := by
  constructor
  · intro hcut
    exact ⟨(cutChars_append hcut).symm, fun front back => length_le_of_cutChars hcut⟩
  · rintro ⟨hspelled, hfirst⟩
    cases hcut : cutChars separator text with
    | none => exact absurd hspelled (ne_append_of_cutChars_eq_none hseparator hcut before after)
    | some parts =>
      -- of two places, neither lies in front of the other
      have hparts := cutChars_append hcut
      have hlength : parts.1.length = before.length :=
        Nat.le_antisymm (length_le_of_cutChars hcut hspelled) (hfirst _ _ hparts.symm)
      have hsame : parts.1 ++ (separator ++ parts.2) = before ++ (separator ++ after) := by
        rw [← List.append_assoc, ← List.append_assoc, hparts, hspelled]
      obtain ⟨hbefore, hrest⟩ := List.append_inj hsame hlength
      rw [← hbefore, ← List.append_cancel_left hrest]

/-- The text is cut at the first `separator`. -/
theorem cut?_eq_some_iff {separator text before after : String} (hseparator : separator ≠ "") :
    cut? separator text = some (before, after) ↔ text = before ++ separator ++ after ∧
      ∀ front back, text = front ++ separator ++ back → before.length ≤ front.length := by
  have hchars : separator.toList ≠ [] := fun h => hseparator (String.toList_eq_nil_iff.mp h)
  have hparts : cut? separator text = some (before, after) ↔
      cutChars separator.toList text.toList = some (before.toList, after.toList) := by
    rw [cut?, Option.map_eq_some_iff]
    constructor
    · rintro ⟨parts, hcut, hparts⟩
      obtain ⟨rfl, rfl⟩ := Prod.mk.inj hparts
      rw [hcut, String.toList_ofList, String.toList_ofList]
    · intro hcut
      exact ⟨_, hcut, by rw [String.ofList_toList, String.ofList_toList]⟩
  rw [hparts, cutChars_eq_some_iff hchars]
  constructor
  · rintro ⟨hspelled, hfirst⟩
    refine ⟨?_, fun front back h => ?_⟩
    · rw [← String.toList_inj, hspelled, String.toList_append, String.toList_append]
    · apply hfirst front.toList back.toList
      rw [h, String.toList_append, String.toList_append]
  · rintro ⟨hspelled, hfirst⟩
    refine ⟨?_, fun front back h => ?_⟩
    · rw [hspelled, String.toList_append, String.toList_append]
    · have hlength := hfirst (String.ofList front) (String.ofList back) (by
        rw [← String.toList_inj, h, String.toList_append, String.toList_append,
          String.toList_ofList, String.toList_ofList])
      rwa [String.length_ofList] at hlength

/-- A text is left whole exactly when it has no separator in it. -/
theorem cut?_eq_none_iff {separator text : String} (hseparator : separator ≠ "") :
    cut? separator text = none ↔ ∀ front back, text ≠ front ++ separator ++ back := by
  constructor
  · intro hcut front back hspelled
    have hchars : separator.toList ≠ [] := fun h => hseparator (String.toList_eq_nil_iff.mp h)
    rw [cut?, Option.map_eq_none_iff] at hcut
    apply ne_append_of_cutChars_eq_none hchars hcut front.toList back.toList
    rw [hspelled, String.toList_append, String.toList_append]
  · intro hwhole
    cases hcut : cut? separator text with
    | none => rfl
    | some parts => exact absurd ((cut?_eq_some_iff hseparator).mp hcut).1 (hwhole parts.1 parts.2)

end Interception.Text
