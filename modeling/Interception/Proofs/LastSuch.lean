import Mathlib.Data.List.Basic

/-!
# The last of a list that has a property

Of what comes one after the other, often only the last one of a kind counts: the last declaration of a
name, the last assignment to an aspect, the last binding of a type.  Main statement: what is the last one
after one more has come.
-/

namespace Interception

variable {α : Type} {p : α → Prop} {list : List α} {a next : α}

/-- `a` has the property, and nothing behind it has. -/
def LastSuch (p : α → Prop) (list : List α) (a : α) : Prop :=
  ∃ before after, list = before ++ a :: after ∧ p a ∧ ∀ later ∈ after, ¬p later

/-- Seen from behind it is the first one. -/
theorem lastSuch_iff [DecidablePred p] : LastSuch p list a ↔ list.reverse.find? (p ·) = some a := by
  rw [List.find?_eq_some_iff_append, LastSuch]
  constructor
  · rintro ⟨before, after, rfl, ha, hafter⟩
    exact ⟨by simpa using ha, after.reverse, before.reverse, by simp, by simpa using hafter⟩
  · rintro ⟨ha, after, before, hlist, hafter⟩
    refine ⟨before.reverse, after.reverse, ?_, by simpa using ha, by simpa using hafter⟩
    rw [← List.reverse_inj, hlist]
    simp

theorem not_lastSuch_nil : ¬LastSuch p [] a := by
  rintro ⟨before, after, hnil, -⟩
  simp at hnil

/-- With one more, this is the last one if it has the property; otherwise the last one is as before. -/
theorem lastSuch_concat_iff :
    LastSuch p (list ++ [next]) a ↔ p next ∧ next = a ∨ ¬p next ∧ LastSuch p list a := by
  classical
  rw [lastSuch_iff, lastSuch_iff, List.reverse_concat, List.find?_cons]
  by_cases hnext : p next <;> simp [hnext]

end Interception
