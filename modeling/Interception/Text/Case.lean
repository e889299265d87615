/-!
# Comparing without regard to ASCII case

Only the letters `A` to `Z` have a second form; every other character stands for itself.  Main
statement: the comparison is an equivalence.
-/

namespace Interception.Text

/-- The text with `A` to `Z` in lower case. -/
def lowered (text : String) : List Char := text.toList.map Char.toLower

/-- Equality up to the case of ASCII letters. -/
def sameLetters (a b : String) : Bool := lowered a == lowered b

@[simp] theorem sameLetters_iff {a b : String} :
    sameLetters a b = true ↔ lowered a = lowered b := beq_iff_eq

theorem sameLetters_refl (a : String) : sameLetters a a = true := by simp

theorem sameLetters_comm (a b : String) : sameLetters a b = sameLetters b a := by
  rw [Bool.eq_iff_iff, sameLetters_iff, sameLetters_iff]
  exact eq_comm

theorem sameLetters_trans {a b c : String} (hab : sameLetters a b = true)
    (hbc : sameLetters b c = true) : sameLetters a c = true := by
  rw [sameLetters_iff] at *
  exact hab.trans hbc

end Interception.Text
