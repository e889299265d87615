/-!
# White space

The 25 characters of the Unicode property White_Space, and what is left of a text without them at
its ends.  Main statements: trimming keeps no blank at either end, and a text trims to nothing
exactly when it is blank throughout.
-/

namespace Interception.Text

/-- The property White_Space. -/
def isBlank (c : Char) : Bool :=
  (9 ≤ c.toNat && c.toNat ≤ 13) || c.toNat == 0x20 || c.toNat == 0x85 || c.toNat == 0xa0
    || c.toNat == 0x1680 || (0x2000 ≤ c.toNat && c.toNat ≤ 0x200a) || c.toNat == 0x2028
    || c.toNat == 0x2029 || c.toNat == 0x202f || c.toNat == 0x205f || c.toNat == 0x3000

/-- A line is blank when it holds white space only. -/
def allBlank (text : List Char) : Bool := text.all isBlank

/-- Drops the white space in front. -/
def trimStart (text : List Char) : List Char := text.dropWhile isBlank

/-- Drops the white space at both ends. -/
def trim (text : List Char) : List Char := (trimStart (trimStart text).reverse).reverse

/-- Core's white space is white space here. -/
theorem isBlank_of_isWhitespace {c : Char} (h : c.isWhitespace = true) : isBlank c = true := by
  simp only [Char.isWhitespace, Bool.or_eq_true, decide_eq_true_eq] at h
  rcases h with ((rfl | rfl) | rfl) | rfl <;> decide

theorem trimStart_eq_nil_iff {text : List Char} : trimStart text = [] ↔ allBlank text = true := by
  induction text with
  | nil => simp [trimStart, allBlank]
  | cons c rest ih =>
    simp only [trimStart, allBlank] at ih
    cases hc : isBlank c <;> simp [trimStart, allBlank, hc, ih]

/-- Nothing is left of a text exactly when all of it is white space. -/
theorem trim_eq_nil_iff {text : List Char} : trim text = [] ↔ allBlank text = true := by
  have hback : allBlank (trimStart text).reverse = true ↔ allBlank text = true := by
    rw [← @trimStart_eq_nil_iff text]
    constructor
    · intro h
      cases hs : trimStart text with
      | nil => rfl
      | cons c rest =>
        -- the front of a trimmed text is no blank
        have hc : isBlank c = false := by
          have hhead := List.head?_dropWhile_not isBlank text
          simp only [trimStart] at hs
          rw [hs] at hhead
          simpa using hhead
        have hmem : isBlank c = true := by
          rw [hs] at h
          simp only [allBlank, List.all_eq_true] at h
          exact h c (by simp)
        rw [hc] at hmem
        cases hmem
    · intro h
      simp [h, allBlank]
  rw [← hback, ← trimStart_eq_nil_iff, trim, List.reverse_eq_nil_iff]

end Interception.Text
