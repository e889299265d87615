import Mathlib.Data.String.Basic
import Mathlib.Tactic.SplitIfs

/-!
# Texts in the order of their bytes

Texts are compared character by character, and a character by its number.  In memory a text is a row
of bytes, one to four for each character.  Main statement: comparing the bytes gives the same order.

A character takes a first byte, from which one can tell how many follow, and then digits to the base
64.  So of two characters the smaller one has the smaller first byte, or the same one and then digits
of a smaller number.
-/

namespace Interception.Text

/-- The bytes of a text in UTF-8. -/
def bytes (text : String) : List UInt8 := text.toUTF8.data.toList

/-- The bytes of a text are those of its characters in turn. -/
theorem bytes_eq (text : String) : bytes text = text.toList.flatMap String.utf8EncodeChar := by
  have hbytes : text.toUTF8 = text.toList.utf8Encode := by
    rw [← String.toByteArray_ofList, String.ofList_toList]
    rfl
  rw [bytes, hbytes, List.utf8Encode, List.toList_data_toByteArray]

/-! ## The bytes of a character -/

/-- How many bytes follow the first one of the character with this number. -/
def following (number : Nat) : Nat :=
  if number ≤ 127 then 0 else if number ≤ 2047 then 1 else if number ≤ 65535 then 2 else 3

/-- The first byte of the character with this number. -/
def leading (number : Nat) : Nat :=
  if number ≤ 127 then number
  else if number ≤ 2047 then number / 64 + 192
  else if number ≤ 65535 then number / 64 ^ 2 + 224
  else number / 64 ^ 3 + 240

/-- The last digits of a number to the base 64, each in a byte that is marked as no first one. -/
def digits : Nat → Nat → List UInt8
  | 0, _ => []
  | count + 1, number => digits count (number / 64) ++ [UInt8.ofNat (number % 64 + 128)]

theorem number_lt (c : Char) : c.toNat < 1114112 := by
  have hvalid := c.valid
  unfold UInt32.isValidChar Nat.isValidChar at hvalid
  show c.val.toNat < 1114112
  omega

theorem leading_lt {number : Nat} (h : number < 1114112) : leading number < 256 := by
  unfold leading
  split_ifs <;> omega

theorem utf8EncodeChar_eq (c : Char) : String.utf8EncodeChar c =
    UInt8.ofNat (leading c.toNat) :: digits (following c.toNat) c.toNat := by
  have hnumber := number_lt c
  have hval : c.val.toNat = c.toNat := rfl
  simp only [String.utf8EncodeChar, leading, following, hval]
  generalize c.toNat = number at hnumber
  split_ifs with hone htwo hthree
  · rfl
  · have hlead : number / 64 % 32 = number / 64 := by omega
    simp only [digits, hlead, List.nil_append]
  · have hlead : number / 4096 % 16 = number / 64 ^ 2 := by omega
    simp only [digits, hlead, List.nil_append, List.cons_append]
  · have hlead : number / 262144 % 8 = number / 64 ^ 3 := by omega
    have hdigit : number / 64 / 64 = number / 4096 := by omega
    simp only [digits, hlead, hdigit, List.nil_append, List.cons_append]

/-- Of two characters the smaller has the smaller first byte, or the same one, with as many bytes
after it. -/
theorem leading_mono {small large : Nat} (h : small < large) (hlarge : large < 1114112) :
    leading small < leading large ∨ leading small = leading large ∧
      following small = following large ∧
      small / 64 ^ following small = large / 64 ^ following small := by
  unfold leading following
  split_ifs <;> omega

/-- Numbers that differ in the last digits only are told apart by these digits. -/
theorem digits_append_lt {count small large : Nat} (h : small < large)
    (hfront : small / 64 ^ count = large / 64 ^ count) (after after' : List UInt8) :
    digits count small ++ after < digits count large ++ after' := by
  induction count generalizing small large after after' with
  | zero =>
    rw [Nat.pow_zero, Nat.div_one, Nat.div_one] at hfront
    omega
  | succ count ih =>
    rw [Nat.pow_succ', ← Nat.div_div_eq_div_mul, ← Nat.div_div_eq_div_mul] at hfront
    rw [digits, digits, List.append_assoc, List.append_assoc]
    by_cases hdigits : small / 64 = large / 64
    · -- all digits but the last are the same
      rw [hdigits]
      apply List.append_left_lt
      rw [List.singleton_append, List.singleton_append, List.cons_lt_cons_iff]
      left
      rw [UInt8.lt_iff_toNat_lt, UInt8.toNat_ofNat', UInt8.toNat_ofNat']
      omega
    · have hless : small / 64 < large / 64 := by omega
      exact ih hless hfront _ _

/-- The bytes of the smaller character come first, whatever follows. -/
theorem utf8EncodeChar_append_lt {c d : Char} (h : c < d) (after after' : List UInt8) :
    String.utf8EncodeChar c ++ after < String.utf8EncodeChar d ++ after' := by
  have hlarge := number_lt d
  have hnumber : c.toNat < d.toNat := h
  have hbyte : leading c.toNat < 256 := leading_lt (number_lt c)
  have hbyte' : leading d.toNat < 256 := leading_lt hlarge
  rw [utf8EncodeChar_eq, utf8EncodeChar_eq, List.cons_append, List.cons_append,
    List.cons_lt_cons_iff]
  rcases leading_mono hnumber hlarge with hlead | ⟨hlead, hcount, hfront⟩
  · left
    rw [UInt8.lt_iff_toNat_lt, UInt8.toNat_ofNat', UInt8.toNat_ofNat']
    omega
  · right
    rw [← hcount]
    exact ⟨congrArg UInt8.ofNat hlead, digits_append_lt hnumber hfront _ _⟩

/-! ## The bytes of a text -/

/-- Texts have the order of their bytes. -/
theorem bytes_lt_iff {first second : String} : bytes first < bytes second ↔ first < second := by
  have hmono : ∀ chars chars' : List Char, chars < chars' →
      chars.flatMap String.utf8EncodeChar < chars'.flatMap String.utf8EncodeChar := by
    intro chars
    induction chars with
    | nil =>
      intro chars' h
      cases chars' with
      | nil => exact absurd h (List.lt_irrefl [])
      | cons d rest =>
        rw [List.flatMap_nil, List.flatMap_cons, utf8EncodeChar_eq, List.cons_append]
        exact List.nil_lt_cons _ _
    | cons c rest ih =>
      intro chars' h
      cases chars' with
      | nil => exact absurd h (List.not_lt_nil _)
      | cons d rest' =>
        rw [List.flatMap_cons, List.flatMap_cons]
        rcases List.cons_lt_cons_iff.mp h with hchar | ⟨rfl, hrest⟩
        · exact utf8EncodeChar_append_lt hchar _ _
        · exact List.append_left_lt (ih rest' hrest)
  rw [bytes_eq, bytes_eq, String.lt_iff_toList_lt]
  constructor
  · intro h
    -- in any other order the bytes would be in that other order
    rcases lt_trichotomy first.toList second.toList with hless | hsame | hmore
    · exact hless
    · rw [hsame] at h
      exact absurd h (List.lt_irrefl _)
    · exact absurd (hmono _ _ hmore) (List.lt_asymm h)
  · exact hmono _ _

end Interception.Text
