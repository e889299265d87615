import Interception.Proofs.SettingsInfluence
import Mathlib.Data.Nat.Digits.Defs
import Mathlib.Data.Prod.Lex
import Mathlib.Data.List.Induction

/-!
# Versions as they are written

Somebody writes down a version: its parts as decimal numbers, the last ones perhaps not at all, with
points between them and white space around.  Main statement: exactly such texts are read, as the numbers
that stand there; every other text is turned down and quoted as it is; what is printed is read back; and
versions are compared like the triples of their parts.
-/

namespace Interception

namespace Text

/-! ## White space around a text -/

/-- `core` is what is left of the text without the white space around it. -/
structure Trims (text core : List Char) : Prop where
  around : ∃ front back, allBlank front = true ∧ allBlank back = true ∧ text = front ++ core ++ back
  head : ∀ c, core.head? = some c → isBlank c = false
  last : ∀ c, core.getLast? = some c → isBlank c = false

theorem trimStart_append_of_allBlank {front : List Char} (h : allBlank front = true)
    (rest : List Char) : trimStart (front ++ rest) = trimStart rest :=
  List.dropWhile_append_of_pos fun c hc => List.all_eq_true.1 h c hc

/-- Nothing is dropped in front of a character that is no white space. -/
theorem trimStart_of_head {text : List Char} (h : ∀ c, text.head? = some c → isBlank c = false) :
    trimStart text = text := by
  cases text with
  | nil => rfl
  | cons c rest => rw [trimStart, List.dropWhile_cons, if_neg (by simp [h c rfl])]

theorem head?_trimStart (text : List Char) {c : Char} (h : (trimStart text).head? = some c) :
    isBlank c = false := by
  have hhead := List.head?_dropWhile_not isBlank text
  rw [show List.dropWhile isBlank text = trimStart text from rfl, h] at hhead
  simpa using hhead

/-- What is dropped in front is white space. -/
theorem exists_trimStart (text : List Char) :
    ∃ front, allBlank front = true ∧ text = front ++ trimStart text :=
  ⟨text.takeWhile isBlank, List.all_takeWhile, List.takeWhile_append_dropWhile.symm⟩

theorem allBlank_reverse {text : List Char} : allBlank text.reverse = allBlank text := by
  simp [allBlank]

theorem trims_trim (text : List Char) : Trims text (trim text) := by
  obtain ⟨front, hfront, htext⟩ := exists_trimStart text
  obtain ⟨back, hback, hrest⟩ := exists_trimStart (trimStart text).reverse
  have hcore : trimStart text = trim text ++ back.reverse := by
    rw [← List.reverse_inj, hrest, List.reverse_append, List.reverse_reverse, trim,
      List.reverse_reverse]
  refine ⟨⟨front, back.reverse, hfront, by rwa [allBlank_reverse], ?_⟩, ?_, ?_⟩
  · rw [List.append_assoc, ← hcore]
    exact htext
  · intro c hc
    refine head?_trimStart text ?_
    -- the core is the front of what was left after the first step
    rw [hcore, List.head?_append, hc, Option.some_or]
  · intro c hc
    rw [trim, List.getLast?_reverse] at hc
    exact head?_trimStart _ hc

/-- A text has no other core than what trimming leaves. -/
theorem trims_iff {text core : List Char} : Trims text core ↔ trim text = core := by
  constructor
  · rintro ⟨⟨front, back, hfront, hback, rfl⟩, hhead, hlast⟩
    have hends : (trimStart (back.reverse ++ core.reverse)).reverse = core := by
      rw [trimStart_append_of_allBlank (by rwa [allBlank_reverse]), trimStart_of_head,
        List.reverse_reverse]
      intro c hc
      exact hlast c (by rwa [← List.head?_reverse])
    rw [trim, List.append_assoc, trimStart_append_of_allBlank hfront]
    cases core with
    | nil =>
      -- all is white space, so the first step drops it
      rw [List.nil_append, trimStart_eq_nil_iff.2 hback]
      rfl
    | cons c rest =>
      have hkept : trimStart (c :: rest ++ back) = c :: rest ++ back := trimStart_of_head hhead
      rw [hkept, List.reverse_append, hends]
  · rintro rfl
    exact trims_trim text

end Text

namespace Version

open Text

/-! ## The grammar -/

/-- The number that a row of decimal digits stands for. -/
def decimal (digits : List Char) : ℕ :=
  Nat.ofDigits 10 (digits.reverse.map fun c => c.toNat - '0'.toNat)

/-- The text is one digit or more, which stand for `value`. -/
structure Digits (text : List Char) (value : UInt32) : Prop where
  ne_nil : text ≠ []
  digits : ∀ c ∈ text, c.isDigit = true
  value : decimal text = value.toNat

/-- The text is a part of a version: digits with or without a plus sign. -/
inductive WritesPart : List Char → UInt32 → Prop where
  | plain {text : List Char} {value : UInt32} (hdigits : Digits text value) : WritesPart text value
  | signed {text : List Char} {value : UInt32} (hdigits : Digits text value) :
    WritesPart ('+' :: text) value

/-- The text is a version, of which it leaves the last parts out if it has fewer than three. -/
inductive Writes : List Char → Version → Prop where
  | one {first : List Char} {major : UInt32} (hmajor : WritesPart first major) :
    Writes first ⟨major, 0, 0⟩
  | two {first second : List Char} {major minor : UInt32} (hmajor : WritesPart first major)
    (hminor : WritesPart second minor) : Writes (first ++ '.' :: second) ⟨major, minor, 0⟩
  | three {first second third : List Char} {major minor patch : UInt32}
    (hmajor : WritesPart first major) (hminor : WritesPart second minor)
    (hpatch : WritesPart third patch) :
    Writes (first ++ '.' :: (second ++ '.' :: third)) ⟨major, minor, patch⟩

/-! ## One part -/

theorem ofDigitChars_eq_decimal (digits : List Char) :
    Nat.ofDigitChars 10 digits 0 = decimal digits := by
  induction digits using List.reverseRecOn with
  | nil => rfl
  | append_singleton digits last ih =>
    have hlast : Nat.ofDigitChars 10 (digits ++ [last]) 0 =
        10 * Nat.ofDigitChars 10 digits 0 + (last.toNat - '0'.toNat) := by
      rw [Nat.ofDigitChars, List.foldl_append]
      rfl
    rw [hlast, ih, decimal, decimal, List.reverse_concat, List.map_cons, Nat.ofDigits_cons,
      Nat.add_comm]

theorem ne_of_isDigit {c d : Char} (hc : c.isDigit = true) (hd : d.isDigit = false) : c ≠ d := by
  rintro rfl
  rw [hc] at hd
  cases hd

/-- No digit is taken for a sign. -/
theorem Digits.unsigned_eq {text : List Char} {value : UInt32} (h : Digits text value) :
    unsigned text = text := by
  rw [unsigned.eq_def]
  split
  · exact absurd rfl (ne_of_isDigit (h.digits '+' List.mem_cons_self) (by decide))
  · rfl

theorem exists_sign (text : List Char) : text = unsigned text ∨ text = '+' :: unsigned text := by
  rw [unsigned.eq_def]
  split
  · exact .inr rfl
  · exact .inl rfl

theorem part?_of_digits {text : List Char} {value : UInt32} (h : Digits (unsigned text) value) :
    part? text = some value := by
  have hvalue := (ofDigitChars_eq_decimal (unsigned text)).trans h.value
  rw [part?, hvalue, if_pos ⟨h.ne_nil, List.all_eq_true.2 h.digits, value.toNat_lt⟩,
    UInt32.ofNat_toNat]

/-- The digits after the sign are read, if they are digits and stand for a number of 32 bits. -/
theorem part?_eq_some_iff {text : List Char} {value : UInt32} :
    part? text = some value ↔ WritesPart text value := by
  constructor
  · intro h
    rw [part?] at h
    split at h
    · next hcond =>
      obtain ⟨hne, hall, hlt⟩ := hcond
      have hdigits : Digits (unsigned text) value := by
        refine ⟨hne, fun c hc => List.all_eq_true.1 hall c hc, ?_⟩
        rw [← Option.some.inj h, ← ofDigitChars_eq_decimal, UInt32.toNat_ofNat_of_lt' hlt]
      rcases exists_sign text with hplain | hsigned
      · rw [hplain]
        exact .plain hdigits
      · rw [hsigned]
        exact .signed hdigits
    · cases h
  · intro h
    cases h with
    | plain hdigits => exact part?_of_digits (by rwa [hdigits.unsigned_eq])
    | signed hdigits => exact part?_of_digits hdigits

theorem WritesPart.not_mem {text : List Char} {value : UInt32} (h : WritesPart text value) :
    '.' ∉ text := by
  have hdigits : ∀ {text}, Digits text value → '.' ∉ text := fun h hmem =>
    absurd rfl (ne_of_isDigit (h.digits '.' hmem) (by decide))
  cases h with
  | plain h => exact hdigits h
  | signed h =>
    rintro (_ | ⟨_, hmem⟩)
    exact hdigits h hmem

/-! ## The parts together -/

theorem Writes.ofParts? {text : List Char} {version : Version} (h : Writes text version) :
    ofParts? (pieces '.' text) = some version := by
  cases h with
  | one hmajor =>
    rw [pieces_of_not_mem hmajor.not_mem, Version.ofParts?, part?_eq_some_iff.2 hmajor]
    rfl
  | two hmajor hminor =>
    rw [pieces_append, pieces_of_not_mem hmajor.not_mem, pieces_of_not_mem hminor.not_mem,
      List.singleton_append, Version.ofParts?, part?_eq_some_iff.2 hmajor,
      part?_eq_some_iff.2 hminor]
    rfl
  | three hmajor hminor hpatch =>
    rw [pieces_append, pieces_append, pieces_of_not_mem hmajor.not_mem,
      pieces_of_not_mem hminor.not_mem, pieces_of_not_mem hpatch.not_mem, List.singleton_append,
      List.singleton_append, Version.ofParts?, part?_eq_some_iff.2 hmajor,
      part?_eq_some_iff.2 hminor, part?_eq_some_iff.2 hpatch]
    rfl

theorem writes_of_ofParts? {parts : List (List Char)} {version : Version}
    (h : ofParts? parts = some version) : Writes (List.intercalate ['.'] parts) version := by
  rw [ofParts?.eq_def] at h
  split at h
  · simp only [bind, Option.bind_eq_some_iff] at h
    obtain ⟨major, hmajor, hversion⟩ := h
    obtain rfl := Option.some.inj hversion
    simpa [List.intercalate] using Writes.one (part?_eq_some_iff.1 hmajor)
  · simp only [bind, Option.bind_eq_some_iff] at h
    obtain ⟨major, hmajor, minor, hminor, hversion⟩ := h
    obtain rfl := Option.some.inj hversion
    simpa [List.intercalate] using
      Writes.two (part?_eq_some_iff.1 hmajor) (part?_eq_some_iff.1 hminor)
  · simp only [bind, Option.bind_eq_some_iff] at h
    obtain ⟨major, hmajor, minor, hminor, patch, hpatch, hversion⟩ := h
    obtain rfl := Option.some.inj hversion
    simpa [List.intercalate] using Writes.three (part?_eq_some_iff.1 hmajor)
      (part?_eq_some_iff.1 hminor) (part?_eq_some_iff.1 hpatch)
  · cases h

/-- The pieces between the points make a version exactly if the text is one. -/
theorem ofParts?_pieces_eq_some_iff {text : List Char} {version : Version} :
    ofParts? (pieces '.' text) = some version ↔ Writes text version := by
  constructor
  · intro h
    have hwrites := writes_of_ofParts? h
    rwa [intercalate_pieces] at hwrites
  · exact Writes.ofParts?

theorem ofText_eq_ok_iff {text : String} {version : Version} :
    ofText text = .ok version ↔ Writes (trim text.toList) version := by
  rw [← ofParts?_pieces_eq_some_iff, ofText]
  cases ofParts? (pieces '.' (trim text.toList)) <;> simp

theorem ofText_eq_error_iff {text : String} {fault : Fault} :
    ofText text = .error fault ↔
      (∀ version, ¬Writes (trim text.toList) version) ∧
        fault = .badManifest ("invalid runtime version '" ++ text ++ "'") := by
  simp only [← ofParts?_pieces_eq_some_iff, ofText]
  cases ofParts? (pieces '.' (trim text.toList)) <;> simp [eq_comm]

/-! ## Printed versions -/

theorem isBlank_of_isDigit {c : Char} (h : c.isDigit = true) : isBlank c = false := by
  simp only [Char.isDigit, Bool.and_eq_true, decide_eq_true_eq, ge_iff_le,
    UInt32.le_iff_toNat_le] at h
  have hc : 48 ≤ c.toNat ∧ c.toNat ≤ 57 := h
  simp only [isBlank, Bool.or_eq_false_iff, Bool.and_eq_false_iff, decide_eq_false_iff_not,
    beq_eq_false_iff_ne]
  omega

theorem isDigit_of_mem_repr {n : ℕ} {c : Char} (h : c ∈ n.repr.toList) : c.isDigit = true := by
  rw [Nat.repr_eq_ofList_toDigits, String.toList_ofList] at h
  exact Nat.isDigit_of_mem_toDigits (by decide) (by decide) h

theorem writesPart_repr (value : UInt32) : WritesPart value.toNat.repr.toList value := by
  refine .plain ⟨?_, fun c => isDigit_of_mem_repr, ?_⟩
  · rw [Nat.repr_eq_ofList_toDigits, String.toList_ofList]
    exact Nat.toDigits_ne_nil
  · rw [← ofDigitChars_eq_decimal, Nat.repr_eq_ofList_toDigits, String.toList_ofList,
      Nat.ofDigitChars_ten_toDigits]

theorem toList_text (version : Version) :
    version.text.toList = version.major.toNat.repr.toList ++
      '.' :: (version.minor.toNat.repr.toList ++ '.' :: version.patch.toNat.repr.toList) := by
  simp [text]

theorem writes_text (version : Version) : Writes version.text.toList version := by
  rw [toList_text]
  exact .three (writesPart_repr _) (writesPart_repr _) (writesPart_repr _)

/-- There is no white space around a printed version. -/
theorem trims_text (version : Version) : Trims version.text.toList version.text.toList := by
  have hne : ∀ n : ℕ, n.repr.toList ≠ [] := fun n h => by
    rw [Nat.repr_eq_ofList_toDigits, String.toList_ofList] at h
    exact Nat.toDigits_ne_nil h
  refine ⟨⟨[], [], rfl, rfl, by simp⟩, ?_, ?_⟩
  · intro c hc
    rw [toList_text, List.head?_append_of_ne_nil _ (hne _)] at hc
    exact isBlank_of_isDigit (isDigit_of_mem_repr (List.mem_of_head? hc))
  · intro c hc
    rw [toList_text, List.getLast?_append_of_ne_nil _ (List.cons_ne_nil _ _),
      List.getLast?_cons_of_ne_nil (by simp), List.getLast?_append_of_ne_nil _ (by simp),
      List.getLast?_cons_of_ne_nil (hne _)] at hc
    exact isBlank_of_isDigit (isDigit_of_mem_repr (List.mem_of_getLast? hc))

theorem ofText_text (version : Version) : ofText version.text = .ok version := by
  rw [ofText_eq_ok_iff, trims_iff.1 (trims_text version)]
  exact writes_text version

/-! ## The order of versions -/

/-- The parts of a version, of which the first ones count more. -/
def key (version : Version) : ℕ ×ₗ ℕ ×ₗ ℕ :=
  toLex (version.major.toNat, toLex (version.minor.toNat, version.patch.toNat))

theorem order_eq_compare_key (a b : Version) : order a b = compare a.key b.key := by
  simp only [Prod.Lex.compare_def]
  rfl

theorem allowsTraitProxies_iff_key_le (version : Version) :
    version.allowsTraitProxies = true ↔ traitProxies.key ≤ version.key := by
  rw [allowsTraitProxies, order_eq_compare_key, Ordering.isGE_iff_ne_lt, compare_lt_iff_lt, not_lt]

/-- A text is read exactly if, without the white space around it, it is a version as one writes them,
and then as that version; of any other text there is a fault that quotes it as it is.  A printed version
is read back.  Versions are compared like the triples of their parts, and so from 7.3.0 on, and never
again below, a version allows trait proxies. -/
theorem ofText_grammar :
    (∀ text version, ofText text = .ok version ↔
      ∃ core, Trims text.toList core ∧ Writes core version) ∧
    (∀ text fault, ofText text = .error fault ↔
      (∀ core, Trims text.toList core → ∀ version, ¬Writes core version) ∧
        fault = .badManifest ("invalid runtime version '" ++ text ++ "'")) ∧
    (∀ version, ofText version.text = .ok version) ∧
    (∀ a b : Version, order a b = compare a.key b.key) ∧
    (∀ version : Version, version.allowsTraitProxies = true ↔ key ⟨7, 3, 0⟩ ≤ version.key) ∧
    ∀ earlier later : Version, earlier.key ≤ later.key → earlier.allowsTraitProxies = true →
      later.allowsTraitProxies = true := by
  refine ⟨?_, ?_, ofText_text, order_eq_compare_key, allowsTraitProxies_iff_key_le, ?_⟩
  · intro text version
    simp only [trims_iff, exists_eq_left', ofText_eq_ok_iff]
  · intro text fault
    simp only [trims_iff, forall_eq', ofText_eq_error_iff]
  · intro earlier later hle hallowed
    rw [allowsTraitProxies_iff_key_le] at hallowed ⊢
    exact hallowed.trans hle

/-- A sign, a zero in front and white space of any kind do not matter; 32 bits have to suffice. -/
example : ofText "\u00a0 +7.03\n" = .ok ⟨7, 3, 0⟩ ∧
    ofText "4294967295.0.0" = .ok ⟨4294967295, 0, 0⟩ ∧
    ofText "4294967296" =
      .error (.badManifest "invalid runtime version '4294967296'") := by
  decide +kernel

end Version

end Interception
