/-!
# Cutting texts at separators

`cut?` cuts at the first place where a separator stands, `pieces` at every place where a character
stands, and `listed` joins with a comma and a space.  Main statements: the parts with the separator
between them are the text that was cut, and no piece holds the character it was cut at.
-/

namespace Interception.Text

/-- The characters before and after the first `separator`. -/
def cutChars (separator : List Char) : List Char → Option (List Char × List Char)
  | [] => none
  | c :: rest =>
    if separator.isPrefixOf (c :: rest) then some ([], (c :: rest).drop separator.length)
    else (cutChars separator rest).map fun parts => (c :: parts.1, parts.2)

/-- The texts before and after the first `separator`; nothing if it does not occur. -/
def cut? (separator text : String) : Option (String × String) :=
  (cutChars separator.toList text.toList).map fun parts =>
    (String.ofList parts.1, String.ofList parts.2)

/-- The parts between all occurrences of `separator`: one more than there are occurrences. -/
def pieces (separator : Char) : List Char → List (List Char)
  | [] => [[]]
  | c :: rest =>
    if c = separator then [] :: pieces separator rest
    else
      match pieces separator rest with
      | [] => [[c]]
      | piece :: others => (c :: piece) :: others

/-- The items with a comma and a space between them. -/
def listed : List String → String
  | [] => ""
  | [item] => item
  | item :: next :: others => item ++ ", " ++ listed (next :: others)

/-- The parts with the separator between them are the text. -/
theorem cutChars_append {separator text before after : List Char}
    (h : cutChars separator text = some (before, after)) : before ++ separator ++ after = text := by
  induction text generalizing before with
  | nil => simp [cutChars] at h
  | cons c rest ih =>
    rw [cutChars] at h
    split at h
    · next hp =>
      cases h
      obtain ⟨tail, htail⟩ := List.isPrefixOf_iff_prefix.1 hp
      rw [← htail]
      simp
    · obtain ⟨⟨b, a⟩, hb, heq⟩ := Option.map_eq_some_iff.1 h
      cases heq
      simp [← ih hb]

theorem pieces_ne_nil (separator : Char) (text : List Char) : pieces separator text ≠ [] := by
  cases text with
  | nil => simp [pieces]
  | cons c rest =>
    rw [pieces]
    split
    · simp
    · split <;> simp

/-- No piece holds the separator. -/
theorem not_mem_of_mem_pieces {separator : Char} {text piece : List Char}
    (h : piece ∈ pieces separator text) : separator ∉ piece := by
  induction text generalizing piece with
  | nil => simp_all [pieces]
  | cons c rest ih =>
    rw [pieces] at h
    split at h
    · rcases List.mem_cons.1 h with rfl | h
      · simp
      · exact ih h
    · next hc =>
      have hne : separator ≠ c := fun heq => hc heq.symm
      split at h
      · rw [List.mem_singleton.1 h]
        simpa using hne
      · next p others hp =>
        rcases List.mem_cons.1 h with rfl | h
        · have hrest : separator ∉ p := ih (hp ▸ List.mem_cons_self)
          simp [hne, hrest]
        · exact ih (hp ▸ List.mem_cons_of_mem _ h)

/-- The pieces with the separator between them are the text. -/
theorem intercalate_pieces (separator : Char) (text : List Char) :
    List.intercalate [separator] (pieces separator text) = text := by
  induction text with
  | nil => rfl
  | cons c rest ih =>
    rw [pieces]
    have hne := pieces_ne_nil separator rest
    split
    · next hc =>
      cases hp : pieces separator rest with
      | nil => exact absurd hp hne
      | cons p others => rw [hp] at ih; simp_all [List.intercalate, List.intersperse]
    · cases hp : pieces separator rest with
      | nil => exact absurd hp hne
      | cons p others =>
        rw [hp] at ih
        cases others <;> simp_all [List.intercalate, List.intersperse]

end Interception.Text
