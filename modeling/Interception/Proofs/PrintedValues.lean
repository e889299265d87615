import Interception.Json.Printer
import Interception.Json.Reader
import Mathlib.Data.List.TakeDrop

/-!
# Values that are printed and read

Main statement: a value all of whose parts have a text is read back from the text it is printed as,
whatever characters its strings are made of.
-/

namespace Interception.Json

/-! ## Strings -/

/-- The piece that a character is printed as. -/
def piece (c : Char) : Piece := if c.toNat < 32 then .coded c.toNat else .plain c

theorem hexUnit?_hexDigit :
    ∀ value < 32, hexUnit? '0' '0' (hexDigit (value / 16)) (hexDigit value) = some value := by
  decide

theorem pieces?_escape {text rest : List Char} {pieces : List Piece}
    (h : pieces? text = some (pieces, rest)) (c : Char) :
    pieces? (escape c ++ text) = some (piece c :: pieces, rest) := by
  by_cases hquote : c = '"'
  · subst hquote
    show pieces? ('\\' :: '"' :: text) = _
    rw [pieces?, h]
    · rfl
    · simp
  · by_cases hslash : c = '\\'
    · subst hslash
      show pieces? ('\\' :: '\\' :: text) = _
      rw [pieces?, h]
      · rfl
      · simp
    · by_cases hcontrol : c.toNat < 32
      · have hunit := hexUnit?_hexDigit c.toNat hcontrol
        rw [escape, if_neg hquote, if_neg hslash, if_pos hcontrol, piece, if_pos hcontrol]
        show pieces? ('\\' :: 'u' :: '0' :: '0' :: hexDigit (c.toNat / 16) :: hexDigit c.toNat :: text)
          = _
        rw [pieces?, hunit, h]
        rfl
      · have hplain : (decide (c.toNat < 32) || c == '\\') = false := by simp [hcontrol, hslash]
        rw [escape, if_neg hquote, if_neg hslash, if_neg hcontrol, piece, if_neg hcontrol]
        show pieces? (c :: text) = _
        rw [pieces?, hplain, h]
        · rfl
        all_goals simp [hquote, hslash]

/-- A printed string is taken apart into one piece for each character. -/
theorem pieces?_quoted (chars rest : List Char) :
    pieces? (chars.flatMap escape ++ '"' :: rest) = some (chars.map piece, rest) := by
  induction chars with
  | nil => rfl
  | cons c chars ih =>
    rw [List.flatMap_cons, List.append_assoc]
    exact pieces?_escape ih c

/-- A number below those of the surrogates spells a character of its own. -/
theorem spelled?_coded {value : Nat} (h : value < 32) (pieces : List Piece) :
    spelled? (.coded value :: pieces) = (spelled? pieces).map (Char.ofNat value :: ·) := by
  have hhigh : ¬(0xd800 ≤ value ∧ value < 0xdc00) := by omega
  have hlow : ¬(0xdc00 ≤ value ∧ value < 0xe000) := by omega
  have hhalf : ¬(0xd800 ≤ value ∧ value < 0xe000) := by omega
  cases pieces with
  | nil => simp [spelled?, hhalf]
  | cons next pieces =>
    cases next with
    | plain c => simp [spelled?, hhalf]
    | coded other => rw [spelled?, if_neg hhigh, if_neg hlow]

theorem spelled?_piece (c : Char) (pieces : List Piece) :
    spelled? (piece c :: pieces) = (spelled? pieces).map (c :: ·) := by
  by_cases hcontrol : c.toNat < 32
  · rw [piece, if_pos hcontrol, spelled?_coded hcontrol, Char.ofNat_toNat]
  · rw [piece, if_neg hcontrol, spelled?]

theorem spelled?_pieces (chars : List Char) : spelled? (chars.map piece) = some chars := by
  induction chars with
  | nil => rfl
  | cons c chars ih => rw [List.map_cons, spelled?_piece, ih, Option.map_some]

theorem string?_quoted (text : String) (rest : List Char) :
    string? (text.toList.flatMap escape ++ '"' :: rest) = some (some text, rest) := by
  rw [string?, pieces?_quoted, Option.map_some, spelled?_pieces, Option.map_some, String.ofList_toList]

/-! ## Numbers -/

/-- What follows a value can be no part of a number. -/
def Ends (rest : List Char) : Prop :=
  ∀ c ∈ rest.head?, c.isDigit = false ∧ c ≠ '.' ∧ c ≠ 'e' ∧ c ≠ 'E'

theorem digits_append {run rest : List Char} (hrun : ∀ c ∈ run, c.isDigit = true)
    (hrest : Ends rest) : digits (run ++ rest) = (run, rest) := by
  rw [digits, List.span_eq_takeWhile_dropWhile, List.takeWhile_append_of_pos hrun,
    List.dropWhile_append_of_pos hrun]
  cases rest with
  | nil => simp
  | cons c rest => simp [(hrest c rfl).1]

theorem skipFraction?_of_ends {rest : List Char} (h : Ends rest) :
    skipFraction? rest = some (rest, false) := by
  cases rest with
  | nil => rfl
  | cons c rest => rw [skipFraction?]; exact fun _ heq => (h c rfl).2.1 (by simp_all)

theorem skipExponent?_of_ends {rest : List Char} (h : Ends rest) :
    skipExponent? rest = some (rest, false) := by
  cases rest with
  | nil => rfl
  | cons c rest => simp [skipExponent?, (h c rfl).2.2]

/-- The digits of a number do not begin with a zero, unless it is the only one. -/
theorem head?_toDigits {n : Nat} (h : 0 < n) : (Nat.toDigits 10 n).head? ≠ some '0' := by
  induction n using Nat.strongRecOn with
  | ind n ih =>
    by_cases hsmall : n < 10
    · have hdigit : ∀ n < 10, 0 < n → (Nat.toDigits 10 n).head? ≠ some '0' := by decide
      exact hdigit n hsmall h
    · have hfirst := ih (n / 10) (by omega) (by omega)
      obtain ⟨c, digits, hc⟩ := List.exists_cons_of_ne_nil
        (Nat.toDigits_ne_nil (n := n / 10) (b := 10))
      rw [Nat.toDigits_of_base_le (by decide) (by omega), hc]
      rwa [hc] at hfirst

theorem whole?_toDigits (n : Nat) {rest : List Char} (h : Ends rest) :
    whole? (Nat.toDigits 10 n ++ rest) = some (n, rest) := by
  have hdigits : digits (Nat.toDigits 10 n ++ rest) = (Nat.toDigits 10 n, rest) :=
    digits_append (fun c hc => Nat.isDigit_of_mem_toDigits (by decide) (by decide) hc) h
  rw [whole?, hdigits]
  by_cases hzero : n = 0
  · subst hzero
    rfl
  · have hhead := head?_toDigits (Nat.pos_of_ne_zero hzero)
    split
    · next hnil => exact absurd (Prod.mk.inj hnil).1 Nat.toDigits_ne_nil
    · next hone =>
      rw [(Prod.mk.inj hone).1] at hhead
      exact absurd rfl hhead
    · next hmore =>
      rw [(Prod.mk.inj hmore).1] at hhead
      exact absurd rfl hhead
    · next hother =>
      obtain ⟨rfl, rfl⟩ := Prod.mk.inj hother
      rw [Nat.ofDigitChars_ten_toDigits]

/-- A number begins with a digit. -/
theorem toDigits_eq_cons (n : Nat) :
    ∃ c digits, Nat.toDigits 10 n = c :: digits ∧ c.isDigit = true := by
  obtain ⟨c, digits, hc⟩ := List.exists_cons_of_ne_nil (Nat.toDigits_ne_nil (n := n) (b := 10))
  have hmem : c ∈ Nat.toDigits 10 n := hc ▸ List.mem_cons_self
  exact ⟨c, digits, hc, Nat.isDigit_of_mem_toDigits (by decide) (by decide) hmem⟩

theorem number?_toDigits (n : Nat) {rest : List Char} (h : Ends rest) :
    number? (Nat.toDigits 10 n ++ rest) = some (.int n, rest) := by
  have hsign : ∀ text, Nat.toDigits 10 n ++ rest = '-' :: text → False := by
    intro text htext
    obtain ⟨c, digits, hc, hdigit⟩ := toDigits_eq_cons n
    rw [hc] at htext
    rw [(List.cons.inj htext).1] at hdigit
    cases hdigit
  rw [number?]
  · simp [whole?_toDigits n h, skipFraction?_of_ends h, skipExponent?_of_ends h]
  · exact hsign

theorem number?_minus {n : Nat} (hn : n ≠ 0) {rest : List Char} (h : Ends rest) :
    number? ('-' :: (Nat.toDigits 10 n ++ rest)) = some (.int (-n), rest) := by
  simp [number?, whole?_toDigits n h, skipFraction?_of_ends h, skipExponent?_of_ends h, hn]

theorem toList_toString_int (value : Int) : (toString value).toList =
    if value < 0 then '-' :: Nat.toDigits 10 value.natAbs else Nat.toDigits 10 value.natAbs := by
  cases value with
  | ofNat n =>
    show (toString n).toList = _
    simp
  | negSucc n =>
    show ("-" ++ (n + 1).repr).toList = _
    simp [Nat.repr_eq_ofList_toDigits, Int.negSucc_lt_zero]

theorem number?_int (value : Int) {rest : List Char} (h : Ends rest) :
    number? ((toString value).toList ++ rest) = some (.int value, rest) := by
  rw [toList_toString_int]
  by_cases hneg : value < 0
  · rw [if_pos hneg]
    show number? ('-' :: (_ ++ rest)) = _
    rw [number?_minus (by omega) h]
    congr
    omega
  · rw [if_neg hneg, number?_toDigits _ h]
    congr
    omega

/-! ## Values -/

/-- Every part of the value has a text of its own. -/
inductive Plain : Json → Prop
  | null : Plain .null
  | bool (value : Bool) : Plain (.bool value)
  | int (value : Int) : Plain (.int value)
  | str (value : String) : Plain (.str value)
  | arr {items : List Json} (h : ∀ item ∈ items, Plain item) : Plain (.arr items)
  | obj {members : List (String × Json)} (h : ∀ member ∈ members, Plain member.2) :
    Plain (.obj members)

theorem toList_quoted (text : String) :
    (quoted text).toList = '"' :: (text.toList.flatMap escape ++ ['"']) := by
  simp [quoted]

theorem toList_print_arr (items : List Json) :
    (print (.arr items)).toList = '[' :: ((printItems items).toList ++ [']']) := by
  simp [print]

theorem toList_print_obj (members : List (String × Json)) :
    (print (.obj members)).toList = '{' :: ((printMembers members).toList ++ ['}']) := by
  simp [print]

theorem toList_printItems (item next : Json) (others : List Json) :
    (printItems (item :: next :: others)).toList =
      (print item).toList ++ ',' :: (printItems (next :: others)).toList := by
  simp [printItems]

theorem toList_printMembers_one (key : String) (value : Json) :
    (printMembers [(key, value)]).toList =
      (quoted key).toList ++ ':' :: (print value).toList := by
  simp [printMembers]

theorem toList_printMembers (key : String) (value : Json) (next : String × Json)
    (others : List (String × Json)) :
    (printMembers ((key, value) :: next :: others)).toList =
      (printMembers [(key, value)]).toList ++ ',' :: (printMembers (next :: others)).toList := by
  simp [printMembers]

/-- A text that begins with no blank and closes nothing. -/
def Begins (text : List Char) : Prop :=
  ∃ c rest, text = c :: rest ∧ isGap c = false ∧ c ≠ ']'

theorem skipGap_of_begins {text : List Char} (h : Begins text) (rest : List Char) :
    skipGap (text ++ rest) = text ++ rest := by
  obtain ⟨c, text, rfl, hgap, -⟩ := h
  simp [skipGap, hgap]

theorem isGap_of_isDigit {c : Char} (h : c.isDigit = true) : isGap c = false := by
  rw [Bool.eq_false_iff]
  intro hgap
  simp only [isGap, Bool.or_eq_true, beq_iff_eq] at hgap
  rcases hgap with ((rfl | rfl) | rfl) | rfl <;> cases h

theorem begins_int (value : Int) : Begins (toString value).toList := by
  rw [toList_toString_int]
  by_cases hneg : value < 0
  · rw [if_pos hneg]
    exact ⟨'-', _, rfl, rfl, by decide⟩
  · obtain ⟨c, digits, hc, hdigit⟩ := toDigits_eq_cons value.natAbs
    rw [if_neg hneg, hc]
    refine ⟨c, digits, rfl, isGap_of_isDigit hdigit, ?_⟩
    rintro rfl
    cases hdigit

theorem begins_print {json : Json} (h : Plain json) : Begins (print json).toList := by
  cases h with
  | null => exact ⟨'n', _, rfl, rfl, by decide⟩
  | bool value => cases value <;> exact ⟨_, _, rfl, rfl, by decide⟩
  | int value =>
    rw [print]
    exact begins_int value
  | str value =>
    rw [print, toList_quoted]
    exact ⟨'"', _, rfl, rfl, by decide⟩
  | arr =>
    rw [toList_print_arr]
    exact ⟨'[', _, rfl, rfl, by decide⟩
  | obj =>
    rw [toList_print_obj]
    exact ⟨'{', _, rfl, rfl, by decide⟩

theorem begins_printItems {item : Json} (h : Plain item) (items : List Json) :
    Begins (printItems (item :: items)).toList := by
  obtain ⟨c, text, hc, hbegins⟩ := begins_print h
  cases items with
  | nil => exact ⟨c, text, by rw [printItems, hc], hbegins⟩
  | cons next others => exact ⟨c, _, by rw [toList_printItems, hc, List.cons_append], hbegins⟩

theorem ends_of_head {c : Char} (rest : List Char) (h : c = ',' ∨ c = ']' ∨ c = '}') :
    Ends (c :: rest) := by
  intro d hd
  obtain rfl : c = d := by simpa using hd
  rcases h with rfl | rfl | rfl <;> decide

/-- The value is read back from its text, whatever may follow. -/
def ReadsBack (json : Json) : Prop :=
  ∀ fuel rest, 2 * (print json).toList.length ≤ fuel → Ends rest →
    value? fuel ((print json).toList ++ rest) = some (json, rest)

/-- Items with commas between them are read up to the closing bracket. -/
theorem items?_printItems {items : List Json} (hne : items ≠ [])
    (hread : ∀ item ∈ items, ReadsBack item) (fuel : Nat) (rest : List Char)
    (hfuel : 2 * (printItems items).toList.length + 1 ≤ fuel) :
    items? fuel ((printItems items).toList ++ ']' :: rest) = some (items, rest) := by
  induction items generalizing fuel with
  | nil => exact absurd rfl hne
  | cons item items ih =>
    obtain ⟨fuel, rfl⟩ : ∃ below, fuel = below + 1 := ⟨fuel - 1, by omega⟩
    have hitem := hread item List.mem_cons_self
    cases items with
    | nil =>
      rw [printItems] at hfuel ⊢
      rw [items?, hitem fuel _ (by omega) (ends_of_head rest (by simp))]
      rfl
    | cons next others =>
      rw [toList_printItems] at hfuel ⊢
      simp only [List.length_append, List.length_cons] at hfuel
      have hothers := ih (by simp) (fun other hother => hread other (List.mem_cons_of_mem _ hother))
        fuel (by omega)
      rw [items?, List.append_assoc, List.cons_append,
        hitem fuel _ (by omega) (ends_of_head _ (by simp))]
      show (items? fuel ((printItems (next :: others)).toList ++ ']' :: rest) >>= _) = _
      rw [hothers]
      rfl

/-- A member is read, and then what comes after it. -/
theorem members?_member (key : String) {value : Json} (hvalue : ReadsBack value) {fuel : Nat}
    (hfuel : 2 * (print value).toList.length ≤ fuel) {after : List Char} (hafter : Ends after) :
    members? (fuel + 1) ((printMembers [(key, value)]).toList ++ after) =
      match skipGap after with
      | '}' :: rest => some ([(some key, value)], rest)
      | ',' :: rest =>
        (members? fuel rest).bind fun found => some ((some key, value) :: found.1, found.2)
      | _ => none := by
  have htext : (printMembers [(key, value)]).toList ++ after = '"' ::
      (key.toList.flatMap escape ++ '"' :: ':' :: ((print value).toList ++ after)) := by
    simp [toList_printMembers_one, toList_quoted]
  have hquote : ∀ text, skipGap ('"' :: text) = '"' :: text := fun _ => rfl
  have hcolon : ∀ text, skipGap (':' :: text) = ':' :: text := fun _ => rfl
  simp only [htext, members?, hquote, string?_quoted, hcolon, hvalue fuel after hfuel hafter,
    Option.bind_eq_bind, Option.bind_some]
  rfl

/-- Members with commas between them are read up to the closing brace. -/
theorem members?_printMembers {members : List (String × Json)} (hne : members ≠ [])
    (hread : ∀ member ∈ members, ReadsBack member.2) (fuel : Nat) (rest : List Char)
    (hfuel : 2 * (printMembers members).toList.length + 1 ≤ fuel) :
    members? fuel ((printMembers members).toList ++ '}' :: rest) =
      some (members.map fun member => (some member.1, member.2), rest) := by
  induction members generalizing fuel with
  | nil => exact absurd rfl hne
  | cons member members ih =>
    obtain ⟨fuel, rfl⟩ : ∃ below, fuel = below + 1 := ⟨fuel - 1, by omega⟩
    obtain ⟨key, value⟩ := member
    have hvalue : ReadsBack value := hread (key, value) List.mem_cons_self
    have hlength : (print value).toList.length ≤ (printMembers [(key, value)]).toList.length := by
      simp only [toList_printMembers_one, List.length_append, List.length_cons]
      omega
    cases members with
    | nil =>
      rw [members?_member key hvalue (by omega) (ends_of_head rest (by simp))]
      rfl
    | cons next others =>
      rw [toList_printMembers] at hfuel ⊢
      simp only [List.length_append, List.length_cons] at hfuel
      have hothers := ih (by simp) (fun other hother => hread other (List.mem_cons_of_mem _ hother))
        fuel (by omega)
      rw [List.append_assoc, List.cons_append,
        members?_member key hvalue (by omega) (ends_of_head _ (by simp))]
      show (members? fuel ((printMembers (next :: others)).toList ++ '}' :: rest)).bind _ = _
      rw [hothers]
      rfl

theorem ofMembers_some (members : List (String × Json)) :
    ofMembers (members.map fun member => (some member.1, member.2)) = .obj members := by
  have hkeys : (members.map fun member => (some member.1, member.2)).mapM (fun member =>
      member.1.map fun key => (key, member.2)) = some members := by
    induction members with
    | nil => rfl
    | cons member members ih => simp [List.mapM_cons, ih]
  rw [ofMembers, hkeys]

theorem value?_number {c : Char} (hc : c.isDigit = true ∨ c = '-') (fuel : Nat) (text : List Char) :
    value? (fuel + 1) (c :: text) = number? (c :: text) := by
  have hgap : isGap c = false := by
    rcases hc with hdigit | rfl
    · exact isGap_of_isDigit hdigit
    · rfl
  have hskip : skipGap (c :: text) = c :: text := by simp [skipGap, hgap]
  have hother : ∀ d : Char, d.isDigit = false → d ≠ '-' → c ≠ d := by
    rintro d hdigit hminus rfl
    rcases hc with hc | hc
    · rw [hc] at hdigit
      cases hdigit
    · exact hminus hc
  rw [value?, hskip]
  split
  all_goals first | rfl | (next heq => exact absurd (List.cons.inj heq).1 (hother _ rfl (by decide)))

/-- A value is printed with a character at least, so it is not read without fuel. -/
theorem Plain.fuel_pos {json : Json} (h : Plain json) {fuel : Nat}
    (hfuel : 2 * (print json).toList.length ≤ fuel) : ∃ below, fuel = below + 1 := by
  obtain ⟨c, text, hc, -⟩ := begins_print h
  rw [hc, List.length_cons] at hfuel
  exact ⟨fuel - 1, by omega⟩

theorem readsBack_int (value : Int) : ReadsBack (.int value) := by
  intro fuel rest hfuel hrest
  obtain ⟨fuel, rfl⟩ := (Plain.int value).fuel_pos hfuel
  have hnumber := number?_int value hrest
  rw [print]
  rw [toList_toString_int] at hnumber ⊢
  by_cases hneg : value < 0
  · rw [if_pos hneg, List.cons_append] at hnumber ⊢
    rw [value?_number (.inr rfl), hnumber]
  · obtain ⟨c, digits, hc, hdigit⟩ := toDigits_eq_cons value.natAbs
    rw [if_neg hneg, hc, List.cons_append] at hnumber ⊢
    rw [value?_number (.inl hdigit), hnumber]

theorem readsBack_str (value : String) : ReadsBack (.str value) := by
  intro fuel rest hfuel hrest
  obtain ⟨fuel, rfl⟩ := (Plain.str value).fuel_pos hfuel
  rw [print, toList_quoted, List.cons_append, List.append_assoc]
  show (string? (value.toList.flatMap escape ++ '"' :: rest) >>= _) = _
  rw [string?_quoted]
  rfl

theorem readsBack_arr {items : List Json} (hplain : ∀ item ∈ items, Plain item)
    (hread : ∀ item ∈ items, ReadsBack item) : ReadsBack (.arr items) := by
  intro fuel rest hfuel hrest
  obtain ⟨fuel, rfl⟩ := (Plain.arr hplain).fuel_pos hfuel
  rw [toList_print_arr, List.cons_append, List.append_assoc]
  rw [toList_print_arr, List.length_cons, List.length_append] at hfuel
  cases items with
  | nil => rfl
  | cons item items =>
    have hbegins := begins_printItems (hplain item List.mem_cons_self) items
    have hitems := items?_printItems (by simp) hread fuel rest (by omega)
    have hbracket : ∀ text, skipGap ('[' :: text) = '[' :: text := fun _ => rfl
    simp only [value?, hbracket, List.cons_append, List.nil_append, skipGap_of_begins hbegins]
    split
    · next hclose =>
      -- no item begins with the bracket
      obtain ⟨c, text, hc, -, hne⟩ := hbegins
      rw [hc, List.cons_append] at hclose
      exact absurd (List.cons.inj hclose).1 hne
    · rw [hitems]
      rfl

theorem readsBack_obj {members : List (String × Json)}
    (hplain : ∀ member ∈ members, Plain member.2)
    (hread : ∀ member ∈ members, ReadsBack member.2) : ReadsBack (.obj members) := by
  intro fuel rest hfuel hrest
  obtain ⟨fuel, rfl⟩ := (Plain.obj hplain).fuel_pos hfuel
  rw [toList_print_obj, List.cons_append, List.append_assoc]
  rw [toList_print_obj, List.length_cons, List.length_append] at hfuel
  cases members with
  | nil => rfl
  | cons member members =>
    have hmembers := members?_printMembers (by simp) hread fuel rest (by omega)
    obtain ⟨text, htext⟩ : ∃ text, (printMembers (member :: members)).toList = '"' :: text := by
      cases members <;> exact ⟨_, by simp [printMembers, toList_quoted]; rfl⟩
    rw [htext] at hmembers ⊢
    show (members? fuel ('"' :: text ++ '}' :: rest) >>= fun found =>
      pure (ofMembers found.1, found.2)) = _
    rw [hmembers]
    show some (ofMembers _, rest) = _
    rw [ofMembers_some]

theorem readsBack_of_plain {json : Json} (h : Plain json) : ReadsBack json := by
  induction h with
  | null =>
    intro fuel rest hfuel hrest
    obtain ⟨fuel, rfl⟩ := Plain.null.fuel_pos hfuel
    rfl
  | bool value =>
    intro fuel rest hfuel hrest
    obtain ⟨fuel, rfl⟩ := (Plain.bool value).fuel_pos hfuel
    cases value <;> rfl
  | int value => exact readsBack_int value
  | str value => exact readsBack_str value
  | arr h ih => exact readsBack_arr h ih
  | obj h ih => exact readsBack_obj h ih

/-- A value all of whose parts have a text is what its text is read as. -/
theorem read?_print {json : Json} (h : Plain json) : read? (print json) = some json := by
  have hvalue := readsBack_of_plain h (2 * (print json).toList.length + 2) [] (by omega)
    (by simp [Ends])
  rw [List.append_nil] at hvalue
  rw [read?, hvalue]
  rfl

end Interception.Json
