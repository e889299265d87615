import Interception.Proofs.QualifiedNames

/-!
# The tokens of a renamed hint

A hint is taken apart into marks and maximal runs of name characters.  Main statements: these lists
of tokens are exactly the ones that are read back from the text they spell; so a hint whose names are
sent through a function has the same marks and builtins, in the same order, and the new names where
the old ones were, as long as each new name reads as one name.
-/

namespace Interception.Hint

open Interception.Name

/-- The lists of tokens that a text can have: a mark is no name character, and a run is not empty and
does not stand before another run. -/
inductive Maximal : List Token → Prop where
  | nil : Maximal []
  | mark {c : Char} {rest : List Token} (hmark : isNameChar c = false) (hrest : Maximal rest) :
    Maximal (.mark c :: rest)
  | name {run : List Char} {rest : List Token} (hrun : IsRun run)
    (hend : ∀ other, rest.head? ≠ some (.name other)) (hrest : Maximal rest) :
    Maximal (.name run :: rest)

/-- The tokens of a text are maximal. -/
theorem maximal_tokens (text : List Char) : Maximal (tokens text) := by
  induction text with
  | nil => exact .nil
  | cons c rest ih =>
    rw [tokens]
    split
    · next hc =>
      split
      · next run others h =>
        rw [h] at ih
        cases ih with
        | name hrun hend hrest =>
          refine .name ⟨List.cons_ne_nil _ _, ?_⟩ hend hrest
          rintro d (_ | ⟨_, hd⟩)
          · exact hc
          · exact hrun.chars d hd
      · next hothers =>
        refine .name ⟨List.cons_ne_nil _ _, by simpa using hc⟩ ?_ ih
        intro other hhead
        obtain ⟨others, h⟩ := List.head?_eq_some_iff.mp hhead
        exact hothers other others h
    · next hc => exact .mark (by simpa using hc) ih

/-- A run among maximal tokens reads as one name. -/
theorem Maximal.isRun {parts : List Token} {run : List Char} (h : Maximal parts)
    (hmem : .name run ∈ parts) : IsRun run := by
  induction h with
  | nil => cases hmem
  | mark _ _ ih =>
    rcases List.mem_cons.mp hmem with hfirst | hrest
    · cases hfirst
    · exact ih hrest
  | name hrun _ _ ih =>
    rcases List.mem_cons.mp hmem with hfirst | hrest
    · cases hfirst
      exact hrun
    · exact ih hrest

theorem tokens_of_mark {c : Char} (h : isNameChar c = false) (rest : List Char) :
    tokens (c :: rest) = .mark c :: tokens rest := by
  rw [tokens, if_neg (by simp [h])]

/-- A run in front of a text that does not start with a run is read as one token. -/
theorem tokens_append_of_isRun {run text : List Char} (hrun : IsRun run)
    (hend : ∀ other, (tokens text).head? ≠ some (.name other)) :
    tokens (run ++ text) = .name run :: tokens text := by
  obtain ⟨hne, hchars⟩ := hrun
  induction run with
  | nil => exact absurd rfl hne
  | cons c rest ih =>
    have hc : isNameChar c = true := hchars c List.mem_cons_self
    rw [List.cons_append, tokens, if_pos hc]
    cases rest with
    | nil =>
      rw [List.nil_append]
      split
      · next other others h => exact absurd (by rw [h]; rfl) (hend other)
      · rfl
    | cons d rest => rw [ih (List.cons_ne_nil _ _) fun e he => hchars e (List.mem_cons_of_mem c he)]

/-- Maximal tokens are read back from the text that they spell. -/
theorem Maximal.tokens_flatMap {parts : List Token} (h : Maximal parts) :
    tokens (parts.flatMap Token.chars) = parts := by
  induction h with
  | nil => rfl
  | mark hmark _ ih =>
    rw [List.flatMap_cons, Token.chars, List.singleton_append, tokens_of_mark hmark, ih]
  | @name run rest hrun hend _ ih =>
    rw [List.flatMap_cons, Token.chars, tokens_append_of_isRun hrun (by rwa [ih]), ih]

/-- The token with its name, unless it is a builtin, sent through `f`. -/
def Token.rename (f : String → String) : Token → Token
  | .name run => .name (if isBuiltin (String.ofList run) then run else (f (String.ofList run)).toList)
  | .mark c => .mark c

theorem Token.chars_rename (f : String → String) (token : Token) :
    (token.rename f).chars = token.renamed f := by
  cases token <;> rfl

/-- Renaming keeps tokens maximal if every new name reads as one name. -/
theorem Maximal.map_rename {f : String → String} {parts : List Token} (h : Maximal parts)
    (hf : ∀ run, .name run ∈ parts → isBuiltin (String.ofList run) = false →
      IsRun (f (String.ofList run)).toList) : Maximal (parts.map (Token.rename f)) := by
  induction h with
  | nil => exact .nil
  | mark hmark _ ih =>
    exact .mark hmark (ih fun run hmem => hf run (List.mem_cons_of_mem _ hmem))
  | @name run rest hrun hend _ ih =>
    refine .name ?_ ?_ (ih fun other hmem => hf other (List.mem_cons_of_mem _ hmem))
    · by_cases hbuiltin : isBuiltin (String.ofList run) = true
      · rwa [if_pos hbuiltin]
      · rw [if_neg hbuiltin]
        exact hf run List.mem_cons_self (by simpa using hbuiltin)
    · intro other hhead
      -- a token that is a name after renaming was one before
      cases rest with
      | nil => cases hhead
      | cons first others =>
        cases first with
        | mark c => cases hhead
        | name next => exact hend next rfl

/-- The names of types in a hint, in order. -/
def classNames (hint : String) : List String :=
  (tokens hint.toList).filterMap fun token =>
    match token with
    | .name run => if isBuiltin (String.ofList run) then none else some (String.ofList run)
    | .mark _ => none

theorem mem_classNames_iff {hint name : String} :
    name ∈ classNames hint ↔ .name name.toList ∈ tokens hint.toList ∧ isBuiltin name = false := by
  rw [classNames, List.mem_filterMap]
  constructor
  · rintro ⟨token, hmem, hname⟩
    cases token with
    | mark c => cases hname
    | name run =>
      cases hword : isBuiltin (String.ofList run) with
      | true => simp [hword] at hname
      | false =>
        obtain rfl : String.ofList run = name := by simpa [hword] using hname
        rw [String.toList_ofList]
        exact ⟨hmem, hword⟩
  · rintro ⟨hmem, hclass⟩
    exact ⟨_, hmem, by simp [hclass]⟩

theorem chars_of_mem_classNames {hint name : String} (h : name ∈ classNames hint) :
    ∀ c ∈ name.toList, isNameChar c = true :=
  ((maximal_tokens hint.toList).isRun (mem_classNames_iff.mp h).1).chars

theorem mem_classNames {hint : String} {run : List Char} (hmem : .name run ∈ tokens hint.toList)
    (hclass : isBuiltin (String.ofList run) = false) : String.ofList run ∈ classNames hint := by
  refine List.mem_filterMap.mpr ⟨.name run, hmem, ?_⟩
  simp [hclass]

/-- Renaming a hint renames its tokens one by one. -/
theorem tokens_mapNames {f : String → String} {hint : String}
    (hf : ∀ name ∈ classNames hint, IsRun (f name).toList) :
    tokens (mapNames f hint).toList = (tokens hint.toList).map (Token.rename f) := by
  have hspelled : (mapNames f hint).toList =
      ((tokens hint.toList).map (Token.rename f)).flatMap Token.chars := by
    have hchars : (fun token => (Token.rename f token).chars) = Token.renamed f :=
      funext (Token.chars_rename f)
    rw [mapNames, String.toList_ofList, List.flatMap_map, hchars]
  have hmaximal : Maximal ((tokens hint.toList).map (Token.rename f)) :=
    (maximal_tokens hint.toList).map_rename fun run hmem hclass => hf _ (mem_classNames hmem hclass)
  rw [hspelled, hmaximal.tokens_flatMap]

end Interception.Hint
