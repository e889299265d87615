import Interception.Proofs.ActionParameters

/-!
# How the names in a hint are exchanged

The class names of a hint are handed to somebody one after the other, and each is replaced by what comes
back for it.  Main statement: these names are the maximal runs of name characters that are no builtins,
each handed over once, from left to right, even if whoever gets them does something on the way; all else
stays in its place; names that come back as they were leave the hint as it was; and exchanging the new
names once more is the same as exchanging the old ones for the newest.
-/

namespace Interception.Hint

open Name

/-! ## A text and the names exchanged in it -/

/-- The second text is the first with its class names exchanged: `calls` has each of them with what has
come for it, from left to right. -/
inductive Exchanges : List Char → List (String × String) → List Char → Prop where
  | nil : Exchanges [] [] []
  | mark {c : Char} {rest out : List Char} {calls : List (String × String)}
    (hmark : isNameChar c = false) (hrest : Exchanges rest calls out) :
    Exchanges (c :: rest) calls (c :: out)
  | builtin {run rest out : List Char} {calls : List (String × String)} (hrun : IsRun run)
    (hend : ∀ c ∈ rest.head?, isNameChar c = false) (hword : isBuiltin (String.ofList run) = true)
    (hrest : Exchanges rest calls out) : Exchanges (run ++ rest) calls (run ++ out)
  | className {run rest out : List Char} {calls : List (String × String)} {new : String}
    (hrun : IsRun run) (hend : ∀ c ∈ rest.head?, isNameChar c = false)
    (hword : isBuiltin (String.ofList run) = false) (hrest : Exchanges rest calls out) :
    Exchanges (run ++ rest) ((String.ofList run, new) :: calls) (new.toList ++ out)

/-- The class name that a token is. -/
def Token.className? : Token → Option String
  | .name run => if isBuiltin (String.ofList run) then none else some (String.ofList run)
  | .mark _ => none

theorem classNames_eq (hint : String) :
    classNames hint = (tokens hint.toList).filterMap Token.className? := by
  rw [classNames]
  refine List.filterMap_congr fun token _ => ?_
  cases token <;> rfl

theorem className?_of_class {run : List Char} (h : isBuiltin (String.ofList run) = false) :
    Token.className? (.name run) = some (String.ofList run) := if_neg (by simp [h])

theorem className?_of_builtin {run : List Char} (h : isBuiltin (String.ofList run) = true) :
    Token.className? (.name run) = none := if_pos h

/-- The text of the tokens with the names that have come in place of the class names. -/
def exchanged : List Token → List String → List Char
  | [], _ => []
  | .mark c :: rest, news => c :: exchanged rest news
  | .name run :: rest, news =>
    if isBuiltin (String.ofList run) then run ++ exchanged rest news
    else (news.headD "").toList ++ exchanged rest news.tail

/-- The hint with these names in place of its class names. -/
def put (hint : String) (news : List String) : String :=
  String.ofList (exchanged (tokens hint.toList) news)

/-- What has been handed over, and what was made with the names that came. -/
theorem Exchanges.of_text {text out : List Char} {calls : List (String × String)}
    (h : Exchanges text calls out) :
    calls.map Prod.fst = (tokens text).filterMap Token.className? ∧
      out = exchanged (tokens text) (calls.map Prod.snd) := by
  induction h with
  | nil => exact ⟨rfl, rfl⟩
  | mark hmark _ ih =>
    rw [tokens_of_mark hmark]
    exact ⟨ih.1, by rw [exchanged, ← ih.2]⟩
  | builtin hrun hend hword _ ih =>
    rw [tokens_append_of_isRun hrun (head?_tokens_ne_name hend)]
    refine ⟨?_, by rw [exchanged, if_pos hword, ← ih.2]⟩
    rw [List.filterMap_cons_none (className?_of_builtin hword), ih.1]
  | className hrun hend hword _ ih =>
    rw [tokens_append_of_isRun hrun (head?_tokens_ne_name hend)]
    refine ⟨?_, ?_⟩
    · rw [List.filterMap_cons_some (className?_of_class hword), List.map_cons, ih.1]
    · rw [exchanged, if_neg (by simp [hword]), List.map_cons, List.headD_cons, List.tail_cons, ← ih.2]

/-- Any names may come, one for each. -/
theorem Maximal.exchanges {parts : List Token} (h : Maximal parts) {calls : List (String × String)}
    (hcalls : calls.map Prod.fst = parts.filterMap Token.className?) :
    Exchanges (parts.flatMap Token.chars) calls (exchanged parts (calls.map Prod.snd)) := by
  induction h generalizing calls with
  | nil =>
    obtain rfl := List.map_eq_nil_iff.1 hcalls
    exact .nil
  | mark hmark _ ih => exact .mark hmark (ih hcalls)
  | @name run rest hrun hend hrest ih =>
    have hstop := hrest.head?_chars hend
    rw [List.flatMap_cons, Token.chars, exchanged]
    cases hword : isBuiltin (String.ofList run) with
    | true =>
      rw [List.filterMap_cons_none (className?_of_builtin hword)] at hcalls
      exact .builtin hrun hstop hword (ih hcalls)
    | false =>
      rw [List.filterMap_cons_some (className?_of_class hword)] at hcalls
      obtain ⟨⟨name, new⟩, others, rfl, rfl, hothers⟩ := List.map_eq_cons_iff.1 hcalls
      exact .className hrun hstop hword (ih hothers)

/-- The class names are the ones that are handed over, in their order, and what is made with the names
that have come is the only text that may be made with them. -/
theorem exchanges_iff {hint out : String} {calls : List (String × String)} :
    Exchanges hint.toList calls out.toList ↔
      calls.map Prod.fst = classNames hint ∧ out = put hint (calls.map Prod.snd) := by
  rw [classNames_eq, put, ← String.toList_inj, String.toList_ofList]
  constructor
  · exact Exchanges.of_text
  · rintro ⟨hcalls, hout⟩
    have h := (maximal_tokens hint.toList).exchanges hcalls
    rwa [flatMap_chars_tokens, ← hout] at h

/-! ## Exchanging by a function and by an act -/

theorem exchanged_map (f : String → String) (parts : List Token) :
    exchanged parts ((parts.filterMap Token.className?).map f) =
      parts.flatMap (Token.renamed f) := by
  induction parts with
  | nil => rfl
  | cons first rest ih =>
    rw [List.flatMap_cons, ← ih]
    cases first with
    | mark c => rfl
    | name run =>
      rw [exchanged, Token.renamed]
      cases hword : isBuiltin (String.ofList run) with
      | true =>
        rw [List.filterMap_cons_none (className?_of_builtin hword)]
        rfl
      | false =>
        rw [List.filterMap_cons_some (className?_of_class hword)]
        rfl

/-- A function gives each class name its new name. -/
theorem mapNames_eq_put (f : String → String) (hint : String) :
    mapNames f hint = put hint ((classNames hint).map f) := by
  rw [mapNames, put, classNames_eq, exchanged_map]

section Acts

variable {m : Type → Type} [Monad m]

/-- The text of a token after its name, unless it is a builtin, has gone through the act `f`. -/
def Token.renamedM (f : String → m String) : Token → m (List Char)
  | .name run =>
    if isBuiltin (String.ofList run) then pure run else String.toList <$> f (String.ofList run)
  | .mark c => pure [c]

/-- The hint with every type name in it sent through the act `f`; builtins and marks stay. -/
def mapNamesM (f : String → m String) (hint : String) : m String :=
  (fun parts => String.ofList parts.flatten) <$> (tokens hint.toList).mapM (Token.renamedM f)

variable [LawfulMonad m]

/-- The act gets the class names in their order and gets nothing else. -/
theorem mapM_renamedM (f : String → m String) (parts : List Token) :
    List.flatten <$> parts.mapM (Token.renamedM f) =
      exchanged parts <$> (parts.filterMap Token.className?).mapM f := by
  induction parts with
  | nil => simp [exchanged]
  | cons first rest ih =>
    have hrest : ∀ front : List Char,
        (fun others => front ++ List.flatten others) <$> rest.mapM (Token.renamedM f) =
          (fun news => front ++ exchanged rest news) <$>
            (rest.filterMap Token.className?).mapM f := fun front => by
      rw [← Functor.map_map List.flatten (front ++ ·), ih, Functor.map_map]
    cases first with
    | mark c =>
      rw [List.filterMap_cons_none rfl]
      simpa [Token.renamedM, exchanged] using hrest [c]
    | name run =>
      cases hword : isBuiltin (String.ofList run) with
      | true =>
        rw [List.filterMap_cons_none (className?_of_builtin hword)]
        simpa [Token.renamedM, exchanged, hword] using hrest run
      | false =>
        rw [List.filterMap_cons_some (className?_of_class hword)]
        simp [Token.renamedM, exchanged, hword, hrest]

/-- What is made with the names that the act gives, one after the other. -/
theorem mapNamesM_eq (f : String → m String) (hint : String) :
    mapNamesM f hint = put hint <$> (classNames hint).mapM f := by
  have hparts := congrArg (String.ofList <$> ·) (mapM_renamedM f (tokens hint.toList))
  simp only [Functor.map_map] at hparts
  rw [classNames_eq, mapNamesM]
  exact hparts

end Acts

/-- An act that does nothing but give a name is a function. -/
theorem run_mapNamesM (f : String → Id String) (hint : String) :
    Id.run (mapNamesM f hint) = mapNames (fun name => Id.run (f name)) hint := by
  rw [mapNamesM_eq, mapNames_eq_put, Id.run_map, ← List.idRun_mapM]

/-- Names that read as one name each, and as no builtin, are exchanged again where they stand. -/
theorem mapNames_mapNames {f g : String → String} {hint : String}
    (hf : ∀ name ∈ classNames hint, IsRun (f name).toList ∧ isBuiltin (f name) = false) :
    mapNames g (mapNames f hint) = mapNames (g ∘ f) hint := by
  have htokens := tokens_mapNames fun name hname => (hf name hname).1
  rw [mapNames, htokens, mapNames, List.flatMap_map]
  refine congrArg String.ofList (List.flatMap_congr fun token hmem => ?_)
  cases token with
  | mark c => rfl
  | name run =>
    rw [Token.rename, Token.renamed, Token.renamed]
    cases hword : isBuiltin (String.ofList run) with
    | true => simp [hword]
    | false => simp [(hf _ (mem_classNames hmem hword)).2]

/-- A hint is made of its class names and of what stays.  The class names are its maximal runs of name
characters that are no builtins, and whoever exchanges them gets each of them once, from left to right,
whether it is a function or does something on the way; what comes for a name stands in its place, and
all else stays where it was.  So the identity changes nothing; and two functions, the first of which
gives names that are no builtins, do one after the other what they do together. -/
theorem mapNames_exchanges (hint : String) :
    mapNames id hint = hint ∧
      (∀ (calls : List (String × String)) (out : String), Exchanges hint.toList calls out.toList ↔
        calls.map Prod.fst = classNames hint ∧ out = put hint (calls.map Prod.snd)) ∧
      (∀ f : String → String, mapNames f hint = put hint ((classNames hint).map f)) ∧
      (∀ (m : Type → Type) [Monad m] [LawfulMonad m] (f : String → m String),
        mapNamesM f hint = put hint <$> (classNames hint).mapM f) ∧
      (∀ f : String → Id String,
        Id.run (mapNamesM f hint) = mapNames (fun name => Id.run (f name)) hint) ∧
      ∀ f g : String → String,
        (∀ name ∈ classNames hint, IsRun (f name).toList ∧ isBuiltin (f name) = false) →
          mapNames g (mapNames f hint) = mapNames (g ∘ f) hint := by
  refine ⟨mapNames_id hint, fun calls out => exchanges_iff, fun f => mapNames_eq_put f hint, ?_,
    fun f => run_mapNamesM f hint, fun f g hf => mapNames_mapNames hf⟩
  intro m _ _ f
  exact mapNamesM_eq f hint

/-- Puts a number behind the name, one higher each time. -/
def numbered (name : String) : StateM ℕ String := do
  let number ← get
  set (number + 1)
  return name ++ number.repr

/-- In a compound hint, the class names are numbered from left to right, and names that are made longer
and then put in brackets are what they are if both is done at once; the marks and the builtins stay,
whatever the case of their letters. -/
theorem mapNames_exchanges_of_compoundHint :
    let hint := "(A&B)|NULL|int|\\C\\D"
    let longer := fun name => name ++ "_"
    let bracketed := fun name => "<" ++ name ++ ">"
    classNames hint = ["A", "B", "\\C\\D"] ∧
      (mapNamesM numbered hint).run 1 = ("(A1&B2)|NULL|int|\\C\\D3", 4) ∧
      (∀ name ∈ classNames hint, IsRun (longer name).toList ∧ isBuiltin (longer name) = false) ∧
      mapNames bracketed (mapNames longer hint) = mapNames (bracketed ∘ longer) hint ∧
      mapNames (bracketed ∘ longer) hint = "(<A_>&<B_>)|NULL|int|<\\C\\D_>" := by
  intro hint longer bracketed
  have hnames : classNames hint = ["A", "B", "\\C\\D"] := by decide +kernel
  have hchecked : ∀ name ∈ classNames hint, (longer name).toList ≠ [] ∧
      (longer name).toList.all isNameChar = true ∧ isBuiltin (longer name) = false := by
    rw [hnames]
    decide +kernel
  have hlonger : ∀ name ∈ classNames hint,
      IsRun (longer name).toList ∧ isBuiltin (longer name) = false := by
    intro name hname
    obtain ⟨hne, hchars, hword⟩ := hchecked name hname
    exact ⟨⟨hne, List.all_eq_true.1 hchars⟩, hword⟩
  obtain ⟨-, -, -, hacts, -, htwice⟩ := mapNames_exchanges hint
  refine ⟨hnames, ?_, hlonger, htwice longer bracketed hlonger, by decide +kernel⟩
  have hput : put hint ["A1", "B2", "\\C\\D3"] = "(A1&B2)|NULL|int|\\C\\D3" := by decide +kernel
  rw [hacts (StateM ℕ) numbered, hnames]
  exact congrArg (·, 4) hput

end Interception.Hint
