import Interception.Name

/-!
# Type hints

A hint is text in which type names stand between marks such as `?`, `|`, `&` and brackets.
`tokens` takes it apart into marks and maximal runs of name characters, and `mapNames` renames the
runs that are not builtin.  Main statements: the tokens spell the hint, and renaming with the
identity changes nothing.
-/

namespace Interception.Hint

open Interception.Name

/-- A run of name characters, or one character of any other kind. -/
inductive Token where
  | name (run : List Char)
  | mark (c : Char)
deriving DecidableEq

/-- The text of a token. -/
def Token.chars : Token → List Char
  | .name run => run
  | .mark c => [c]

/-- The maximal runs of name characters and the marks between them, in order. -/
def tokens : List Char → List Token
  | [] => []
  | c :: rest =>
    if isNameChar c then
      -- the character joins the run that stands right after it, if one does
      match tokens rest with
      | .name run :: others => .name (c :: run) :: others
      | others => .name [c] :: others
    else .mark c :: tokens rest

/-- The text of a token after its name, unless it is a builtin, has gone through `f`. -/
def Token.renamed (f : String → String) : Token → List Char
  | .name run => if isBuiltin (String.ofList run) then run else (f (String.ofList run)).toList
  | .mark c => [c]

/-- The hint with every type name in it sent through `f`; builtins and marks stay. -/
def mapNames (f : String → String) (hint : String) : String :=
  String.ofList ((tokens hint.toList).flatMap (Token.renamed f))

/-- The tokens spell the hint. -/
theorem flatMap_chars_tokens (text : List Char) : (tokens text).flatMap Token.chars = text := by
  induction text with
  | nil => rfl
  | cons c rest ih =>
    rw [tokens]
    split
    · split
      · next run others h =>
        rw [h] at ih
        simp only [List.flatMap_cons, Token.chars] at ih ⊢
        simp [← ih]
      · simp [Token.chars, ih]
    · simp [Token.chars, ih]

theorem Token.renamed_id (token : Token) : token.renamed id = token.chars := by
  cases token <;> simp [Token.renamed, Token.chars]

/-- Renaming every name to itself changes nothing. -/
theorem mapNames_id (hint : String) : mapNames id hint = hint := by
  have h : Token.renamed id = Token.chars := funext Token.renamed_id
  rw [mapNames, h, flatMap_chars_tokens, String.ofList_toList]

end Interception.Hint
