import Interception.Json

/-!
# Reading JSON text

`Json.read?` accepts exactly one value of the JSON grammar with blanks around it.  A number is an
integer unless it has a fraction, an exponent, or is `-0`.  Escapes may spell characters outside the
basic plane by a pair of surrogates; half a pair makes the string garbled.
-/

namespace Interception.Json

/-- A blank of the grammar. -/
def isGap (c : Char) : Bool := c == ' ' || c == '\t' || c == '\n' || c == '\r'

/-- The text after its leading blanks. -/
def skipGap (text : List Char) : List Char := text.dropWhile isGap

/-- The value of a hexadecimal digit. -/
def hexValue? (c : Char) : Option Nat :=
  if c.isDigit then some (c.toNat - 48)
  else if 'a' ≤ c ∧ c ≤ 'f' then some (c.toNat - 87)
  else if 'A' ≤ c ∧ c ≤ 'F' then some (c.toNat - 55)
  else none

/-- The value of four hexadecimal digits. -/
def hexUnit? (a b c d : Char) : Option Nat := do
  let a ← hexValue? a
  let b ← hexValue? b
  let c ← hexValue? c
  let d ← hexValue? d
  return ((a * 16 + b) * 16 + c) * 16 + d

/-- The character that a one-letter escape stands for. -/
def escaped? : Char → Option Char
  | '"' => some '"'
  | '\\' => some '\\'
  | '/' => some '/'
  | 'b' => some '\x08'
  | 'f' => some '\x0c'
  | 'n' => some '\n'
  | 'r' => some '\r'
  | 't' => some '\t'
  | _ => none

/-- What a string is made of: characters as they are, and units written by their number. -/
inductive Piece where
  | plain (c : Char)
  | coded (value : Nat)

/-- The pieces of a string up to its closing quote, and the text after it. -/
def pieces? : List Char → Option (List Piece × List Char)
  | [] => none
  | '"' :: rest => some ([], rest)
  | '\\' :: 'u' :: a :: b :: c :: d :: rest => do
    let value ← hexUnit? a b c d
    let (pieces, rest) ← pieces? rest
    return (.coded value :: pieces, rest)
  | '\\' :: c :: rest => do
    let plain ← escaped? c
    let (pieces, rest) ← pieces? rest
    return (.plain plain :: pieces, rest)
  | c :: rest =>
    if c.toNat < 32 || c == '\\' then none
    else do
      let (pieces, rest) ← pieces? rest
      return (.plain c :: pieces, rest)

/-- The characters that pieces spell; half of a surrogate pair spells none. -/
def spelled? : List Piece → Option (List Char)
  | [] => some []
  | .plain c :: rest => (spelled? rest).map (c :: ·)
  | .coded high :: .coded low :: rest =>
    if 0xd800 ≤ high ∧ high < 0xdc00 then
      -- the two halves of a pair spell one character beyond the basic plane
      if 0xdc00 ≤ low ∧ low < 0xe000 then
        (spelled? rest).map (Char.ofNat (0x10000 + (high - 0xd800) * 0x400 + (low - 0xdc00)) :: ·)
      else none
    else if 0xdc00 ≤ high ∧ high < 0xe000 then none
    else (spelled? (.coded low :: rest)).map (Char.ofNat high :: ·)
  | .coded value :: rest =>
    if 0xd800 ≤ value ∧ value < 0xe000 then none
    else (spelled? rest).map (Char.ofNat value :: ·)

/-- A string after its opening quote, which spells a text or none, and the text after it. -/
def string? (text : List Char) : Option (Option String × List Char) :=
  (pieces? text).map fun found => ((spelled? found.1).map String.ofList, found.2)

/-- The leading digits and what follows them. -/
def digits (text : List Char) : List Char × List Char := text.span Char.isDigit

/-- The text after a fraction, if there is one; nothing for a point without digits. -/
def skipFraction? : List Char → Option (List Char × Bool)
  | '.' :: rest =>
    match digits rest with
    | ([], _) => none
    | (_, rest) => some (rest, true)
  | text => some (text, false)

/-- The text after a sign, if there is one. -/
def skipSign : List Char → List Char
  | '+' :: rest => rest
  | '-' :: rest => rest
  | text => text

/-- The text after an exponent, if there is one; nothing for a mark without digits. -/
def skipExponent? : List Char → Option (List Char × Bool)
  | c :: rest =>
    if c == 'e' || c == 'E' then
      match digits (skipSign rest) with
      | ([], _) => none
      | (_, rest) => some (rest, true)
    else some (c :: rest, false)
  | [] => some ([], false)

/-- The digits before the point: a zero alone, or digits that begin with another. -/
def whole? (text : List Char) : Option (Nat × List Char) :=
  match digits text with
  | ([], _) => none
  | (['0'], rest) => some (0, rest)
  | ('0' :: _, _) => none
  | (found, rest) => some (Nat.ofDigitChars 10 found 0, rest)

/-- A number and the text after it. -/
def number? (text : List Char) : Option (Json × List Char) := do
  let (negative, unsigned) := match text with
    | '-' :: rest => (true, rest)
    | _ => (false, text)
  let (whole, rest) ← whole? unsigned
  let (rest, hasFraction) ← skipFraction? rest
  let (rest, hasExponent) ← skipExponent? rest
  -- what no integer can be written as keeps its text
  if hasFraction || hasExponent || (negative && whole == 0) then
    return (.real (String.ofList (text.take (text.length - rest.length))), rest)
  return (.int (if negative then -(whole : Int) else whole), rest)

/-- An object of the members read, garbled if one of the keys is. -/
def ofMembers (members : List (Option String × Json)) : Json :=
  match members.mapM fun member => member.1.map fun key => (key, member.2) with
  | some members => .obj members
  | none => .garbled

mutual

/-- A value and the text after it, with at most `fuel` values nested or in a row. -/
def value? (fuel : Nat) (text : List Char) : Option (Json × List Char) :=
  match fuel with
  | 0 => none
  | fuel + 1 =>
    match skipGap text with
    | 'n' :: 'u' :: 'l' :: 'l' :: rest => some (.null, rest)
    | 't' :: 'r' :: 'u' :: 'e' :: rest => some (.bool true, rest)
    | 'f' :: 'a' :: 'l' :: 's' :: 'e' :: rest => some (.bool false, rest)
    | '"' :: rest => do
      let (string, rest) ← string? rest
      return ((string.map Json.str).getD .garbled, rest)
    | '[' :: rest =>
      match skipGap rest with
      | ']' :: rest => some (.arr [], rest)
      | rest => do
        let (items, rest) ← items? fuel rest
        return (.arr items, rest)
    | '{' :: rest =>
      match skipGap rest with
      | '}' :: rest => some (.obj [], rest)
      | rest => do
        let (members, rest) ← members? fuel rest
        return (ofMembers members, rest)
    | text => number? text

/-- The items of an array up to its end, at least one. -/
def items? (fuel : Nat) (text : List Char) : Option (List Json × List Char) :=
  match fuel with
  | 0 => none
  | fuel + 1 => do
    let (item, rest) ← value? fuel text
    match skipGap rest with
    | ']' :: rest => return ([item], rest)
    | ',' :: rest =>
      let (items, rest) ← items? fuel rest
      return (item :: items, rest)
    | _ => none

/-- The members of an object up to its end, at least one. -/
def members? (fuel : Nat) (text : List Char) : Option (List (Option String × Json) × List Char) :=
  match fuel with
  | 0 => none
  | fuel + 1 =>
    match skipGap text with
    | '"' :: rest => do
      let (key, rest) ← string? rest
      match skipGap rest with
      | ':' :: rest =>
        let (value, rest) ← value? fuel rest
        match skipGap rest with
        | '}' :: rest => return ([(key, value)], rest)
        | ',' :: rest =>
          let (members, rest) ← members? fuel rest
          return ((key, value) :: members, rest)
        | _ => none
      | _ => none
    | _ => none

end

/-- The one value that the text is. -/
def read? (text : String) : Option Json := do
  -- each step of the readers takes a character, or hands over to one that does
  let (json, rest) ← value? (2 * text.toList.length + 2) text.toList
  if skipGap rest = [] then some json else none

end Interception.Json
