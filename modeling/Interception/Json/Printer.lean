import Interception.Json
import Interception.Text.Brace

/-!
# Writing JSON text

A value is written without blanks.  In strings only quotes, backslashes and control characters are
escaped.  A garbled value has no text of its own and is written as null.
-/

namespace Interception.Json

/-- A hexadecimal digit. -/
def hexDigit (value : Nat) : Char := Nat.digitChar (value % 16)

/-- A character inside a string. -/
def escape (c : Char) : List Char :=
  if c = '"' then ['\\', '"']
  else if c = '\\' then ['\\', '\\']
  else if c.toNat < 32 then ['\\', 'u', '0', '0', hexDigit (c.toNat / 16), hexDigit c.toNat]
  else [c]

/-- A text as a string. -/
def quoted (text : String) : String :=
  "\"" ++ String.ofList (text.toList.flatMap escape) ++ "\""

mutual

/-- The text of a value. -/
def print : Json → String
  | .null => "null"
  | .bool true => "true"
  | .bool false => "false"
  | .int value => toString value
  | .real written => written
  | .str value => quoted value
  | .arr items => "[" ++ printItems items ++ "]"
  | .obj members => Text.braced (printMembers members)
  | .garbled => "null"

/-- The items of an array. -/
def printItems : List Json → String
  | [] => ""
  | [item] => print item
  | item :: next :: others => print item ++ "," ++ printItems (next :: others)

/-- The members of an object. -/
def printMembers : List (String × Json) → String
  | [] => ""
  | [(key, value)] => quoted key ++ ":" ++ print value
  | (key, value) :: next :: others =>
    quoted key ++ ":" ++ print value ++ "," ++ printMembers (next :: others)

end

end Interception.Json
