/-!
# JSON values

A value as it stands in JSON text: members of an object keep their order and may repeat, and
integers are told from other numbers.  Strings that hold half of a surrogate pair name no text; such
a value is `garbled`, which may be skipped but never read.
-/

namespace Interception

/-- A JSON value. -/
inductive Json where
  | null
  | bool (value : Bool)
  /-- A number written as an integer. -/
  | int (value : Int)
  /-- Any other number, as it is written. -/
  | real (written : String)
  | str (value : String)
  | arr (items : List Json)
  | obj (members : List (String × Json))
  /-- A string without a meaning, or an object with such a key. -/
  | garbled
deriving Inhabited

namespace Json

/-- An object of the members that are present. -/
def object (members : List (String × Option Json)) : Json :=
  .obj (members.filterMap fun member => member.2.map fun value => (member.1, value))

/-- A list of texts as an array. -/
def texts (items : List String) : Json := .arr (items.map .str)

/-- The truth value, if this is one. -/
def bool? : Json → Option Bool
  | .bool value => some value
  | _ => none

/-- The text, if this is one. -/
def text? : Json → Option String
  | .str value => some value
  | _ => none

/-- The integer, if this is one. -/
def int? : Json → Option Int
  | .int value => some value
  | _ => none

/-- The items of an array, each read by `item`. -/
def list? {α : Type} (item : Json → Option α) : Json → Option (List α)
  | .arr items => items.mapM item
  | _ => none

/-- The integer, if this is one and lies between `low` and `high`. -/
def intBetween? (low high : Int) (json : Json) : Option Int :=
  json.int?.filter fun value => decide (low ≤ value) && decide (value ≤ high)

/-- The 16-bit number, if this is one. -/
def word16? (json : Json) : Option UInt16 :=
  (json.intBetween? 0 65535).map fun value => UInt16.ofNat value.toNat

/-- The 32-bit number, if this is one. -/
def word32? (json : Json) : Option UInt32 :=
  (json.intBetween? 0 4294967295).map fun value => UInt32.ofNat value.toNat

/-- The signed 32-bit number, if this is one. -/
def int32? (json : Json) : Option Int32 :=
  (json.intBetween? (-2147483648) 2147483647).map Int32.ofInt

end Json

end Interception
