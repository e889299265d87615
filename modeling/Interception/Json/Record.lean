import Interception.Json

/-!
# Records as JSON

A record is written as an object, whose unknown members do not matter, or as an array of its fields
in order, of which the last may be missing.  `fields?` finds the value of each field either way;
`required`, `optional` and `orElse` say what a missing one means.  A choice among words is written as
the word, or as an object whose only key is the word and whose value is null.
-/

namespace Interception.Json

/-- The values of a record's fields, by name. -/
abbrev Fields : Type := String → Option Json

/-- The fields called `names` of a record.  An object that repeats one of them is no record, nor is
an array with more items than there are fields. -/
def fields? (names : List String) : Json → Option Fields
  | .obj members =>
    if ((members.map Prod.fst).filter names.contains).Nodup then
      some fun name => if name ∈ names then members.lookup name else none
    else none
  | .arr items =>
    if items.length ≤ names.length then some fun name => (names.zip items).lookup name else none
  | _ => none

/-- A field that has to be there. -/
def required {α : Type} (fields : Fields) (name : String) (read : Json → Option α) : Option α :=
  (fields name).bind read

/-- A field whose absence, or null, means nothing. -/
def optional {α : Type} (fields : Fields) (name : String) (read : Json → Option α) :
    Option (Option α) :=
  match fields name with
  | none => some none
  | some .null => some none
  | some value => (read value).map some

/-- A field whose absence means `default`; null is not absence. -/
def orElse {α : Type} (fields : Fields) (name : String) (read : Json → Option α) (default : α) :
    Option α :=
  match fields name with
  | none => some default
  | some value => read value

/-- The word, if this is a choice. -/
def choice? : Json → Option String
  | .str word => some word
  | .obj [(word, .null)] => some word
  | _ => none

end Interception.Json
