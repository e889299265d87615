import Interception.Declaration
import Interception.Fault

/-!
# Catalogs of declarations

A catalog knows declarations by name, one under each.  Putting in a second declaration of a name
replaces the first; looking up does not mind leading separators.  Main statements: after an
insertion the inserted declaration is found under its name and every other name finds what it did.
-/

namespace Interception

open Name

/-- Declarations, no two of one name. -/
structure Catalog where
  decls : List Declaration
  distinct : (decls.map Declaration.name).Nodup

namespace Catalog

/-- The catalog that knows nothing. -/
def empty : Catalog := ⟨[], by simp⟩

/-- The declarations of all names but one. -/
def others (decls : List Declaration) (name : String) : List Declaration :=
  decls.filter fun decl => decl.name ≠ name

theorem nodup_others_append {decls : List Declaration} (decl : Declaration)
    (h : (decls.map Declaration.name).Nodup) :
    ((others decls decl.name ++ [decl]).map Declaration.name).Nodup := by
  rw [List.map_append, List.nodup_append]
  refine ⟨?_, by simp, ?_⟩
  · unfold others
    exact h.sublist (List.Sublist.map _ List.filter_sublist)
  · intro a ha b hb heq
    obtain ⟨other, hother, rfl⟩ := List.mem_map.1 ha
    have hne := (List.mem_filter.1 hother).2
    -- the only name on the right is the one that was filtered out
    simp only [List.map_cons, List.map_nil, List.mem_singleton] at hb
    simp [heq, hb] at hne

/-- Puts a declaration in, under its name as it stands, in place of any other of that name. -/
def insert (catalog : Catalog) (decl : Declaration) : Catalog :=
  ⟨others catalog.decls decl.name ++ [decl], nodup_others_append decl catalog.distinct⟩

/-- The declaration whose name is exactly `name`. -/
def find? (catalog : Catalog) (name : String) : Option Declaration :=
  catalog.decls.find? fun decl => decl.name = name

/-- The declaration of `name`, with or without a leading separator. -/
def lookup (catalog : Catalog) (name : String) : Except Fault Declaration :=
  match catalog.find? (normalize name) with
  | some decl => .ok decl
  | none => .error (.unknownType (normalize name))

/-- How many declarations there are. -/
def size (catalog : Catalog) : Nat := catalog.decls.length

/-- A bound on the names that can be met on the way from any type to its ancestors: the type itself
and every parent and interface that some declaration lists. -/
def reach (catalog : Catalog) : Nat :=
  catalog.decls.foldr
    (fun decl bound => decl.interfaces.length + decl.parent.toList.length + bound) 1

/-- The declarations put in one after the other. -/
def ofList (decls : List Declaration) : Catalog := decls.foldl insert empty

theorem find?_insert_self (catalog : Catalog) (decl : Declaration) :
    (catalog.insert decl).find? decl.name = some decl := by
  unfold find? insert others
  rw [List.find?_append, List.find?_eq_none.2]
  · simp
  · intro other hother
    simpa using (List.mem_filter.1 hother).2

theorem find?_insert_of_ne (catalog : Catalog) {decl : Declaration} {name : String}
    (h : name ≠ decl.name) : (catalog.insert decl).find? name = catalog.find? name := by
  unfold find? insert others
  rw [List.find?_append, List.find?_filter]
  have hlast : [decl].find? (fun other => decide (other.name = name)) = none := by
    simp [Ne.symm h]
  rw [hlast, Option.or_none]
  congr 1
  funext other
  by_cases hother : other.name = name
  · simp [hother, h]
  · simp [hother]

/-- An insertion is seen under the name of what was inserted and nowhere else. -/
theorem find?_insert (catalog : Catalog) (decl : Declaration) (name : String) :
    (catalog.insert decl).find? name =
      if name = decl.name then some decl else catalog.find? name := by
  by_cases h : name = decl.name
  · rw [if_pos h, h, find?_insert_self]
  · rw [if_neg h, find?_insert_of_ne catalog h]

end Catalog

end Interception
