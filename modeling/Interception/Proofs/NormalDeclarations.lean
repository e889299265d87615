import Interception.Catalog.Manifest

/-!
# Declarations with normalized names

A declaration is normal if no name in it starts with a separator.  Main statements: building up a
declaration step by step keeps it normal, and so is every declaration that a manifest brings.
-/

namespace Interception

open Name

/-- Neither the name of the type nor that of a relative starts with a separator. -/
structure Declaration.Normal (decl : Declaration) : Prop where
  name : decl.name.toList.head? ≠ some separator
  parent : ∀ parent ∈ decl.parent, parent.toList.head? ≠ some separator
  traits : ∀ trait ∈ decl.traits, trait.toList.head? ≠ some separator
  interfaces : ∀ interface ∈ decl.interfaces, interface.toList.head? ≠ some separator

namespace Declaration

variable {decl : Declaration}

theorem mem_foldl_addName {names others : List String} {name : String} :
    name ∈ others.foldl addName names ↔ name ∈ names ∨ name ∈ others := by
  induction others generalizing names with
  | nil => simp
  | cons first others ih => rw [List.foldl_cons, ih, mem_addName, List.mem_cons, or_assoc]

/-- Normalized names do not start with a separator, and leaving out repetitions adds none. -/
theorem head?_of_mem_foldl_addName {names : List String} {name : String}
    (h : name ∈ (names.map normalize).foldl addName []) : name.toList.head? ≠ some separator := by
  obtain ⟨written, -, rfl⟩ := List.mem_map.1 ((mem_foldl_addName.1 h).resolve_left List.not_mem_nil)
  exact head?_normalize written

theorem normal_normalized (decl : Declaration) : decl.normalized.Normal where
  name := head?_normalize decl.name
  parent := by
    intro parent hparent
    obtain ⟨written, -, rfl⟩ := Option.map_eq_some_iff.1 (Option.mem_def.1 hparent)
    exact head?_normalize written
  traits _ := head?_of_mem_foldl_addName
  interfaces _ := head?_of_mem_foldl_addName

/-- What a catalog holds was put into it. -/
theorem mem_of_mem_foldl_insert {decls : List Declaration} {catalog : Catalog} {decl : Declaration}
    (h : decl ∈ (decls.foldl Catalog.insert catalog).decls) :
    decl ∈ catalog.decls ∨ decl ∈ decls := by
  induction decls generalizing catalog with
  | nil => exact .inl h
  | cons first others ih =>
    rcases ih h with hcatalog | hothers
    · rcases List.mem_append.1 hcatalog with hkept | hfirst
      · exact .inl (List.mem_filter.1 hkept).1
      · rw [List.mem_singleton.1 hfirst]
        exact .inr List.mem_cons_self
    · exact .inr (List.mem_cons_of_mem first hothers)

/-- The declarations that a manifest brings have normalized names. -/
theorem normal_of_ofManifest {manifest : Json} {catalog : Catalog} {name : String}
    (hcatalog : Catalog.ofManifest manifest = .ok catalog) (hdecl : catalog.lookup name = .ok decl) :
    decl.Normal := by
  have hmem : decl ∈ catalog.decls := by
    rw [Catalog.lookup] at hdecl
    split at hdecl
    · next found hfound =>
      obtain rfl := Except.ok.inj hdecl
      exact List.mem_of_find?_eq_some hfound
    · cases hdecl
  rw [Catalog.ofManifest] at hcatalog
  split at hcatalog
  · obtain rfl := Except.ok.inj hcatalog
    obtain ⟨written, -, rfl⟩ :=
      List.mem_map.1 ((mem_of_mem_foldl_insert hmem).resolve_left List.not_mem_nil)
    exact normal_normalized written
  · cases hcatalog

theorem normal_empty (name : String) (kind : Kind) : (empty name kind).Normal where
  name := head?_normalize name
  parent _ hparent := absurd hparent nofun
  traits _ htrait := absurd htrait List.not_mem_nil
  interfaces _ hinterface := absurd hinterface List.not_mem_nil

theorem Normal.extending (h : decl.Normal) (parent : String) : (decl.extending parent).Normal where
  name := h.name
  parent := by
    intro other hother
    obtain rfl := Option.some.inj (Option.mem_def.1 hother)
    exact head?_normalize parent
  traits := h.traits
  interfaces := h.interfaces

/-- Adding a normalized name to names without a leading separator. -/
theorem head?_of_mem_addName {names : List String} {name : String}
    (h : ∀ other ∈ names, other.toList.head? ≠ some separator) :
    ∀ other ∈ addName names (normalize name), other.toList.head? ≠ some separator := by
  intro other hother
  rcases mem_addName.1 hother with hold | rfl
  · exact h other hold
  · exact head?_normalize name

theorem Normal.mixing (h : decl.Normal) (trait : String) : (decl.mixing trait).Normal where
  name := h.name
  parent := h.parent
  traits := head?_of_mem_addName h.traits
  interfaces := h.interfaces

theorem Normal.implementing (h : decl.Normal) (interface : String) :
    (decl.implementing interface).Normal where
  name := h.name
  parent := h.parent
  traits := h.traits
  interfaces := head?_of_mem_addName h.interfaces

end Declaration

end Interception
