import Interception.Proofs.LastSuch
import Interception.Proofs.RestoredRecords
import Mathlib.Data.Finset.Card
import Mathlib.Data.List.Induction

/-!
# What a manifest brings

A manifest lists declarations as somebody wrote them down: names with or without separators before
them, relatives named twice, several declarations of one type.  Main statement: loaded, it is a catalog
that has the last declaration of each name, with every name as it is without separators before it, every
relative once, where it was named first, and all else as it was written.
-/

namespace Interception

open Json Name

namespace Declaration

/-! ## A declaration with its names normalized -/

/-- The names without separators before them, each where it stands first. -/
def KeepsNames (written kept : List String) : Prop :=
  ∃ bare, List.Forall₂ Bare written bare ∧ kept = bare.eraseDups

/-- `decl` is the declaration `written` with its names kept so, and all else as it was written. -/
structure Normalizes (written decl : Declaration) : Prop where
  name : Bare written.name decl.name
  kind : decl.kind = written.kind
  isAbstract : decl.isAbstract = written.isAbstract
  isFinal : decl.isFinal = written.isFinal
  parent : Option.Rel Bare written.parent decl.parent
  traits : KeepsNames written.traits decl.traits
  interfaces : KeepsNames written.interfaces decl.interfaces
  constants : decl.constants = written.constants
  properties : decl.properties = written.properties
  methods : decl.methods = written.methods

/-- Added one after the other, names are added where they stand first. -/
theorem foldl_addName_eq_eraseDups (names : List String) :
    names.foldl addName [] = names.eraseDups := by
  induction names using List.reverseRecOn with
  | nil => rfl
  | append_singleton names last ih =>
    rw [List.foldl_append, ih, List.eraseDups_append]
    by_cases hlast : last ∈ names
    · simp [addName, List.removeAll, hlast]
    · simp [addName, List.removeAll, hlast, List.eraseDups_cons]

theorem nodup_foldl_addName {names others : List String} (h : names.Nodup) :
    (others.foldl addName names).Nodup := by
  induction others generalizing names with
  | nil => exact h
  | cons first others ih => exact ih (nodup_addName h)

theorem forall₂_bare_iff {written bare : List String} :
    List.Forall₂ Bare written bare ↔ written.map normalize = bare := by
  have hrel : Bare = fun written name => normalize written = name := by
    funext written name
    exact propext bare_iff
  rw [hrel, ← List.forall₂_map_left_iff (R := Eq), List.forall₂_eq_eq_eq]

theorem keepsNames_iff {written kept : List String} :
    KeepsNames written kept ↔ (written.map normalize).foldl addName [] = kept := by
  simp only [KeepsNames, forall₂_bare_iff, exists_eq_left', foldl_addName_eq_eraseDups,
    eq_comm (a := kept)]

theorem rel_bare_iff {written kept : Option String} :
    Option.Rel Bare written kept ↔ written.map normalize = kept := by
  constructor
  · rintro (⟨hbare⟩ | _)
    · rw [Option.map_some, bare_iff.1 hbare]
    · rfl
  · rintro rfl
    cases written with
    | none => exact .none
    | some name => exact .some (bare_iff.2 rfl)

theorem normalizes_iff {written decl : Declaration} :
    written.Normalizes decl ↔ written.normalized = decl := by
  constructor
  · intro h
    obtain ⟨name, kind, isAbstract, isFinal, parent, traits, interfaces, constants, properties,
      methods⟩ := decl
    obtain ⟨hname, rfl, rfl, rfl, hparent, htraits, hinterfaces, rfl, rfl, rfl⟩ := h
    rw [normalized, bare_iff.1 hname, rel_bare_iff.1 hparent, keepsNames_iff.1 htraits,
      keepsNames_iff.1 hinterfaces]
  · rintro rfl
    exact ⟨bare_iff.2 rfl, rfl, rfl, rfl, rel_bare_iff.2 rfl, keepsNames_iff.2 rfl,
      keepsNames_iff.2 rfl, rfl, rfl, rfl⟩

theorem settled_normalized (decl : Declaration) : decl.normalized.Settled where
  normal := decl.normal_normalized
  traits := nodup_foldl_addName List.nodup_nil
  interfaces := nodup_foldl_addName List.nodup_nil

end Declaration

namespace Catalog

/-! ## Declarations put in one after the other -/

theorem find?_of_mem {catalog : Catalog} {decl : Declaration} (h : decl ∈ catalog.decls) :
    catalog.find? decl.name = some decl := by
  cases hfound : catalog.find? decl.name with
  | none =>
    have hnone := List.find?_eq_none.1 hfound decl h
    simp at hnone
  | some found =>
    have hname : found.name = decl.name := by simpa using List.find?_some hfound
    have hmem := List.mem_of_find?_eq_some hfound
    rw [List.inj_on_of_nodup_map catalog.distinct hmem h hname]

/-- Of the declarations that are put in, the last one of a name is found. -/
theorem find?_ofList (decls : List Declaration) (name : String) :
    (ofList decls).find? name = decls.reverse.find? fun decl => decl.name = name := by
  induction decls using List.reverseRecOn with
  | nil => rfl
  | append_singleton decls last ih =>
    have hlast : ofList (decls ++ [last]) = (ofList decls).insert last := by
      rw [ofList, List.foldl_append]
      rfl
    rw [hlast, find?_insert, ih, List.reverse_concat, List.find?_cons]
    by_cases hname : name = last.name
    · simp [hname]
    · simp [hname, Ne.symm hname]

/-- There are as many declarations in a catalog as names among those that were put in. -/
theorem size_ofList (decls : List Declaration) :
    (ofList decls).size = (decls.map Declaration.name).toFinset.card := by
  have hnames : ((ofList decls).decls.map Declaration.name).toFinset =
      (decls.map Declaration.name).toFinset := by
    ext name
    have hfound : ((ofList decls).find? name).isSome ↔
        (decls.reverse.find? fun decl => decl.name = name).isSome := by
      rw [find?_ofList]
    rw [find?, List.find?_isSome, List.find?_isSome] at hfound
    simpa using hfound
  rw [← hnames, List.toFinset_card_of_nodup (ofList decls).distinct, List.length_map]
  rfl

/-! ## Loaded manifests -/

/-- The last of the declarations whose name is `name`, whatever separators stand before the two. -/
def LastNamed (written : List Declaration) (name : String) (last : Declaration) : Prop :=
  ∃ before after, written = before ++ last :: after ∧ normalize last.name = normalize name ∧
    ∀ later ∈ after, normalize later.name ≠ normalize name

theorem lastNamed_iff {written : List Declaration} {name : String} {last : Declaration} :
    LastNamed written name last ↔
      (written.reverse.find? fun decl : Declaration => normalize decl.name = normalize name) =
        some last :=
  lastSuch_iff (p := fun decl : Declaration => normalize decl.name = normalize name)

/-- Loaded, the last declaration of a name is found, with its names normalized. -/
theorem find?_loaded (written : List Declaration) (name : String) :
    (ofList (written.map Declaration.normalized)).find? (normalize name) =
      (written.reverse.find? fun decl : Declaration => normalize decl.name = normalize name).map
        Declaration.normalized := by
  rw [find?_ofList, ← List.map_reverse, List.find?_map]
  rfl

theorem lookup_eq_ok_iff {catalog : Catalog} {name : String} {decl : Declaration} :
    catalog.lookup name = .ok decl ↔ catalog.find? (normalize name) = some decl := by
  rw [lookup]
  cases catalog.find? (normalize name) with
  | none => simp
  | some found => simp

theorem lookup_eq_error_iff {catalog : Catalog} {name : String} {fault : Fault} :
    catalog.lookup name = .error fault ↔
      catalog.find? (normalize name) = none ∧ fault = .unknownType (normalize name) := by
  rw [lookup]
  cases catalog.find? (normalize name) with
  | none => simp [eq_comm]
  | some found => simp

/-- Whatever a text lists, it loads as a catalog.  A name leads to the last declaration of that name,
with its names normalized, and is unknown, as it is without separators before it, if there is none.
What is in the catalog is found under its own name, no name in it starts with a separator, and it names
no relative twice; and there are as many declarations as different names. -/
theorem ofText_of_listed {text : String} {manifest : Json} {written : List Declaration}
    (htext : read? text = some manifest) (hlisted : listed? manifest = some written) :
    ∃ catalog, ofText text = .ok catalog ∧
      (∀ name decl, catalog.lookup name = .ok decl ↔
        ∃ last, LastNamed written name last ∧ last.Normalizes decl) ∧
      (∀ name fault, catalog.lookup name = .error fault ↔
        (∀ decl ∈ written, normalize decl.name ≠ normalize name) ∧
          fault = .unknownType (normalize name)) ∧
      (∀ decl ∈ catalog.decls, catalog.lookup decl.name = .ok decl ∧ decl.Settled) ∧
      catalog.size =
        (written.map fun decl : Declaration => normalize decl.name).toFinset.card := by
  refine ⟨ofList (written.map Declaration.normalized), ?_, ?_, ?_, ?_, ?_⟩
  · simp only [ofText, htext, ofManifest, hlisted]
  · intro name decl
    rw [lookup_eq_ok_iff, find?_loaded, Option.map_eq_some_iff]
    simp only [lastNamed_iff, Declaration.normalizes_iff]
  · intro name fault
    rw [lookup_eq_error_iff, find?_loaded, Option.map_eq_none_iff, List.find?_eq_none]
    simp
  · intro decl hdecl
    have hsettled : decl.Settled := by
      obtain ⟨written, -, rfl⟩ := List.mem_map.1
        ((Declaration.mem_of_mem_foldl_insert hdecl).resolve_left List.not_mem_nil)
      exact written.settled_normalized
    refine ⟨?_, hsettled⟩
    rw [lookup_eq_ok_iff, normalize_of_head? hsettled.normal.name]
    exact find?_of_mem hdecl
  · rw [size_ofList, List.map_map]
    rfl

/-- Two declarations of one type, and one of another; the last one names a trait twice. -/
def doubledTypes : List Declaration :=
  [{ Declaration.empty "" .classKind with name := "App\\Bar", parent := some "\\App\\Base" },
    { Declaration.empty "" .interfaceKind with name := "Bar" },
    { Declaration.empty "" .traitKind with name := "\\\\App\\Bar", traits := ["\\U", "T", "U"] }]

/-- The manifest of these declarations loads as a catalog of two types, and the later declaration of the
one that is declared twice is the one that counts. -/
theorem ofText_of_doubledTypes :
    ∃ catalog, ofText (print (manifest doubledTypes)) = .ok catalog ∧
      catalog.lookup "\\App\\Bar" =
        .ok { Declaration.empty "App\\Bar" .traitKind with traits := ["U", "T"] } ∧
      catalog.lookup "\\App\\Base" = .error (.unknownType "App\\Base") ∧ catalog.size = 2 := by
  have htext : read? (print (manifest doubledTypes)) = some (manifest doubledTypes) :=
    read?_print (plain_manifest doubledTypes)
  obtain ⟨catalog, hloaded, hfound, hunknown, -, hsize⟩ :=
    ofText_of_listed htext (listed?_manifest doubledTypes)
  refine ⟨catalog, hloaded, (hfound _ _).2 ⟨doubledTypes[2], ?_, ?_⟩, (hunknown _ _).2 ⟨?_, ?_⟩, ?_⟩
  · exact ⟨doubledTypes.take 2, [], rfl, by decide, by simp⟩
  · exact Declaration.normalizes_iff.2 (by decide)
  · decide
  · decide
  · rw [hsize]
    decide

end Catalog

end Interception
