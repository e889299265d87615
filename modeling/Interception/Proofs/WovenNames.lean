import Interception.Proofs.NormalDeclarations
import Interception.Proofs.QualifiedNames
import Interception.Proofs.WeavableTypes

/-!
# The names in a woven type

A woven type stands in the namespace of the declared one, and refers to other types as they are
displayed there.  Main statement: whoever resolves these names in that namespace gets the declared
name, the parent, the interfaces and the traits back, each in its place and in order; besides these
there are only the traits that weaving adds, in front.
-/

namespace Interception

open Name Text

/-! ## Versions -/

/-- The version is the other one or comes after it: the first part in which they differ decides. -/
def Version.AtLeast (version other : Version) : Prop :=
  other.major < version.major ∨ version.major = other.major ∧
    (other.minor < version.minor ∨ version.minor = other.minor ∧ other.patch ≤ version.patch)

/-- Two numbers decide, and if they are equal what comes next does. -/
theorem Version.isGE_then_iff {a b : Nat} {next : Ordering} :
    ((compare a b).then next).isGE = true ↔ b < a ∨ a = b ∧ next.isGE = true := by
  rcases Nat.lt_trichotomy a b with hlt | rfl | hgt
  · rw [Nat.compare_eq_lt.2 hlt]
    simp [Nat.not_lt_of_lt hlt, Nat.ne_of_lt hlt]
  · simp
  · rw [Nat.compare_eq_gt.2 hgt]
    simp [hgt]

theorem Version.isGE_order_iff {version other : Version} :
    (order version other).isGE = true ↔ version.AtLeast other := by
  rw [order, isGE_then_iff, isGE_then_iff, Nat.isGE_compare, AtLeast]
  simp only [UInt32.lt_iff_toNat_lt, UInt32.le_iff_toNat_le, UInt32.toNat_inj]

/-! ## The names of a woven type -/

/-- The traits that weaving adds to a type of this kind. -/
inductive WeaveSettings.Adds (settings : WeaveSettings) : Kind → List String → Prop where
  | toClass : Adds settings .classKind [settings.proxyTrait, settings.propertyTrait]
  | toTrait (hversion : settings.version.AtLeast ⟨7, 3, 0⟩) :
    Adds settings .traitKind [settings.proxyTrait]
  | toEarlyTrait (hversion : ¬ settings.version.AtLeast ⟨7, 3, 0⟩) : Adds settings .traitKind []
  | toInterface : Adds settings .interfaceKind []

theorem Declaration.adds_addedTraits (settings : WeaveSettings) (kind : Kind) :
    settings.Adds kind (addedTraits settings kind) := by
  cases kind with
  | classKind => exact .toClass
  | interfaceKind => exact .toInterface
  | traitKind =>
    rw [addedTraits]
    split
    · next hversion => exact .toTrait (Version.isGE_order_iff.1 hversion)
    · next hversion => exact .toEarlyTrait (mt Version.isGE_order_iff.2 hversion)

/-- What a name written in the file stands for. -/
def SourceFile.meaning (file : SourceFile) (name : String) : String :=
  qualify name (file.space.getD "")

/-- The type in the file is the declared one: it has its kind, its modifiers and its name, and the
names that are written there stand for the relatives of the declared type, each in its place. -/
structure SourceFile.Introduces (file : SourceFile) (settings : WeaveSettings) (decl : Declaration) :
    Prop where
  kind : file.type.kind = decl.kind
  isAbstract : file.type.isAbstract = decl.isAbstract
  isFinal : file.type.isFinal = decl.isFinal
  name : file.meaning file.type.name = decl.name
  /-- A class extends its parent and implements its interfaces. -/
  ofClass : decl.kind = .classKind → file.type.parents.map file.meaning = decl.parent.toList ∧
    file.type.contracts.map file.meaning = decl.interfaces
  /-- A trait neither extends nor implements anything. -/
  ofTrait : decl.kind = .traitKind → file.type.parents = [] ∧ file.type.contracts = [] ∧
    decl.parent = none ∧ decl.interfaces = []
  /-- An interface extends its interfaces. -/
  ofInterface : decl.kind = .interfaceKind → file.type.parents.map file.meaning = decl.interfaces ∧
    file.type.contracts = [] ∧ decl.parent = none ∧ decl.traits = []
  mixins : ∃ added own, file.type.mixins = added ++ own ∧ settings.Adds decl.kind added ∧
    own.map file.meaning = decl.traits

namespace Declaration

variable {decl : Declaration}

theorem kindObstacle?_of_accepted (h : decl.obstacle? = none) : decl.kindObstacle? = none :=
  (Option.or_eq_none_iff.1 h).1

/-- A trait that can be woven has neither a parent nor interfaces. -/
theorem relatives_of_trait (h : decl.obstacle? = none) (hkind : decl.kind = .traitKind) :
    decl.parent = none ∧ decl.interfaces = [] :=
  (kindObstacle?_of_trait hkind).1 (kindObstacle?_of_accepted h)

/-- An interface that can be woven has neither a parent nor traits. -/
theorem relatives_of_interface (h : decl.obstacle? = none) (hkind : decl.kind = .interfaceKind) :
    decl.parent = none ∧ decl.traits = [] := by
  obtain ⟨hparent, htraits, -⟩ := (kindObstacle?_of_interface hkind).1 (kindObstacle?_of_accepted h)
  exact ⟨hparent, htraits⟩

/-- The file of a proxy names its namespace unless it is the global one, which has the empty name. -/
theorem meaning_proxy (lookup : String → Except Fault Declaration) (advice : List Advice)
    (settings : WeaveSettings) (decl : Declaration) (name : String) :
    (decl.proxy lookup advice settings).file.meaning name = qualify name decl.space := by
  rw [SourceFile.meaning]
  simp only [proxy]
  split
  · next hspace => rw [hspace]; rfl
  · rfl

/-- Displayed in the namespace of the declared type, names stand for themselves in its proxy. -/
theorem map_meaning_display {names : List String} (lookup : String → Except Fault Declaration)
    (advice : List Advice) (settings : WeaveSettings) (decl : Declaration)
    (h : ∀ name ∈ names, name.toList.head? ≠ some separator) :
    (names.map (display · decl.space)).map (decl.proxy lookup advice settings).file.meaning =
      names := by
  rw [List.map_map]
  refine (List.map_congr_left fun name hname => ?_).trans names.map_id
  exact (meaning_proxy lookup advice settings decl _).trans (qualify_display (h name hname) _)

theorem introduces_proxy (lookup : String → Except Fault Declaration) (advice : List Advice)
    (settings : WeaveSettings) (haccepted : decl.obstacle? = none) (hnormal : decl.Normal) :
    (decl.proxy lookup advice settings).file.Introduces settings decl where
  kind := rfl
  isAbstract := rfl
  isFinal := rfl
  name := (meaning_proxy lookup advice settings decl _).trans (qualify_shortOf hnormal.name)
  ofClass := by
    intro hkind
    have hparent : ∀ name ∈ decl.parent.toList, name.toList.head? ≠ some separator :=
      fun name hname => hnormal.parent name (Option.mem_toList.1 hname)
    have hmeaning := map_meaning_display lookup advice settings decl hparent
    have hmeaning' := map_meaning_display lookup advice settings decl hnormal.interfaces
    simp only [proxy, wovenType, hkind] at hmeaning hmeaning' ⊢
    exact ⟨hmeaning, hmeaning'⟩
  ofTrait := by
    intro hkind
    obtain ⟨hparent, hinterfaces⟩ := relatives_of_trait haccepted hkind
    refine ⟨?_, ?_, hparent, hinterfaces⟩ <;> simp [proxy, wovenType, hkind, hparent, hinterfaces]
  ofInterface := by
    intro hkind
    obtain ⟨hparent, htraits⟩ := relatives_of_interface haccepted hkind
    have hmeaning := map_meaning_display lookup advice settings decl hnormal.interfaces
    simp only [proxy, wovenType, hkind] at hmeaning ⊢
    exact ⟨hmeaning, rfl, hparent, htraits⟩
  mixins := ⟨_, _, rfl, adds_addedTraits settings decl.kind,
    map_meaning_display lookup advice settings decl hnormal.traits⟩

end Declaration

/-- A declaration that nothing stands in the way of, and whose names are normalized, has a proxy, and
the type in it is the declared one under the same name, with the same relatives. -/
theorem weave_introduces {lookup : String → Except Fault Declaration} {name : String}
    {decl : Declaration} (hdecl : lookup name = .ok decl) (haccepted : decl.obstacle? = none)
    (hnormal : decl.Normal) (advising : List String → List Advice) (settings : WeaveSettings) :
    ∃ proxy, weave lookup advising settings name = .ok proxy ∧
      proxy.file.Introduces settings decl :=
  ⟨_, weave_eq_ok_iff.2 ⟨decl, hdecl, haccepted, rfl⟩,
    decl.introduces_proxy lookup _ settings haccepted hnormal⟩

/-- A class with relatives inside and outside of its namespace, one of which has its short name. -/
def relatedClass : Declaration :=
  ((((Declaration.empty "\\App\\Models\\User" .classKind).extending "App\\Models\\Base").mixing
    "\\App\\Named").mixing "App\\Models\\Named").implementing "User"

/-- Every name leads to that class. -/
def relatedFamily (_ : String) : Except Fault Declaration := .ok relatedClass

/-- The names written for that class stand for its relatives, although two of them are short. -/
theorem weave_introduces_of_relatedClass :
    relatedClass.obstacle? = none ∧ relatedClass.Normal ∧
      ∃ proxy, weave relatedFamily (fun _ => []) .standard "App\\Models\\User" = .ok proxy ∧
        proxy.file.type.parents = ["Base"] ∧ proxy.file.type.contracts = ["\\User"] ∧
        proxy.file.type.mixins = ["\\Weave\\Aop\\ProxyTrait", "\\Weave\\Aop\\PropertyHandlerTrait",
          "\\App\\Named", "Named"] ∧
        proxy.file.Introduces .standard relatedClass := by
  have hdecl : relatedFamily "App\\Models\\User" = .ok relatedClass := rfl
  have haccepted : relatedClass.obstacle? = none := by decide +kernel
  have hnormal : relatedClass.Normal :=
    ((((Declaration.normal_empty _ _).extending _).mixing _).mixing _).implementing _
  obtain ⟨proxy, hwoven, hintroduces⟩ :=
    weave_introduces hdecl haccepted hnormal (fun _ => []) .standard
  refine ⟨haccepted, hnormal, proxy, hwoven, ?_, ?_, ?_, hintroduces⟩
  all_goals
    obtain ⟨decl, hother, -, rfl⟩ := weave_eq_ok_iff.1 hwoven
    obtain rfl := Except.ok.inj (hdecl.symm.trans hother)
    decide +kernel

end Interception
