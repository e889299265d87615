import Interception.Advice.Codec
import Interception.Proofs.NormalDeclarations
import Interception.Proofs.PrintedValues
import Interception.Proxy.Weave
import Interception.Settings.Codec

/-!
# Records that data restore

A record is written with its absent options left out and read back field by field.  Main statement:
every declaration, advice and choice of settings, and every part of a declaration, is read back as it
was written, from its text too; and so a manifest of normal declarations without repeated relatives
loads as the catalog of these declarations.
-/

namespace Interception

open Name

namespace Json

/-! ## What is read back -/

/-- What `write` makes of a value, `read` reads as this value, and null it reads as none. -/
structure Restores {α : Type} (write : α → Json) (read : Json → Option α) : Prop where
  read_write : ∀ value, read (write value) = some value
  read_null : read .null = none

section Readers

variable {α : Type} {write : α → Json} {read : Json → Option α}

theorem restores_text : Restores .str text? := ⟨fun _ => rfl, rfl⟩

theorem restores_bool : Restores .bool bool? := ⟨fun _ => rfl, rfl⟩

theorem Restores.list (h : Restores write read) :
    Restores (fun items => .arr (items.map write)) (list? read) where
  read_write items := by
    show (items.map write).mapM read = some items
    induction items with
    | nil => rfl
    | cons first items ih => simp [List.mapM_cons, h.read_write, ih]
  read_null := rfl

theorem restores_texts : Restores texts (list? text?) := restores_text.list

theorem intBetween?_int {low high value : Int} (hlow : low ≤ value) (hhigh : value ≤ high) :
    (Json.int value).intBetween? low high = some value := by
  simp [intBetween?, int?, Option.filter, hlow, hhigh]

theorem restores_word16 : Restores (fun word : UInt16 => .int word.toNat) word16? where
  read_write word := by
    have hhigh : (word.toNat : Int) ≤ 65535 := by have := word.toNat_lt; omega
    rw [word16?, intBetween?_int (Int.natCast_nonneg _) hhigh]
    simp
  read_null := rfl

theorem restores_word32 : Restores (fun word : UInt32 => .int word.toNat) word32? where
  read_write word := by
    have hhigh : (word.toNat : Int) ≤ 4294967295 := by have := word.toNat_lt; omega
    rw [word32?, intBetween?_int (Int.natCast_nonneg _) hhigh]
    simp
  read_null := rfl

theorem restores_int32 : Restores (fun word : Int32 => .int word.toInt) int32? where
  read_write word := by
    have hlow : (-2147483648 : Int) ≤ word.toInt := word.le_toInt
    have hhigh : word.toInt ≤ 2147483647 := by have := word.toInt_lt; omega
    rw [int32?, intBetween?_int hlow hhigh]
    simp
  read_null := rfl

end Readers

/-! ## Fields of a written record -/

/-- The members of a record that are present. -/
def present (members : List (String × Option Json)) : List (String × Json) :=
  members.filterMap fun member => member.2.map fun value => (member.1, value)

/-- What the fields of a record were written with. -/
def written (members : List (String × Option Json)) : Fields := fun name =>
  (members.lookup name).join

theorem written_cons (key name : String) (value : Option Json)
    (members : List (String × Option Json)) :
    written ((key, value) :: members) name = if name = key then value else written members name := by
  by_cases hname : name = key
  · simp [written, hname]
  · have hne : (name == key) = false := by simpa using hname
    simp [written, List.lookup_cons, hne, hname]

theorem written_of_not_mem {members : List (String × Option Json)} {name : String}
    (h : name ∉ members.map Prod.fst) : written members name = none := by
  have hnone : members.lookup name = none := by
    rw [List.lookup_eq_none_iff]
    intro member hmember
    simpa using fun heq : name = member.1 => h (heq ▸ List.mem_map_of_mem hmember)
  rw [written, hnone]
  rfl

theorem sublist_present (members : List (String × Option Json)) :
    ((present members).map Prod.fst).Sublist (members.map Prod.fst) := by
  induction members with
  | nil => exact .slnil
  | cons first members ih =>
    obtain ⟨name, _ | value⟩ := first
    · exact ih.cons name
    · exact ih.cons_cons name

/-- Among the members that are present, a name finds what its field was written with. -/
theorem lookup_present {members : List (String × Option Json)}
    (hdistinct : (members.map Prod.fst).Nodup) (name : String) :
    (present members).lookup name = written members name := by
  induction members with
  | nil => rfl
  | cons first members ih =>
    obtain ⟨hfirst, hrest⟩ := List.nodup_cons.1 hdistinct
    obtain ⟨key, _ | value⟩ := first
    · have hleft : present ((key, none) :: members) = present members := rfl
      rw [hleft, ih hrest, written_cons]
      by_cases hname : name = key
      · -- the field was left out here, and no other has its name
        rw [if_pos hname, hname, written_of_not_mem hfirst]
      · rw [if_neg hname]
    · have hkept : present ((key, some value) :: members) = (key, value) :: present members := rfl
      rw [hkept, List.lookup_cons, ih hrest, written_cons]
      by_cases hname : name = key
      · simp [hname]
      · have hne : (name == key) = false := by simpa using hname
        simp [hname, hne]

/-- A record is read by the names that it was written with. -/
theorem fields?_object {names : List String} {members : List (String × Option Json)}
    (hnames : members.map Prod.fst = names) (hdistinct : names.Nodup) :
    fields? names (object members) = some (written members) := by
  subst hnames
  have hkeys : (((present members).map Prod.fst).filter (members.map Prod.fst).contains).Nodup :=
    ((sublist_present members).nodup hdistinct).filter _
  show (if (((present members).map Prod.fst).filter (members.map Prod.fst).contains).Nodup then _
    else none) = _
  rw [if_pos hkeys]
  congr 1
  funext name
  by_cases hname : name ∈ members.map Prod.fst
  · rw [if_pos hname]
    exact lookup_present hdistinct name
  · rw [if_neg hname, written_of_not_mem hname]

section Fields

variable {α β : Type} {write : α → Json} {read : Json → Option α} {fields : Fields} {name : String}

theorem bind_required (h : Restores write read) (value : α) {next : α → Option β}
    (hfield : fields name = some (write value)) :
    (required fields name read >>= next) = next value := by
  rw [required, hfield, Option.bind_some, h.read_write]
  rfl

theorem bind_orElse (h : Restores write read) (value : α) {default : α} {next : α → Option β}
    (hfield : fields name = some (write value)) :
    (orElse fields name read default >>= next) = next value := by
  simp only [orElse, hfield, h.read_write]
  rfl

theorem bind_optional (h : Restores write read) (value : Option α) {next : Option α → Option β}
    (hfield : fields name = value.map write) :
    (optional fields name read >>= next) = next value := by
  have hread : optional fields name read = some value := by
    cases value with
    | none => simp [optional, hfield]
    | some value =>
      have hvalue := h.read_write value
      rw [optional, hfield, Option.map_some]
      split
      · next hnone => cases hnone
      · next hnull =>
        -- null is not written for any value, since it is read as none
        rw [Option.some.inj hnull, h.read_null] at hvalue
        cases hvalue
      · next hsome =>
        rw [← Option.some.inj hsome, hvalue]
        rfl
  rw [hread]
  rfl

end Fields

end Json

open Json

/-! ## The parts of a declaration -/

theorem Access.restores : Restores toJson ofJson? where
  read_write access := by cases access <;> rfl
  read_null := rfl

theorem Kind.restores : Restores toJson ofJson? where
  read_write kind := by cases kind <;> rfl
  read_null := rfl

theorem Parameter.restores : Restores toJson ofJson? where
  read_write parameter := by
    rw [ofJson?, toJson, fields?_object, Option.bind_eq_bind, Option.bind_some,
      bind_required restores_text parameter.name,
      bind_optional restores_text parameter.hint,
      bind_optional restores_text parameter.default,
      bind_orElse restores_bool parameter.byRef,
      bind_orElse restores_bool parameter.variadic]
    · rfl
    all_goals simp [written_cons]
  read_null := rfl

theorem Method.restores : Restores toJson ofJson? where
  read_write method := by
    rw [ofJson?, toJson, fields?_object, Option.bind_eq_bind, Option.bind_some,
      bind_required restores_text method.name,
      bind_optional Access.restores method.access,
      bind_orElse restores_bool method.isStatic,
      bind_orElse restores_bool method.isAbstract,
      bind_orElse restores_bool method.isFinal,
      bind_orElse Parameter.restores.list method.parameters,
      bind_optional restores_text method.returns,
      bind_optional restores_texts method.body]
    · rfl
    all_goals simp [written_cons]
  read_null := rfl

theorem Property.restores : Restores toJson ofJson? where
  read_write property := by
    rw [ofJson?, toJson, fields?_object, Option.bind_eq_bind, Option.bind_some,
      bind_required restores_text property.name,
      bind_optional Access.restores property.access,
      bind_orElse restores_bool property.isStatic,
      bind_optional restores_text property.hint,
      bind_optional restores_text property.default]
    · rfl
    all_goals simp [written_cons]
  read_null := rfl

theorem Constant.restores : Restores toJson ofJson? where
  read_write constant := by
    rw [ofJson?, toJson, fields?_object, Option.bind_eq_bind, Option.bind_some,
      bind_required restores_text constant.name,
      bind_optional Access.restores constant.access,
      bind_required restores_text constant.value]
    · rfl
    all_goals simp [written_cons]
  read_null := rfl

theorem Declaration.restores : Restores toJson ofJson? where
  read_write decl := by
    rw [ofJson?, toJson, fields?_object, Option.bind_eq_bind, Option.bind_some,
      bind_required restores_text decl.name,
      bind_required Kind.restores decl.kind,
      bind_orElse restores_bool decl.isAbstract,
      bind_orElse restores_bool decl.isFinal,
      bind_optional restores_text decl.parent,
      bind_orElse restores_texts decl.traits,
      bind_orElse restores_texts decl.interfaces,
      bind_orElse Constant.restores.list decl.constants,
      bind_orElse Property.restores.list decl.properties,
      bind_orElse Method.restores.list decl.methods]
    · rfl
    all_goals simp [written_cons]
  read_null := rfl

/-! ## Advice and settings -/

/-- An object is a record all of whose fields are present. -/
theorem Json.obj_eq_object (members : List (String × Json)) :
    Json.obj members = object (members.map fun member => (member.1, some member.2)) := by
  rw [object, List.filterMap_map]
  exact congrArg Json.obj List.filterMap_some.symm

theorem Advice.Kind.restores : Restores (fun kind : Advice.Kind => .str kind.keyword) ofJson? where
  read_write kind := by cases kind; rfl
  read_null := rfl

theorem Advice.restores : Restores toJson ofJson? where
  read_write advice := by
    rw [ofJson?, toJson, obj_eq_object, fields?_object, Option.bind_eq_bind, Option.bind_some,
      bind_required restores_text advice.aspect,
      bind_required restores_text advice.target,
      bind_required Advice.Kind.restores advice.kind,
      bind_orElse restores_int32 advice.priority]
    · rfl
    all_goals simp [written_cons]
  read_null := rfl

theorem Version.restores : Restores toJson ofJson? where
  read_write version := by
    rw [ofJson?, toJson, obj_eq_object, fields?_object, Option.bind_eq_bind, Option.bind_some,
      bind_required restores_word32 version.major,
      bind_required restores_word32 version.minor,
      bind_required restores_word32 version.patch]
    · rfl
    all_goals simp [written_cons]
  read_null := rfl

theorem WeaveSettings.restores : Restores toJson ofJson? where
  read_write settings := by
    rw [ofJson?, toJson, obj_eq_object, fields?_object, Option.bind_eq_bind, Option.bind_some,
      bind_orElse Version.restores settings.version,
      bind_orElse restores_bool settings.strictTypes,
      bind_orElse restores_text settings.banner,
      bind_orElse restores_text settings.proxyTrait,
      bind_orElse restores_text settings.propertyTrait]
    · rfl
    all_goals simp [written_cons]
  read_null := rfl

theorem GateSettings.restores : Restores toJson ofJson? where
  read_write settings := by
    rw [ofJson?, toJson, obj_eq_object, fields?_object, Option.bind_eq_bind, Option.bind_some,
      bind_orElse restores_text settings.marker,
      bind_orElse restores_word16 settings.forbiddenStatus]
    · rfl
    all_goals simp [written_cons]
  read_null := rfl

/-! ## Texts of records -/

namespace Json

theorem plain_object {members : List (String × Option Json)}
    (h : ∀ member ∈ members, ∀ value ∈ member.2, Plain value) : Plain (object members) := by
  refine .obj fun found hfound => ?_
  obtain ⟨member, hmember, hpresent⟩ := List.mem_filterMap.1 hfound
  obtain ⟨value, hvalue, rfl⟩ := Option.map_eq_some_iff.1 hpresent
  exact h member hmember value hvalue

theorem plain_list {α : Type} {write : α → Json} (h : ∀ item, Plain (write item))
    (items : List α) : Plain (.arr (items.map write)) := by
  refine .arr fun json hjson => ?_
  obtain ⟨item, -, rfl⟩ := List.mem_map.1 hjson
  exact h item

theorem plain_texts (items : List String) : Plain (texts items) := plain_list .str items

/-- What `write` makes of a value is read as this value, from data and from the text of the data. -/
def Kept {α : Type} (write : α → Json) (read : Json → Option α) : Prop :=
  ∀ value, read (write value) = some value ∧ (read? (print (write value))).bind read = some value

theorem Restores.kept {α : Type} {write : α → Json} {read : Json → Option α}
    (h : Restores write read) (hplain : ∀ value, Plain (write value)) : Kept write read := by
  intro value
  rw [read?_print (hplain value), Option.bind_some]
  exact ⟨h.read_write value, h.read_write value⟩

end Json

theorem Parameter.plain_toJson (parameter : Parameter) : Plain parameter.toJson :=
  plain_object (by simp [Plain.str, Plain.bool])

theorem Method.plain_toJson (method : Method) : Plain method.toJson :=
  plain_object (by
    simp [Plain.str, Plain.bool, Access.toJson, plain_texts, plain_list Parameter.plain_toJson])

theorem Property.plain_toJson (property : Property) : Plain property.toJson :=
  plain_object (by simp [Plain.str, Plain.bool, Access.toJson])

theorem Constant.plain_toJson (constant : Constant) : Plain constant.toJson :=
  plain_object (by simp [Plain.str, Access.toJson])

theorem Declaration.plain_toJson (decl : Declaration) : Plain decl.toJson :=
  plain_object (by
    simp [Plain.str, Plain.bool, Kind.toJson, plain_texts, plain_list Constant.plain_toJson,
      plain_list Property.plain_toJson, plain_list Method.plain_toJson])

theorem Advice.plain_toJson (advice : Advice) : Plain advice.toJson :=
  .obj (by simp [Plain.str, Plain.int])

theorem Version.plain_toJson (version : Version) : Plain version.toJson :=
  .obj (by simp [Plain.int])

theorem WeaveSettings.plain_toJson (settings : WeaveSettings) : Plain settings.toJson :=
  .obj (by simp [Plain.str, Plain.bool, Version.plain_toJson])

theorem GateSettings.plain_toJson (settings : GateSettings) : Plain settings.toJson :=
  .obj (by simp [Plain.str, Plain.int])

/-! ## Manifests -/

namespace Declaration

/-- A declaration with normalized names that repeats no relative. -/
structure Settled (decl : Declaration) : Prop where
  normal : decl.Normal
  traits : decl.traits.Nodup
  interfaces : decl.interfaces.Nodup

theorem foldl_addName_append {names others : List String} (h : (names ++ others).Nodup) :
    others.foldl addName names = names ++ others := by
  induction others generalizing names with
  | nil => simp
  | cons first others ih =>
    have hfirst : first ∉ names := fun hmem =>
      (List.nodup_append.1 h).2.2 first hmem first List.mem_cons_self rfl
    have hassoc : names ++ first :: others = (names ++ [first]) ++ others := by simp
    rw [List.foldl_cons, addName, if_neg hfirst, ih (hassoc ▸ h), hassoc]

theorem foldl_addName_of_nodup {names : List String} (h : names.Nodup) :
    names.foldl addName [] = names := foldl_addName_append (by simpa using h)

theorem map_normalize_eq {names : List String}
    (h : ∀ name ∈ names, name.toList.head? ≠ some separator) : names.map normalize = names := by
  rw [List.map_congr_left fun name hname => normalize_of_head? (h name hname), List.map_id']

/-- Such a declaration stays as it is when its names are normalized. -/
theorem Settled.normalized_eq {decl : Declaration} (h : decl.Settled) : decl.normalized = decl := by
  have hname : normalize decl.name = decl.name := normalize_of_head? h.normal.name
  have hparent : decl.parent.map normalize = decl.parent := by
    cases hdecl : decl.parent with
    | none => rfl
    | some parent => rw [Option.map_some, normalize_of_head? (h.normal.parent parent hdecl)]
  have htraits : (decl.traits.map normalize).foldl addName [] = decl.traits := by
    rw [map_normalize_eq h.normal.traits, foldl_addName_of_nodup h.traits]
  have hinterfaces : (decl.interfaces.map normalize).foldl addName [] = decl.interfaces := by
    rw [map_normalize_eq h.normal.interfaces, foldl_addName_of_nodup h.interfaces]
  rw [normalized, hname, hparent, htraits, hinterfaces]

end Declaration

namespace Catalog

/-- A manifest lists the declarations that it was made of. -/
theorem listed?_manifest (decls : List Declaration) : listed? (manifest decls) = some decls := by
  rw [listed?, manifest, fields?_object, Option.bind_eq_bind, Option.bind_some, required]
  · simp [written_cons, Declaration.restores.list.read_write]
  all_goals simp

theorem plain_manifest (decls : List Declaration) : Plain (manifest decls) :=
  plain_object (by simp [plain_list Declaration.plain_toJson])

/-- A manifest of such declarations is the catalog of these declarations. -/
theorem ofManifest_manifest {decls : List Declaration} (h : ∀ decl ∈ decls, decl.Settled) :
    ofManifest (manifest decls) = .ok (ofList decls) := by
  have hsame : decls.map Declaration.normalized = decls := by
    rw [List.map_congr_left fun decl hdecl => (h decl hdecl).normalized_eq, List.map_id']
  simp only [ofManifest, listed?_manifest, hsame]

end Catalog

/-- Parameters, methods, declarations, advice and settings are read back as they were written.  A
manifest of declarations with normalized names and without repeated relatives has a text, and every
text of it loads as the catalog that the declarations make when they are put in one after the other;
so the proxies woven over the two are the same. -/
theorem records_restored :
    Kept Parameter.toJson Parameter.ofJson? ∧ Kept Method.toJson Method.ofJson? ∧
      Kept Declaration.toJson Declaration.ofJson? ∧ Kept Advice.toJson Advice.ofJson? ∧
      Kept WeaveSettings.toJson WeaveSettings.ofJson? ∧ Kept GateSettings.toJson GateSettings.ofJson? ∧
      ∀ decls : List Declaration, (∀ decl ∈ decls, decl.Settled) →
        read? (print (Catalog.manifest decls)) = some (Catalog.manifest decls) ∧
        ∀ text, read? text = some (Catalog.manifest decls) →
          ∃ loaded, Catalog.ofText text = .ok loaded ∧ loaded = Catalog.ofList decls ∧
            ∀ advising settings name, weave loaded.lookup advising settings name =
              weave (Catalog.ofList decls).lookup advising settings name := by
  refine ⟨Parameter.restores.kept Parameter.plain_toJson, Method.restores.kept Method.plain_toJson,
    Declaration.restores.kept Declaration.plain_toJson, Advice.restores.kept Advice.plain_toJson,
    WeaveSettings.restores.kept WeaveSettings.plain_toJson,
    GateSettings.restores.kept GateSettings.plain_toJson, ?_⟩
  intro decls hdecls
  refine ⟨read?_print (Catalog.plain_manifest decls), fun text htext => ?_⟩
  have hloaded : Catalog.ofText text = .ok (Catalog.ofList decls) := by
    simp only [Catalog.ofText, htext, Catalog.ofManifest_manifest hdecls]
  exact ⟨Catalog.ofList decls, hloaded, rfl, fun _ _ _ => rfl⟩

/-- A repository with a relative of each sort, a method without a body and one whose body is empty. -/
def storedRepository : Declaration :=
  ⟨"App\\Orders", .classKind, true, false, some "App\\Repository", ["App\\Cached"],
    ["App\\Finds", "App\\Stores"], [⟨"TABLE", none, "'orders'"⟩],
    [⟨"rows", some .owner, true, some "array", none⟩],
    [⟨"find", some .anyone, false, true, false,
        [⟨"id", some "?int", some "null", false, false⟩], some "Order", none⟩,
      ⟨"flush", none, false, false, true, [⟨"tags", none, none, true, true⟩], none, some []⟩]⟩

theorem settled_storedRepository : storedRepository.Settled where
  normal :=
    { name := by decide
      parent := by decide
      traits := by decide
      interfaces := by decide }
  traits := by decide
  interfaces := by decide

/-- What is woven over the repository as it was stored is what is woven over it as it was declared. -/
theorem records_restored_of_storedRepository :
    ∃ loaded, Catalog.ofText (print (Catalog.manifest [storedRepository])) = .ok loaded ∧
      weave loaded.lookup (fun _ => []) .standard "App\\Orders" =
        weave (Catalog.ofList [storedRepository]).lookup (fun _ => []) .standard "App\\Orders" := by
  have hsettled : ∀ decl ∈ [storedRepository], decl.Settled := by
    simpa using settled_storedRepository
  obtain ⟨htext, hload⟩ := records_restored.2.2.2.2.2.2 [storedRepository] hsettled
  obtain ⟨loaded, hloaded, -, hweave⟩ := hload _ htext
  exact ⟨loaded, hloaded, hweave (fun _ => []) .standard "App\\Orders"⟩

end Interception
