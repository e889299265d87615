import Interception.Hint

/-!
# Declarations of types

What is known of a class, a trait or an interface without running it: its modifiers, its relatives
by name, and its members with bodies as source text.  Declarations are built up by the functions
here or read from data; later modules only look at them.
-/

namespace Interception

open Name Text

/-- What sort of type a declaration introduces. -/
inductive Kind where
  /-- A class, possibly abstract or final. -/
  | classKind
  /-- A trait: members to be mixed into classes. -/
  | traitKind
  /-- An interface: signatures only. -/
  | interfaceKind
deriving DecidableEq

/-- The keyword that introduces a type of this kind. -/
def Kind.keyword : Kind → String
  | .classKind => "class"
  | .traitKind => "trait"
  | .interfaceKind => "interface"

/-- From where a member can be used. -/
inductive Access where
  /-- From everywhere. -/
  | anyone
  /-- From the type and its heirs. -/
  | heirs
  /-- From the type alone. -/
  | owner
deriving DecidableEq

/-- The modifier that grants this access. -/
def Access.keyword : Access → String
  | .anyone => "public"
  | .heirs => "protected"
  | .owner => "private"

/-- A parameter of a method. -/
structure Parameter where
  /-- The name without its `$`. -/
  name : String
  /-- The declared type as written. -/
  hint : Option String
  /-- The source text of the default value. -/
  default : Option String
  /-- Whether the argument is passed by reference. -/
  byRef : Bool
  /-- Whether the parameter collects all further arguments. -/
  variadic : Bool
deriving DecidableEq

namespace Parameter

/-- A required parameter without a type. -/
def untyped (name : String) : Parameter := ⟨name, none, none, false, false⟩

/-- A required parameter with the hint `hint`. -/
def typed (name hint : String) : Parameter := { untyped name with hint := some hint }

/-- The parameter with every type name of its hint resolved as written inside `space`. -/
def qualifiedIn (parameter : Parameter) (space : String) : Parameter :=
  { parameter with hint := parameter.hint.map (Hint.mapNames (qualify · space)) }

/-- The one type that the hint names, without `?` and a leading separator.  Unions and intersections
name no single type. -/
def classType (parameter : Parameter) : Option String :=
  parameter.hint.bind fun hint =>
    let named := match hint.toList with
      | '?' :: rest => rest
      | whole => whole
    if named.contains '|' || named.contains '&' then none
    else
      match named with
      | '\\' :: rest => some (String.ofList rest)
      | whole => some (String.ofList whole)

end Parameter

/-- The name under which a class constructs its instances. -/
def constructorName : String := "__construct"

/-- A method with or without a body. -/
structure Method where
  name : String
  /-- Nothing if the declaration does not say. -/
  access : Option Access
  isStatic : Bool
  isAbstract : Bool
  isFinal : Bool
  parameters : List Parameter
  /-- The declared type of the result as written. -/
  returns : Option String
  /-- The source text of each statement; nothing for a mere signature. -/
  body : Option (List String)
deriving DecidableEq

namespace Method

/-- A public method whose body is empty. -/
def empty (name : String) : Method := ⟨name, some .anyone, false, false, false, [], none, some []⟩

/-- A public method without a body. -/
def signature (name : String) : Method := { empty name with body := none }

/-- Adds a last parameter. -/
def addParameter (method : Method) (parameter : Parameter) : Method :=
  { method with parameters := method.parameters ++ [parameter] }

/-- Adds a last statement; a method without a body gets one. -/
def addStatement (method : Method) (statement : String) : Method :=
  { method with body := some (method.body.getD [] ++ [statement]) }

/-- Makes the method abstract, which takes its body away. -/
def makeAbstract (method : Method) : Method := { method with isAbstract := true, body := none }

/-- Whether the method has a body. -/
def hasBody (method : Method) : Bool := method.body.isSome

/-- Whether the method is a constructor, in any case of its name. -/
def isConstructor (method : Method) : Bool := sameLetters method.name constructorName

/-- Whether the method has a body and is not abstract. -/
def isConcrete (method : Method) : Bool := !method.isAbstract && method.hasBody

end Method

/-- A property, kept as declared. -/
structure Property where
  name : String
  access : Option Access
  isStatic : Bool
  hint : Option String
  default : Option String
deriving DecidableEq

/-- A constant, kept as declared. -/
structure Constant where
  name : String
  access : Option Access
  /-- The source text of its value. -/
  value : String
deriving DecidableEq

/-- A declared class, trait or interface. -/
structure Declaration where
  /-- The qualified name. -/
  name : String
  kind : Kind
  isAbstract : Bool
  isFinal : Bool
  /-- The class that this one extends. -/
  parent : Option String
  /-- The traits it uses, in order. -/
  traits : List String
  /-- The interfaces it implements; for an interface, those it extends. -/
  interfaces : List String
  constants : List Constant
  properties : List Property
  methods : List Method
deriving DecidableEq

namespace Declaration

/-- A declaration without members or relatives. -/
def empty (name : String) (kind : Kind) : Declaration :=
  ⟨normalize name, kind, false, false, none, [], [], [], [], []⟩

/-- Adds a name at the end unless it is there already. -/
def addName (names : List String) (name : String) : List String :=
  if name ∈ names then names else names ++ [name]

/-- Sets the parent class. -/
def extending (decl : Declaration) (parent : String) : Declaration :=
  { decl with parent := some (normalize parent) }

/-- Adds a used trait, once. -/
def mixing (decl : Declaration) (name : String) : Declaration :=
  { decl with traits := addName decl.traits (normalize name) }

/-- Adds an interface, once. -/
def implementing (decl : Declaration) (name : String) : Declaration :=
  { decl with interfaces := addName decl.interfaces (normalize name) }

/-- Adds a last method. -/
def addMethod (decl : Declaration) (method : Method) : Declaration :=
  { decl with methods := decl.methods ++ [method] }

/-- Adds a last property. -/
def addProperty (decl : Declaration) (property : Property) : Declaration :=
  { decl with properties := decl.properties ++ [property] }

/-- Adds a last constant. -/
def addConstant (decl : Declaration) (constant : Constant) : Declaration :=
  { decl with constants := decl.constants ++ [constant] }

/-- The namespace that the type belongs to. -/
def space (decl : Declaration) : String := namespaceOf decl.name

/-- The name of the type inside its namespace. -/
def shortName (decl : Declaration) : String := shortOf decl.name

/-- The first method that the type declares under `name`, in any case. -/
def method? (decl : Declaration) (name : String) : Option Method :=
  decl.methods.find? fun method => sameLetters method.name name

/-- The constructor that the type itself declares. -/
def constructor? (decl : Declaration) : Option Method := decl.methods.find? Method.isConstructor

/-- The declaration with all names of types normalized and repeated relatives left out. -/
def normalized (decl : Declaration) : Declaration :=
  { decl with
    name := normalize decl.name
    parent := decl.parent.map normalize
    traits := (decl.traits.map normalize).foldl addName []
    interfaces := (decl.interfaces.map normalize).foldl addName [] }

/-- Looking for the constructor is looking for a method by its name. -/
theorem constructor?_eq (decl : Declaration) : decl.constructor? = decl.method? constructorName :=
  rfl

@[simp] theorem mem_addName {names : List String} {name other : String} :
    other ∈ addName names name ↔ other ∈ names ∨ other = name := by
  unfold addName
  by_cases h : name ∈ names
  · rw [if_pos h]
    constructor
    · exact Or.inl
    · rintro (hother | rfl)
      · exact hother
      · exact h
  · simp [if_neg h]

theorem nodup_addName {names : List String} {name : String} (h : names.Nodup) :
    (addName names name).Nodup := by
  unfold addName
  by_cases hmem : name ∈ names
  · rwa [if_pos hmem]
  · rw [if_neg hmem, List.nodup_append]
    refine ⟨h, by simp, ?_⟩
    intro a ha b hb heq
    -- a name that was there already is not added
    rw [List.mem_singleton] at hb
    exact hmem (hb ▸ heq ▸ ha)

end Declaration

end Interception
