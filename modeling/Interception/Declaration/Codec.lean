import Interception.Declaration
import Interception.Json.Record

/-!
# Declarations as JSON

Each part of a declaration has a form as data.  Written, an absent option is left out and every
other field is there; read, a missing flag is false and a missing list is empty.
-/

namespace Interception

open Json

/-- An access modifier as data. -/
def Access.toJson (access : Access) : Json := .str access.keyword

/-- Reads an access modifier. -/
def Access.ofJson? (json : Json) : Option Access :=
  match json.choice? with
  | some "public" => some .anyone
  | some "protected" => some .heirs
  | some "private" => some .owner
  | _ => none

/-- A kind of type as data. -/
def Kind.toJson (kind : Kind) : Json := .str kind.keyword

/-- Reads a kind of type. -/
def Kind.ofJson? (json : Json) : Option Kind :=
  match json.choice? with
  | some "class" => some .classKind
  | some "trait" => some .traitKind
  | some "interface" => some .interfaceKind
  | _ => none

/-- A parameter as data. -/
def Parameter.toJson (parameter : Parameter) : Json :=
  object [("name", some (.str parameter.name)), ("type", parameter.hint.map .str),
    ("default", parameter.default.map .str), ("by_ref", some (.bool parameter.byRef)),
    ("variadic", some (.bool parameter.variadic))]

/-- Reads a parameter. -/
def Parameter.ofJson? (json : Json) : Option Parameter := do
  let fields ← json.fields? ["name", "type", "default", "by_ref", "variadic"]
  let name ← required fields "name" text?
  let hint ← optional fields "type" text?
  let default ← optional fields "default" text?
  let byRef ← orElse fields "by_ref" bool? false
  let variadic ← orElse fields "variadic" bool? false
  return ⟨name, hint, default, byRef, variadic⟩

/-- A method as data. -/
def Method.toJson (method : Method) : Json :=
  object [("name", some (.str method.name)), ("visibility", method.access.map Access.toJson),
    ("is_static", some (.bool method.isStatic)), ("is_abstract", some (.bool method.isAbstract)),
    ("is_final", some (.bool method.isFinal)),
    ("parameters", some (.arr (method.parameters.map Parameter.toJson))),
    ("return_type", method.returns.map .str), ("body", method.body.map texts)]

/-- Reads a method. -/
def Method.ofJson? (json : Json) : Option Method := do
  let fields ← json.fields? ["name", "visibility", "is_static", "is_abstract", "is_final",
    "parameters", "return_type", "body"]
  let name ← required fields "name" text?
  let access ← optional fields "visibility" Access.ofJson?
  let isStatic ← orElse fields "is_static" bool? false
  let isAbstract ← orElse fields "is_abstract" bool? false
  let isFinal ← orElse fields "is_final" bool? false
  let parameters ← orElse fields "parameters" (list? Parameter.ofJson?) []
  let returns ← optional fields "return_type" text?
  let body ← optional fields "body" (list? text?)
  return ⟨name, access, isStatic, isAbstract, isFinal, parameters, returns, body⟩

/-- A property as data. -/
def Property.toJson (property : Property) : Json :=
  object [("name", some (.str property.name)), ("visibility", property.access.map Access.toJson),
    ("is_static", some (.bool property.isStatic)), ("type", property.hint.map .str),
    ("default", property.default.map .str)]

/-- Reads a property. -/
def Property.ofJson? (json : Json) : Option Property := do
  let fields ← json.fields? ["name", "visibility", "is_static", "type", "default"]
  let name ← required fields "name" text?
  let access ← optional fields "visibility" Access.ofJson?
  let isStatic ← orElse fields "is_static" bool? false
  let hint ← optional fields "type" text?
  let default ← optional fields "default" text?
  return ⟨name, access, isStatic, hint, default⟩

/-- A constant as data. -/
def Constant.toJson (constant : Constant) : Json :=
  object [("name", some (.str constant.name)), ("visibility", constant.access.map Access.toJson),
    ("value", some (.str constant.value))]

/-- Reads a constant. -/
def Constant.ofJson? (json : Json) : Option Constant := do
  let fields ← json.fields? ["name", "visibility", "value"]
  let name ← required fields "name" text?
  let access ← optional fields "visibility" Access.ofJson?
  let value ← required fields "value" text?
  return ⟨name, access, value⟩

/-- A declaration as data. -/
def Declaration.toJson (decl : Declaration) : Json :=
  object [("name", some (.str decl.name)), ("kind", some decl.kind.toJson),
    ("is_abstract", some (.bool decl.isAbstract)), ("is_final", some (.bool decl.isFinal)),
    ("parent", decl.parent.map .str), ("traits", some (texts decl.traits)),
    ("interfaces", some (texts decl.interfaces)),
    ("constants", some (.arr (decl.constants.map Constant.toJson))),
    ("properties", some (.arr (decl.properties.map Property.toJson))),
    ("methods", some (.arr (decl.methods.map Method.toJson)))]

/-- Reads a declaration, whose names are taken as they are written. -/
def Declaration.ofJson? (json : Json) : Option Declaration := do
  let fields ← json.fields? ["name", "kind", "is_abstract", "is_final", "parent", "traits",
    "interfaces", "constants", "properties", "methods"]
  let name ← required fields "name" text?
  let kind ← required fields "kind" Kind.ofJson?
  let isAbstract ← orElse fields "is_abstract" bool? false
  let isFinal ← orElse fields "is_final" bool? false
  let parent ← optional fields "parent" text?
  let traits ← orElse fields "traits" (list? text?) []
  let interfaces ← orElse fields "interfaces" (list? text?) []
  let constants ← orElse fields "constants" (list? Constant.ofJson?) []
  let properties ← orElse fields "properties" (list? Property.ofJson?) []
  let methods ← orElse fields "methods" (list? Method.ofJson?) []
  return ⟨name, kind, isAbstract, isFinal, parent, traits, interfaces, constants, properties,
    methods⟩

end Interception
