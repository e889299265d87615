import Interception.Act
import Interception.Catalog
import Interception.Declaration.Codec
import Interception.Json.Reader

/-!
# Manifests

A manifest is a record with one field, the list of the declared types.  Loading one normalizes every
declaration and puts them into a catalog in order, so that the last of several with one name stays.
-/

namespace Interception.Catalog

open Json

/-- The declarations that a manifest lists, as they are written. -/
def listed? (manifest : Json) : Option (List Declaration) := do
  let fields ← manifest.fields? ["types"]
  required fields "types" (list? Declaration.ofJson?)

/-- A list of declarations as a manifest. -/
def manifest (decls : List Declaration) : Json :=
  object [("types", some (.arr (decls.map Declaration.toJson)))]

/-- The catalog that a manifest describes. -/
def ofManifest (manifest : Json) : Except Fault Catalog :=
  match listed? manifest with
  | some decls => .ok (ofList (decls.map Declaration.normalized))
  | none => .error (.badManifest "no list of declarations")

/-- The catalog that the text of a manifest describes. -/
def ofText (text : String) : Except Fault Catalog :=
  match read? text with
  | some manifest => ofManifest manifest
  | none => .error (.badManifest "not a JSON value")

/-- What loading a manifest reports. -/
def events : Except Fault Catalog → List Event
  | .ok catalog => [.manifestLoaded catalog.size]
  | .error _ => []

end Interception.Catalog
