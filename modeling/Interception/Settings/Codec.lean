import Interception.Json.Record
import Interception.Settings

/-!
# Settings as JSON

A missing field stands for the standard choice.
-/

namespace Interception

open Json

/-- A version as data. -/
def Version.toJson (version : Version) : Json :=
  .obj [("major", .int version.major.toNat), ("minor", .int version.minor.toNat),
    ("patch", .int version.patch.toNat)]

/-- Reads a version, all of whose parts have to be there. -/
def Version.ofJson? (json : Json) : Option Version := do
  let fields ← json.fields? ["major", "minor", "patch"]
  let major ← required fields "major" word32?
  let minor ← required fields "minor" word32?
  let patch ← required fields "patch" word32?
  return ⟨major, minor, patch⟩

/-- The weave settings as data. -/
def WeaveSettings.toJson (settings : WeaveSettings) : Json :=
  .obj [("runtime_version", settings.version.toJson), ("strict_types", .bool settings.strictTypes),
    ("banner", .str settings.banner), ("proxy_trait", .str settings.proxyTrait),
    ("property_trait", .str settings.propertyTrait)]

/-- Reads weave settings. -/
def WeaveSettings.ofJson? (json : Json) : Option WeaveSettings := do
  let fields ← json.fields?
    ["runtime_version", "strict_types", "banner", "proxy_trait", "property_trait"]
  let version ← orElse fields "runtime_version" Version.ofJson? standard.version
  let strictTypes ← orElse fields "strict_types" bool? standard.strictTypes
  let banner ← orElse fields "banner" text? standard.banner
  let proxyTrait ← orElse fields "proxy_trait" text? standard.proxyTrait
  let propertyTrait ← orElse fields "property_trait" text? standard.propertyTrait
  return ⟨version, strictTypes, banner, proxyTrait, propertyTrait⟩

/-- The gate settings as data. -/
def GateSettings.toJson (settings : GateSettings) : Json :=
  .obj [("capability_marker", .str settings.marker),
    ("forbidden_status", .int settings.forbiddenStatus.toNat)]

/-- Reads gate settings, whose marker is taken as it is written. -/
def GateSettings.ofJson? (json : Json) : Option GateSettings := do
  let fields ← json.fields? ["capability_marker", "forbidden_status"]
  let marker ← orElse fields "capability_marker" text? standard.marker
  let status ← orElse fields "forbidden_status" word16? standard.forbiddenStatus
  return ⟨marker, status⟩

end Interception
