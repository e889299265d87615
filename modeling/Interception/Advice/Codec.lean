import Interception.Advice
import Interception.Json.Record

/-!
# Advice as JSON
-/

namespace Interception

open Json

/-- Reads a kind of advice. -/
def Advice.Kind.ofJson? (json : Json) : Option Advice.Kind :=
  match json.choice? with
  | some "around" => some .around
  | _ => none

/-- An advice as data. -/
def Advice.toJson (advice : Advice) : Json :=
  .obj [("aspect_id", .str advice.aspect), ("target", .str advice.target),
    ("kind", .str advice.kind.keyword), ("priority", .int advice.priority.toInt)]

/-- Reads an advice, whose target is taken as it is written. -/
def Advice.ofJson? (json : Json) : Option Advice := do
  let fields ← json.fields? ["aspect_id", "target", "kind", "priority"]
  let aspect ← required fields "aspect_id" text?
  let target ← required fields "target" text?
  let kind ← required fields "kind" Advice.Kind.ofJson?
  let priority ← orElse fields "priority" int32? 0
  return ⟨aspect, target, kind, priority⟩

end Interception
