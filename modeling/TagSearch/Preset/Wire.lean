import TagSearch.Json.Reader
import TagSearch.Preset.Basic

/-!
# Presets as JSON values

A preset is an object; read, but never written, is also a list of its fields in order.
-/

namespace TagSearch

namespace Preset

/-- The names of the fields of a preset, in order. -/
def fieldNames : List String := ["name", "terms", "tags", "types"]

/-- A preset is written with its types only if it has any given. -/
def toJson (p : Preset) : Json :=
  .obj ([("name", .str p.name), ("terms", .arr (p.terms.map .str)), ("tags", p.tags.toJson)] ++
    match p.types with
    | some types => [("types", .arr (types.map EntityType.toJson))]
    | none => [])

/-- The entity types of a preset, where `null` stands for none given. -/
def typesOfJson? : Json → Option (Option (List EntityType))
  | .null => some none
  | j => (j.listOf? (EntityType.ofJson? Json.isNull)).map some

/-- Reads a preset; terms and types may be left out. -/
def ofJson? (j : Json) : Option Preset := do
  match ← j.columns? fieldNames with
  | [some name, terms, some tags, types] =>
    return {
      name := ← name.str?
      terms := ← terms.elim (some []) (Json.listOf? Json.str?)
      tags := ← Tags.ofJson? tags
      types := ← typesOfJson? (types.getD .null) }
  | _ => none

/-- Reads the value of a preset from the front of a text. Unknown fields are passed over. -/
def readJson : (depth : Nat) → Json.Reader Unit Json :=
  Json.Reader.record (fieldNames.map fun name => (name, Json.Reader.value))

end Preset

end TagSearch
