import TagSearch.Json.Reader

/-!
# Configuration

What can be set about the queries that are written.
-/

namespace TagSearch

/-- The configuration of the query writer. -/
structure Config where
  /-- The format in which the results of a query are to come. -/
  outputFormat : String := "json"
  /-- The time limit of a query, in seconds. -/
  timeout : UInt32 := 25
  /-- The radius of a search around a place, in meters. -/
  defaultRadius : UInt32 := 1000
  /-- The text at the head of a query without a comment of its own. -/
  attribution : String := "This has been generated by the overpass-turbo wizard."
  deriving DecidableEq, Repr

namespace Config

/-- The names of the settings, in order. -/
def fieldNames : List String :=
  ["output_format", "timeout", "default_radius", "attribution"]

/-- A configuration as a JSON value. -/
def toJson (c : Config) : Json :=
  .obj [("output_format", .str c.outputFormat), ("timeout", .int c.timeout.toNat),
    ("default_radius", .int c.defaultRadius.toNat), ("attribution", .str c.attribution)]

/-- A setting that keeps its default when it is absent. -/
def setting? {α : Type} (default : α) (read : Json → Option α) : Option Json → Option α
  | none => some default
  | some j => read j

/-- Reads a configuration; every setting may be left out. -/
def ofJson? (j : Json) : Option Config := do
  match ← j.columns? fieldNames with
  | [format, timeout, radius, attribution] =>
    let default : Config := {}
    return {
      outputFormat := ← setting? default.outputFormat Json.str? format
      timeout := ← setting? default.timeout Json.uint32? timeout
      defaultRadius := ← setting? default.defaultRadius Json.uint32? radius
      attribution := ← setting? default.attribution Json.str? attribution }
  | _ => none

/-- Reads a configuration from a whole text. Unknown settings are passed over. -/
def ofText? (text : String) : Option Config := do
  let known := fieldNames.map fun name => (name, Json.Reader.value)
  let j ← ((Json.Reader.record known Json.maxDepth : Json.Reader Unit Json).run text).toOption
  ofJson? j

end Config

end TagSearch
