import TagSearch.Preset.Wire
import TagSearch.Text.EditDistance

/-!
# Preset tables

A table of presets resolves the phrases that are names of its presets.  For any other phrase it
suggests the preset with the nearest name, if there is one near enough.
-/

namespace TagSearch

/-- Presets in the order in which they are tried. -/
structure PresetTable where
  presets : List Preset
  deriving DecidableEq

namespace PresetTable

/-- A table without presets. -/
def empty : PresetTable := ⟨[]⟩

/-- The first preset with the given name. -/
def find? (table : PresetTable) (phrase : String) : Option Preset :=
  table.presets.find? fun p => p.isNamed phrase

/-- The meaning of a phrase. -/
def resolve (table : PresetTable) (phrase : String) : Option Resolution :=
  (table.find? phrase).map Preset.resolution

/-- How far from a phrase with that many characters a name may be to be suggested. -/
def maxDistance (length : Nat) : Nat :=
  if length ≤ 4 then 1 else if length ≤ 10 then 2 else 3

/-- The names of all presets, each with its preset, in order. -/
def candidates (table : PresetTable) : List (String × Preset) :=
  table.presets.flatMap fun p => p.names.map fun name => (name, p)

/-- The better of the best candidate so far and the next one: it has to be within the limit, and
nearer than the best so far. -/
def nearer (phrase : String) (limit : Nat) (best : Option (Nat × Preset))
    (candidate : String × Preset) : Option (Nat × Preset) :=
  let distance := Text.editDistance phrase (Text.lowercase candidate.1)
  if limit < distance then best
  else match best with
    | some (d, _) => if distance < d then some (distance, candidate.2) else best
    | none => some (distance, candidate.2)

/-- The nearest preset within the limit and its distance, for a phrase in lower case. -/
def nearest? (table : PresetTable) (phrase : String) : Option (Nat × Preset) :=
  table.candidates.foldl (nearer phrase (maxDistance phrase.length)) none

/-- The name of the preset that may have been meant by a phrase. -/
def suggest (table : PresetTable) (phrase : String) : Option String :=
  (table.nearest? (Text.lowercase phrase)).map fun (_, p) => p.name

/-- A table as a resolver. -/
def resolver (table : PresetTable) : Resolver where
  resolve := table.resolve
  suggest := table.suggest

/-- A table as a JSON value. -/
def toJson (table : PresetTable) : Json :=
  .obj [("presets", .arr (table.presets.map Preset.toJson))]

/-- Reads a table from a JSON value. -/
def ofJson? (j : Json) : Option PresetTable := do
  match ← j.columns? ["presets"] with
  | [some presets] => return ⟨← presets.listOf? Preset.ofJson?⟩
  | _ => none

/-- Reads a table from a whole text. Unknown fields of the table and of its presets are passed
over. -/
def ofText? (text : String) : Option PresetTable := do
  let read := Json.Reader.record [("presets", Json.Reader.listOf Preset.readJson)] Json.maxDepth
  ofJson? (← (read.run text).toOption)

end PresetTable

end TagSearch
