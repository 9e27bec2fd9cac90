import TagSearch.Json.Basic

/-!
# Bounds

Where to search: in a named area, around a named place, in the visible part of the map, or
everywhere.
-/

namespace TagSearch

/-- The region of a search. -/
inductive Bounds where
  /-- Inside the area with this name. -/
  | area (name : String)
  /-- Around the place with this name. -/
  | around (name : String)
  /-- In the visible part of the map. -/
  | bbox
  /-- Everywhere. -/
  | global
  deriving DecidableEq, Repr

/-- Why a mode and an area give no bounds. -/
inductive BoundsError where
  | unknownMode (mode : String)
  | missingArea (mode : String)
  deriving DecidableEq, Repr

/-- The message for a mode and an area that give no bounds. -/
def BoundsError.message : BoundsError → String
  | unknownMode mode => "unknown bounds condition: " ++ mode
  | missingArea mode => "bounds mode `" ++ mode ++ "` requires an area"

namespace Bounds

/-- The name of the mode of bounds. -/
def mode : Bounds → String
  | area _ => "area"
  | around _ => "around"
  | bbox => "bbox"
  | global => "global"

/-- The name of the place that bounds refer to. -/
def place? : Bounds → Option String
  | area name => some name
  | around name => some name
  | bbox => none
  | global => none

/-- The bounds with the given mode. A place is required for `area` and `around` and ignored
otherwise. -/
def ofMode (mode : String) (place : Option String) : Except BoundsError Bounds :=
  match mode, place with
  | "area", some name => .ok (.area name)
  | "area", none => .error (.missingArea "area")
  | "around", some name => .ok (.around name)
  | "around", none => .error (.missingArea "around")
  | "bbox", _ => .ok .bbox
  | "global", _ => .ok .global
  | mode, _ => .error (.unknownMode mode)

/-- The fields of bounds in a JSON object; the area is written only where it has a meaning. -/
def jsonFields (b : Bounds) : List (String × Json) :=
  ("bounds", .str b.mode) ::
    match b.place? with
    | some name => [("area", .str name)]
    | none => []

/-- Bounds as a JSON value. -/
def toJson (b : Bounds) : Json :=
  .obj b.jsonFields

/-- The mode and the place that a JSON value gives. -/
def rawOfJson? (j : Json) : Option (String × Option String) := do
  match ← j.columns? ["bounds", "area"] with
  | [some (.str mode), place] =>
    let place ← (place.getD .null).optionalStr?
    some (mode, place)
  | _ => none

end Bounds

end TagSearch
