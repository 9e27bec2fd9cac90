import TagSearch.Json.Quoted
import TagSearch.Json.Basic

/-!
# Writing JSON text

Values are written on one line and without blanks.
-/

namespace TagSearch.Json

mutual

/-- The text of a value. -/
def render : Json → String
  | .null => "null"
  | .bool true => "true"
  | .bool false => "false"
  | .int n => toString n
  | .dec significand exponent => toString significand ++ "e" ++ toString exponent
  | .str s => quoted s
  | .arr items => "[" ++ ",".intercalate (renderItems items) ++ "]"
  | .obj fields => "\x7b" ++ ",".intercalate (renderFields fields) ++ "\x7d"

/-- The texts of the items of a list. -/
def renderItems : List Json → List String
  | [] => []
  | item :: items => render item :: renderItems items

/-- The texts of the fields of an object. -/
def renderFields : List (String × Json) → List String
  | [] => []
  | (name, value) :: fields => (quoted name ++ ":" ++ render value) :: renderFields fields

end

end TagSearch.Json
