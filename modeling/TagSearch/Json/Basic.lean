/-!
# JSON values

Values as they stand in a JSON text.  An object keeps its fields in the order of the text, repeated
names included, because whether a repetition is allowed depends on what the object describes.
Numbers written as plain integers are kept apart from all others.
-/

namespace TagSearch

/-- A JSON value. -/
inductive Json where
  | null
  | bool (b : Bool)
  /-- A number written without fraction and exponent. -/
  | int (n : Int)
  /-- Any other number, and `-0`: a significand and a power of ten. -/
  | dec (significand exponent : Int)
  | str (s : String)
  | arr (items : List Json)
  | obj (fields : List (String × Json))
  deriving Inhabited

namespace Json

/-- The values given for a name, in order. -/
def valuesOf (name : String) (fields : List (String × Json)) : List Json :=
  fields.filterMap fun (key, value) => if key = name then some value else none

/-- The value of a field that has to be given exactly once. -/
def single? (name : String) (fields : List (String × Json)) : Option Json :=
  match valuesOf name fields with
  | [value] => some value
  | _ => none

/-- The values of the named fields of an object, `none` standing for an absent field. Other fields
are ignored, but a named field may not be repeated. -/
def objectColumns? (fields : List (String × Json)) : List String → Option (List (Option Json))
  | [] => some []
  | name :: names => do
    let column ← match valuesOf name fields with
      | [] => some none
      | [value] => some (some value)
      | _ => none
    let columns ← objectColumns? fields names
    return column :: columns

/-- The values of the named fields of a record written as a list: they stand in the order of the
names, the last ones may be absent, and nothing may follow them. -/
def listColumns? : List Json → List String → Option (List (Option Json))
  | [], names => some (names.map fun _ => none)
  | _ :: _, [] => none
  | item :: items, _ :: names => (listColumns? items names).map (some item :: ·)

/-- The values of the named fields of a record, which is written as an object or as a list. -/
def columns? (names : List String) : Json → Option (List (Option Json))
  | .obj fields => objectColumns? fields names
  | .arr items => listColumns? items names
  | _ => none

/-- The text of a string. -/
def str? : Json → Option String
  | .str s => some s
  | _ => none

/-- The items of a list. -/
def arr? : Json → Option (List Json)
  | .arr items => some items
  | _ => none

/-- The items of a list, each of them read by `read`. -/
def listOf? {α : Type} (read : Json → Option α) (j : Json) : Option (List α) := do
  (← j.arr?).mapM read

/-- A string or `null`, which stands for no text. -/
def optionalStr? : Json → Option (Option String)
  | .str s => some (some s)
  | .null => some none
  | _ => none

/-- An integer of 32 bits without sign. -/
def uint32? : Json → Option UInt32
  | .int n => if 0 ≤ n ∧ n < UInt32.size then some (UInt32.ofNat n.toNat) else none
  | _ => none

/-- The name of a variant that carries nothing: a string, or an object with that one name whose
value counts as nothing. -/
def word? (isNothing : Json → Bool) : Json → Option String
  | .str s => some s
  | .obj [(name, value)] => if isNothing value then some name else none
  | _ => none

/-- Whether a value is `null`. -/
def isNull : Json → Bool
  | .null => true
  | _ => false

/-- Whether a value is `null` or an object without fields. -/
def isNullOrEmpty : Json → Bool
  | .null => true
  | .obj [] => true
  | _ => false

end Json

end TagSearch
