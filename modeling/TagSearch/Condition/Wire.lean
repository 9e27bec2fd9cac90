import TagSearch.Condition.Basic

/-!
# Conditions as JSON values

A condition is an object whose field `query` names its kind.  Read, but never written, is also a
list of the kind and the other fields in order, and an object with a single field for a word.
-/

namespace TagSearch

namespace Pattern

/-- A pattern is written with its modifier only if it has one. -/
def toJson (p : Pattern) : Json :=
  .obj (("regex", .str p.regex) ::
    match p.modifier with
    | some modifier => [("modifier", .str modifier)]
    | none => [])

/-- Reads a pattern; the modifier may be `null` or absent. -/
def ofJson? (j : Json) : Option Pattern := do
  match ← j.columns? ["regex", "modifier"] with
  | [some (.str regex), modifier] =>
    let modifier ← (modifier.getD .null).optionalStr?
    some { regex, modifier }
  | _ => none

end Pattern

namespace MetaKind

/-- A kind of metadata is written as its name. -/
def toJson (k : MetaKind) : Json := .str k.name

/-- Reads a kind of metadata. -/
def ofJson? (j : Json) : Option MetaKind :=
  (j.word? Json.isNullOrEmpty).bind ofName?

end MetaKind

namespace Condition

/-- The kinds of conditions. -/
inductive Kind where
  | hasKey
  | lacksKey
  | equals
  | differs
  | like
  | unlike
  | likeBoth
  | contains
  | ofType
  | metadata
  | phrase
  deriving DecidableEq, Repr

namespace Kind

/-- All kinds of conditions, in the order by which they are numbered. -/
def all : List Kind :=
  [hasKey, lacksKey, equals, differs, like, unlike, likeBoth, contains, ofType, metadata, phrase]

/-- The name of a kind in a JSON value. -/
def name : Kind → String
  | hasKey => "key"
  | lacksKey => "nokey"
  | equals => "eq"
  | differs => "neq"
  | like => "like"
  | unlike => "notlike"
  | likeBoth => "likelike"
  | contains => "substr"
  | ofType => "type"
  | metadata => "meta"
  | phrase => "free form"

/-- The names of the fields of a kind, in order. -/
def fields : Kind → List String
  | hasKey => ["key"]
  | lacksKey => ["key"]
  | equals => ["key", "val"]
  | differs => ["key", "val"]
  | like => ["key", "val"]
  | unlike => ["key", "val"]
  | likeBoth => ["key", "val"]
  | contains => ["key", "val"]
  | ofType => ["type"]
  | metadata => ["meta", "val"]
  | phrase => ["free"]

/-- The kind with the given name. -/
def ofName? (s : String) : Option Kind :=
  all.find? fun k => k.name = s

/-- Reads a kind, which is given by its name or, where `numbered` allows it, by its number. -/
def ofJson? (numbered : Bool) : Json → Option Kind
  | .str s => ofName? s
  | .int n => if numbered && 0 ≤ n then all[n.toNat]? else none
  | _ => none

@[simp] theorem ofName?_name (k : Kind) : ofName? k.name = some k := by
  cases k <;> decide

end Kind

/-- The kind of a condition. -/
def kind : Condition → Kind
  | hasKey .. => .hasKey
  | lacksKey .. => .lacksKey
  | equals .. => .equals
  | differs .. => .differs
  | like .. => .like
  | unlike .. => .unlike
  | likeBoth .. => .likeBoth
  | contains .. => .contains
  | ofType .. => .ofType
  | metadata .. => .metadata
  | phrase .. => .phrase

/-- The values of the fields of a condition, in order. -/
def fieldValues : Condition → List Json
  | hasKey key => [.str key]
  | lacksKey key => [.str key]
  | equals key value => [.str key, .str value]
  | differs key value => [.str key, .str value]
  | like key pattern => [.str key, pattern.toJson]
  | unlike key pattern => [.str key, pattern.toJson]
  | likeBoth keyRegex pattern => [.str keyRegex, pattern.toJson]
  | contains key text => [.str key, .str text]
  | ofType type => [type.toJson]
  | metadata kind value => [kind.toJson, .str value]
  | phrase text => [.str text]

/-- A condition is written as an object that starts with its kind. -/
def toJson (c : Condition) : Json :=
  .obj (("query", .str c.kind.name) :: c.kind.fields.zip c.fieldValues)

/-- The condition of the given kind with the given fields. -/
def ofFields? : Kind → List Json → Option Condition
  | .hasKey, [key] => do return .hasKey (← key.str?)
  | .lacksKey, [key] => do return .lacksKey (← key.str?)
  | .equals, [key, value] => do return .equals (← key.str?) (← value.str?)
  | .differs, [key, value] => do return .differs (← key.str?) (← value.str?)
  | .like, [key, pattern] => do return .like (← key.str?) (← Pattern.ofJson? pattern)
  | .unlike, [key, pattern] => do return .unlike (← key.str?) (← Pattern.ofJson? pattern)
  | .likeBoth, [key, pattern] => do return .likeBoth (← key.str?) (← Pattern.ofJson? pattern)
  | .contains, [key, text] => do return .contains (← key.str?) (← text.str?)
  | .ofType, [type] => do return .ofType (← EntityType.ofJson? Json.isNullOrEmpty type)
  | .metadata, [kind, value] => do return .metadata (← MetaKind.ofJson? kind) (← value.str?)
  | .phrase, [text] => do return .phrase (← text.str?)
  | _, _ => none

/-- The values of columns none of which may be absent. -/
def required? (columns : List (Option Json)) : Option (List Json) :=
  columns.mapM id

/-- Reads a condition. Its kind has to be given exactly once, and every field of that kind too. -/
def ofJson? (numbered : Bool) : Json → Option Condition
  | .obj fields => do
    let kind ← Kind.ofJson? numbered (← Json.single? "query" fields)
    ofFields? kind (← required? (← Json.objectColumns? fields kind.fields))
  | .arr (tag :: items) => do
    let kind ← Kind.ofJson? numbered tag
    ofFields? kind (← required? (← Json.listColumns? items kind.fields))
  | _ => none

end Condition

end TagSearch
