import TagSearch.Entity

/-!
# Conditions

The atomic conditions of a search: on the tags of an element, on its type, on its metadata, and
free-form phrases whose meaning a resolver has to supply.
-/

namespace TagSearch

/-- A regular expression with an optional modifier. -/
structure Pattern where
  regex : String
  modifier : Option String := none
  deriving DecidableEq, Repr

/-- Whether a pattern ignores case, which only the modifier `i` says. -/
def Pattern.ignoresCase (p : Pattern) : Bool :=
  p.modifier = some "i"

/-- The metadata of an element that a condition can ask for. -/
inductive MetaKind where
  | id
  | newer
  | user
  | uid
  deriving DecidableEq, Repr

namespace MetaKind

/-- All kinds of metadata. -/
def all : List MetaKind := [id, newer, user, uid]

/-- The name of a kind of metadata. -/
def name : MetaKind → String
  | id => "id"
  | newer => "newer"
  | user => "user"
  | uid => "uid"

/-- The kind of metadata with the given name. -/
def ofName? (s : String) : Option MetaKind :=
  all.find? fun k => k.name = s

@[simp] theorem ofName?_name (k : MetaKind) : ofName? k.name = some k := by
  cases k <;> decide

end MetaKind

/-- An atomic condition. -/
inductive Condition where
  /-- The key is present. -/
  | hasKey (key : String)
  /-- The key is absent. -/
  | lacksKey (key : String)
  /-- The key has this value. -/
  | equals (key value : String)
  /-- The key does not have this value. -/
  | differs (key value : String)
  /-- The value of the key matches a pattern. -/
  | like (key : String) (pattern : Pattern)
  /-- The value of the key does not match a pattern. -/
  | unlike (key : String) (pattern : Pattern)
  /-- Some tag has a key that matches the first pattern and a value that matches the second. -/
  | likeBoth (keyRegex : String) (pattern : Pattern)
  /-- The value of the key contains this text. -/
  | contains (key text : String)
  /-- The element has this type. -/
  | ofType (type : EntityType)
  /-- The element has this metadata. -/
  | metadata (kind : MetaKind) (value : String)
  /-- A free-form phrase. -/
  | phrase (text : String)
  deriving DecidableEq, Repr

namespace Condition

/-- The phrase of a free-form condition. -/
def phrase? : Condition → Option String
  | phrase text => some text
  | _ => none

/-- Whether a condition is a free-form phrase. -/
def isPhrase (c : Condition) : Bool :=
  c.phrase?.isSome

end Condition

end TagSearch
