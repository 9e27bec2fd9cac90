import TagSearch.Bounds
import TagSearch.Json.Reader
import TagSearch.SearchTree.Wire

/-!
# Parsed searches

A parsed search is a tree together with bounds.  As a JSON object it has the tree in the field
`query` and the fields of the bounds beside it.

Objects are read from left to right.  What is wrong with the tree is reported as soon as its field
has been read; the bounds are looked at when the object is complete.
-/

namespace TagSearch

/-- Why a JSON text or value cannot be read. -/
inductive ReadError where
  /-- It is no JSON, or not of the required shape. -/
  | malformed
  | tree (error : TreeError)
  | bounds (error : BoundsError)
  deriving DecidableEq, Repr

instance : Malformed ReadError := ⟨.malformed⟩

namespace ReadError

/-- The message for what cannot be read, if it is more than a matter of shape.  What is to be said
about the shape is left to the JSON library. -/
def message? : ReadError → Option String
  | malformed => none
  | tree error => some error.message
  | bounds error => some error.message

end ReadError

/-- Reads a search tree from a JSON value. -/
def SearchTree.ofJson (j : Json) : Except ReadError SearchTree :=
  match SearchTree.Shape.ofJson? j with
  | none => .error .malformed
  | some shape => (SearchTree.ofShape shape).mapError .tree

/-- Reads bounds from a JSON value. -/
def Bounds.ofJson (j : Json) : Except ReadError Bounds :=
  match Bounds.rawOfJson? j with
  | none => .error .malformed
  | some (mode, place) => (Bounds.ofMode mode place).mapError .bounds

/-- A search as it comes out of a parser. -/
structure ParsedSearch where
  query : SearchTree
  bounds : Bounds
  deriving DecidableEq, Repr

namespace ParsedSearch

/-- A parsed search as a JSON value. -/
def toJson (p : ParsedSearch) : Json :=
  .obj (("query", p.query.toJson) :: p.bounds.jsonFields)

/-- A parsed search while its object is being read: the tree, and the other fields in order. -/
structure Draft where
  query : Option SearchTree := none
  others : List (String × Json) := []

namespace Draft

/-- Takes a field in. The tree may be given only once. -/
def addField (d : Draft) (name : String) (value : Json) : Except ReadError Draft :=
  if name = "query" then
    if d.query.isSome then .error .malformed
    else do return { d with query := some (← SearchTree.ofJson value) }
  else .ok { d with others := d.others ++ [(name, value)] }

/-- The parsed search of a complete object. -/
def finish (d : Draft) : Except ReadError ParsedSearch :=
  match d.query with
  | none => .error .malformed
  | some query => do return { query, bounds := ← Bounds.ofJson (.obj d.others) }

end Draft

/-- Reads a parsed search from a JSON value, which has to be an object. -/
def ofJson : Json → Except ReadError ParsedSearch
  | .obj fields => do
    let draft ← fields.foldlM (fun d (name, value) => d.addField name value) ({} : Draft)
    draft.finish
  | _ => .error .malformed

/-- Reads a parsed search from the front of a text, with at most `depth` lists and objects
nested. -/
def read : (depth : Nat) → Json.Reader ReadError ParsedSearch
  | 0 => Json.Reader.fail
  | depth + 1 => do
    Json.Reader.expect '\x7b'
    let draft ← Json.Reader.members (fun d name => do
      let value ← Json.Reader.value depth
      d.addField name value) ({} : Draft)
    draft.finish

/-- Reads a parsed search from a whole text. -/
def ofText (text : String) : Except ReadError ParsedSearch :=
  (read Json.maxDepth).run text

end ParsedSearch

end TagSearch
