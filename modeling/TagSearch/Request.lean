import TagSearch.ParsedSearch

/-!
# Requests

A request is one line of JSON: a search, its parse, and optionally a comment for the document.
-/

namespace TagSearch

/-- A search with its parse and a comment. -/
structure Request where
  search : String
  parsed : ParsedSearch
  comment : Option String
  deriving DecidableEq, Repr

namespace Request

/-- A request while it is being read; the comment is `some none` when it is given as `null`. -/
structure Draft where
  search : Option String := none
  parsed : Option ParsedSearch := none
  comment : Option (Option String) := none

/-- The request of a complete line. -/
def Draft.finish (d : Draft) : Except ReadError Request :=
  match d.search, d.parsed with
  | some search, some parsed => .ok { search, parsed, comment := d.comment.getD none }
  | _, _ => .error .malformed

open Json.Reader

/-- Reads the search. -/
def readSearch (depth : Nat) (d : Draft) : Json.Reader ReadError Draft := do
  let search ← ofOption (← value depth).str?
  return { d with search := some search }

/-- Reads the parse. -/
def readParsed (depth : Nat) (d : Draft) : Json.Reader ReadError Draft := do
  return { d with parsed := some (← ParsedSearch.read depth) }

/-- Reads the comment. -/
def readComment (depth : Nat) (d : Draft) : Json.Reader ReadError Draft := do
  let comment ← ofOption (← value depth).optionalStr?
  return { d with comment := some comment }

/-- Reads a field of a request written as an object. Known fields may be given only once, and others
are passed over. -/
def readField (depth : Nat) (d : Draft) (name : String) : Json.Reader ReadError Draft :=
  match name with
  | "search" => if d.search.isSome then fail else readSearch depth d
  | "parsed" => if d.parsed.isSome then fail else readParsed depth d
  | "comment" => if d.comment.isSome then fail else readComment depth d
  | _ => do
    skip
    return d

/-- Reads the next item of a request written as a list, in which the comment may be left out. -/
def readItem (depth : Nat) (d : Draft) : Json.Reader ReadError Draft :=
  if d.search.isNone then readSearch depth d
  else if d.parsed.isNone then readParsed depth d
  else if d.comment.isNone then readComment depth d
  else fail

/-- Reads a request from the front of a text, with at most `depth` lists and objects nested. -/
def read : (depth : Nat) → Json.Reader ReadError Request
  | 0 => fail
  | depth + 1 => do
    match ← peek with
    | some '[' =>
      expect '['
      let draft ← items (readItem depth) ({} : Draft)
      draft.finish
    | some '\x7b' =>
      expect '\x7b'
      let draft ← members (readField depth) ({} : Draft)
      draft.finish
    | _ => fail

/-- Reads a request from a whole text. -/
def ofText (text : String) : Except ReadError Request :=
  (read Json.maxDepth).run text

end Request

end TagSearch
