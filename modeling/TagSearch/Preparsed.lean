import TagSearch.ParsedSearch
import TagSearch.Text.Inspect

/-!
# Searches with their parse

Parsing is left to others: a search comes with its parse, and only this search can be parsed.
-/

namespace TagSearch

/-- There is no parse for the search that was asked for. -/
structure ParseError where
  asked : String
  deriving DecidableEq, Repr

/-- The message for a search without a parse. -/
def ParseError.message (e : ParseError) : String :=
  "parse error: no parse available for " ++ Text.inspect e.asked

/-- A search together with its parse. -/
structure Preparsed where
  search : String
  parsed : ParsedSearch
  deriving DecidableEq, Repr

/-- The parse of a search, which has to be the one that the parse is for. -/
def Preparsed.parse (p : Preparsed) (asked : String) : Except ParseError ParsedSearch :=
  if asked = p.search then .ok p.parsed else .error ⟨asked⟩

end TagSearch
