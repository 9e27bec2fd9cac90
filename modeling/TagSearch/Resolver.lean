import TagSearch.Condition.Basic

/-!
# Resolvers

A resolver knows what free-form phrases mean, and which phrase may have been meant by one it does
not know.
-/

namespace TagSearch

/-- The meaning of a phrase: conditions that have to hold together, and the entity types they are
for. -/
structure Resolution where
  conditions : List Condition
  types : EntityTypes
  deriving DecidableEq, Repr

/-- What free-form phrases mean. -/
structure Resolver where
  /-- The meaning of a phrase. -/
  resolve : String → Option Resolution
  /-- A phrase that may have been meant. -/
  suggest : String → Option String

/-- The resolver that knows just the listed phrases. -/
def Resolver.ofLists (known : List (String × Resolution)) (suggestions : List (String × String)) :
    Resolver where
  resolve phrase := known.lookup phrase
  suggest phrase := suggestions.lookup phrase

end TagSearch
