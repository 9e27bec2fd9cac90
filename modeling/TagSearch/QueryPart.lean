import TagSearch.Condition.Clause
import TagSearch.Resolver
import TagSearch.SearchTree.Terms

/-!
# Parts of a query

A part of a query stands for one term of a search.  It is put together from what the single
conditions contribute: labels, entity types and clauses.  Types are narrowed by each condition, and
the rest is appended in order.

Looking a phrase up may have effects, so the parts of a search are computed in any monad with clause
errors; the first error ends the computation.
-/

namespace TagSearch

/-- What a query asks for in one of its parts. -/
structure QueryPart where
  /-- The conditions as they are shown. -/
  labels : List String
  /-- The entity types that the part asks for. -/
  types : EntityTypes
  /-- The clauses that have to hold. -/
  clauses : List Clause
  deriving DecidableEq, Repr

namespace QueryPart

/-- The part that asks for everything. -/
def unit : QueryPart := ⟨[], .all, []⟩

/-- The part that asks for what both parts ask for. -/
def and (p q : QueryPart) : QueryPart :=
  ⟨p.labels ++ q.labels, p.types.inter q.types, p.clauses ++ q.clauses⟩

/-- The part that asks for what all parts ask for. -/
def all (parts : List QueryPart) : QueryPart :=
  parts.foldl and unit

end QueryPart

namespace Condition

/-- What a phrase contributes, given its meaning. -/
def phrasePart (text : String) : Option Resolution → Except ClauseError QueryPart
  | none => .error (.unresolved text)
  | some meaning => do
    let clauses ← meaning.conditions.mapM clause
    return ⟨[(phrase text).display], meaning.types, clauses⟩

/-- What a condition contributes that is no phrase. A type filter only narrows the types. -/
def plainPart : Condition → Except ClauseError QueryPart
  | .ofType type => .ok ⟨[], .only type, []⟩
  | c => do return ⟨[c.display], .all, [← c.clause]⟩

variable {m : Type → Type} [Monad m] [MonadExceptOf ClauseError m]

/-- What a condition contributes. -/
def part (resolve : String → m (Option Resolution)) : Condition → m QueryPart
  | .phrase text => do
    let meaning ← resolve text
    ofExcept (phrasePart text meaning)
  | c => ofExcept c.plainPart

end Condition

variable {m : Type → Type} [Monad m] [MonadExceptOf ClauseError m]

/-- The part for a term. -/
def termPart (resolve : String → m (Option Resolution)) (term : Term) : m QueryPart := do
  return QueryPart.all (← term.mapM (Condition.part resolve))

/-- The parts for the terms of a search, in order. -/
def SearchTree.parts (resolve : String → m (Option Resolution)) (t : SearchTree) :
    m (List QueryPart) :=
  t.terms.mapM (termPart resolve)

end TagSearch
