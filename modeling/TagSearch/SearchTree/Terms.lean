import TagSearch.SearchTree.Basic

/-!
# Terms of a search

The terms of a tree are its disjunctive normal form: a search holds if all conditions of one of its
terms hold.  Neither repeated conditions nor repeated terms are removed, and the order of the leaves
is kept, so the terms of `and` are all pairs of a term of the left and a term of the right side, the
left side varying slowest.
-/

namespace TagSearch

/-- Conditions that have to hold together. -/
abbrev Term := List Condition

namespace SearchTree

/-- The terms of a tree. -/
def terms : SearchTree → List Term
  | leaf c => [[c]]
  | and l r => l.terms.flatMap fun s => r.terms.map fun t => s ++ t
  | or l r => l.terms ++ r.terms

/-- The conditions of all terms, one term after the other. -/
def termConditions (t : SearchTree) : List Condition :=
  t.terms.flatten

end SearchTree

end TagSearch
