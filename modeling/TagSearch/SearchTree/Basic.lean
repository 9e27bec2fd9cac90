import TagSearch.Condition.Basic

/-!
# Search trees

A search is a tree of conditions joined by `and` and `or`.
-/

namespace TagSearch

/-- A Boolean combination of conditions. -/
inductive SearchTree where
  | leaf (condition : Condition)
  | and (left right : SearchTree)
  | or (left right : SearchTree)
  deriving DecidableEq, Repr

namespace SearchTree

/-- The conditions at the leaves, from left to right. -/
def leaves : SearchTree → List Condition
  | leaf c => [c]
  | and l r => l.leaves ++ r.leaves
  | or l r => l.leaves ++ r.leaves

/-- The truth value of a tree when `holds` gives those of its conditions. -/
def eval (holds : Condition → Bool) : SearchTree → Bool
  | leaf c => holds c
  | and l r => l.eval holds && r.eval holds
  | or l r => l.eval holds || r.eval holds

end SearchTree

end TagSearch
