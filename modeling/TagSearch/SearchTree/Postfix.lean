import TagSearch.SearchTree.Basic

/-!
# Trees in postfix order

A tree can be built by steps on a stack, where an operator follows its operands.
-/

namespace TagSearch.SearchTree

/-- A step of building trees on a stack. -/
inductive PostfixStep where
  /-- Puts a tree on top. -/
  | push (tree : SearchTree)
  /-- Joins the two topmost trees by `and`, the upper one on the right. -/
  | and
  /-- Joins the two topmost trees by `or`, the upper one on the right. -/
  | or
  /-- Puts a copy of the top on top. -/
  | dup

/-- The stack after a step, its top first, or nothing if the stack holds too few trees. -/
def PostfixStep.run? : PostfixStep → List SearchTree → Option (List SearchTree)
  | push t, stack => some (t :: stack)
  | and, right :: left :: stack => some (left.and right :: stack)
  | or, right :: left :: stack => some (left.or right :: stack)
  | dup, t :: stack => some (t :: t :: stack)
  | _, _ => none

end TagSearch.SearchTree
