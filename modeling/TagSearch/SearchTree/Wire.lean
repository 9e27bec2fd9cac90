import TagSearch.Condition.Wire
import TagSearch.SearchTree.Basic

/-!
# Search trees as JSON values

A node is an object with an operator and a list of operands.  Reading has two phases.  The *shape*
of a value is a tree with any operators and any number of operands; an object is tried as a node
first and as a condition then.  Only a value that has a shape is checked for operators and numbers
of operands, a node before its operands and these from left to right.
-/

namespace TagSearch

/-- What is wrong with a tree that has the right shape. -/
inductive TreeError where
  | unsupportedOperator (operator : String)
  | arity (operator : String) (found : Nat)
  deriving DecidableEq, Repr

/-- The message for a tree that has the right shape but is none. -/
def TreeError.message : TreeError → String
  | unsupportedOperator operator => "unsupported boolean operator: " ++ operator
  | arity operator found =>
    "boolean operator `" ++ operator ++ "` expects 2 operands, found " ++ toString found

namespace SearchTree

/-- A tree with any operators and any number of operands. -/
inductive Shape where
  | leaf (condition : Condition)
  | node (operator : String) (operands : List Shape)

mutual

/-- The shape of a JSON value. -/
def Shape.ofJson? : Json → Option Shape
  | .obj fields =>
    match Json.single? "logical" fields, Shape.operandLists fields with
    | some (.str operator), [some operands] => some (.node operator operands)
    | _, _ => (Condition.ofJson? true (.obj fields)).map .leaf
  | .arr items => (Condition.ofJson? true (.arr items)).map .leaf
  | _ => none

/-- The operands that each of the fields `queries` gives, if its value is a list of shapes. -/
def Shape.operandLists : List (String × Json) → List (Option (List Shape))
  | [] => []
  | (name, value) :: fields =>
    if name = "queries" then Shape.operands? value :: Shape.operandLists fields
    else Shape.operandLists fields

/-- The shapes of the items of a list. -/
def Shape.operands? : Json → Option (List Shape)
  | .arr items => Shape.ofItems? items
  | _ => none

/-- The shapes of values that all have one. -/
def Shape.ofItems? : List Json → Option (List Shape)
  | [] => some []
  | item :: items => do
    let shape ← Shape.ofJson? item
    let shapes ← Shape.ofItems? items
    return shape :: shapes

end

/-- How the operator with the given name joins two trees. -/
def join? : String → Option (SearchTree → SearchTree → SearchTree)
  | "and" => some .and
  | "or" => some .or
  | _ => none

/-- The tree of a shape whose nodes all have a known operator and two operands. -/
def ofShape : Shape → Except TreeError SearchTree
  | .leaf c => .ok (.leaf c)
  | .node operator [left, right] =>
    match join? operator with
    | some join => do
      let left ← ofShape left
      let right ← ofShape right
      return join left right
    | none => .error (.unsupportedOperator operator)
  | .node operator operands =>
    match join? operator with
    | some _ => .error (.arity operator operands.length)
    | none => .error (.unsupportedOperator operator)

/-- A node is written with its operator and its two operands. -/
def toJson : SearchTree → Json
  | leaf c => c.toJson
  | and l r => .obj [("logical", .str "and"), ("queries", .arr [l.toJson, r.toJson])]
  | or l r => .obj [("logical", .str "or"), ("queries", .arr [l.toJson, r.toJson])]

end SearchTree

end TagSearch
