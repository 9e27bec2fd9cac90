import TagSearch.Json.Basic

/-!
# Entity types

A map holds nodes, ways and relations.  A set of entity types says which of them a query asks for;
iteration is always in the order node, way, relation.
-/

namespace TagSearch

/-- The three kinds of map elements. -/
inductive EntityType where
  | node
  | way
  | relation
  deriving DecidableEq, Repr

namespace EntityType

/-- All entity types, in their fixed order. -/
def all : List EntityType := [node, way, relation]

/-- The name of an entity type. -/
def name : EntityType → String
  | node => "node"
  | way => "way"
  | relation => "relation"

/-- The entity type with the given name. -/
def ofName? (s : String) : Option EntityType :=
  all.find? fun t => t.name = s

/-- An entity type is written as its name. -/
def toJson (t : EntityType) : Json := .str t.name

/-- Reads an entity type, where `isNothing` tells what may stand beside its name in the object
form. -/
def ofJson? (isNothing : Json → Bool) (j : Json) : Option EntityType :=
  (j.word? isNothing).bind ofName?

@[simp] theorem ofName?_name (t : EntityType) : ofName? t.name = some t := by
  cases t <;> decide

@[simp] theorem ofJson?_toJson (isNothing : Json → Bool) (t : EntityType) :
    ofJson? isNothing t.toJson = some t := by
  simp [ofJson?, toJson, Json.word?]

theorem mem_all (t : EntityType) : t ∈ all := by
  cases t <;> decide

end EntityType

/-- A set of entity types. -/
structure EntityTypes where
  node : Bool
  way : Bool
  relation : Bool
  deriving DecidableEq, Repr

namespace EntityTypes

/-- Every entity type. -/
def all : EntityTypes := ⟨true, true, true⟩

/-- No entity type. -/
def none : EntityTypes := ⟨false, false, false⟩

/-- Whether a set holds an entity type. -/
def contains (s : EntityTypes) : EntityType → Bool
  | .node => s.node
  | .way => s.way
  | .relation => s.relation

/-- The set that holds just one entity type. -/
def only : EntityType → EntityTypes
  | .node => ⟨true, false, false⟩
  | .way => ⟨false, true, false⟩
  | .relation => ⟨false, false, true⟩

/-- The entity types that two sets share. -/
def inter (s t : EntityTypes) : EntityTypes :=
  ⟨s.node && t.node, s.way && t.way, s.relation && t.relation⟩

/-- The entity types of either set. -/
def union (s t : EntityTypes) : EntityTypes :=
  ⟨s.node || t.node, s.way || t.way, s.relation || t.relation⟩

/-- The set of the listed entity types. -/
def ofList : List EntityType → EntityTypes
  | [] => none
  | t :: ts => (only t).union (ofList ts)

/-- The entity types of a set, in their fixed order. -/
def toList (s : EntityTypes) : List EntityType :=
  EntityType.all.filter s.contains

/-- Whether a set holds nothing. -/
def isEmpty (s : EntityTypes) : Bool :=
  !(s.node || s.way || s.relation)

/-- Whether every entity type of the first set is in the second. -/
def subset (s t : EntityTypes) : Bool :=
  EntityType.all.all fun e => !s.contains e || t.contains e

@[ext] theorem ext_contains {s t : EntityTypes} (h : ∀ e, s.contains e = t.contains e) : s = t := by
  cases s; cases t
  simpa [contains] using And.intro (h .node) (And.intro (h .way) (h .relation))

@[simp] theorem contains_all (e : EntityType) : all.contains e = true := by
  cases e <;> rfl

@[simp] theorem contains_none (e : EntityType) : none.contains e = false := by
  cases e <;> rfl

@[simp] theorem contains_only (t e : EntityType) : (only t).contains e = decide (t = e) := by
  cases t <;> cases e <;> rfl

@[simp] theorem contains_inter (s t : EntityTypes) (e : EntityType) :
    (s.inter t).contains e = (s.contains e && t.contains e) := by
  cases e <;> rfl

@[simp] theorem contains_union (s t : EntityTypes) (e : EntityType) :
    (s.union t).contains e = (s.contains e || t.contains e) := by
  cases e <;> rfl

@[simp] theorem contains_ofList (ts : List EntityType) (e : EntityType) :
    (ofList ts).contains e = decide (e ∈ ts) := by
  induction ts with
  | nil => simp [ofList]
  | cons t ts ih => simp [ofList, ih, eq_comm]

@[simp] theorem mem_toList (s : EntityTypes) (e : EntityType) :
    e ∈ s.toList ↔ s.contains e = true := by
  simp [toList, EntityType.mem_all]

end EntityTypes

end TagSearch
