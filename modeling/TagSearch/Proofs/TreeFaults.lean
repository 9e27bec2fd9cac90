import Mathlib.Data.List.Forall2
import Mathlib.Tactic.Common
import TagSearch.ParsedSearch
import TagSearch.Proofs.RoundTrip

/-!
# What is wrong with a tree

A JSON value is read as a tree in two phases, and what is reported follows from that.

The first phase looks at the shape only: at each place either an object with an operator and a list
of operands that have a shape themselves, or else a condition.  The choice at an object depends on
everything below it, so it is stated by two relations.  `IsShaped` says that a value can be read at
all, and `HasShape`, which builds on it, says what it is read as.  Both are compared with the reader
by induction on the values inside the lists of operands (`Json.induction_on_items`).

The second phase looks at the nodes of the shape in preorder, a node before its operands and these
from left to right (`Shape.nodes`).  The first node that is not sound is reported; if there is none,
the shape is that of a tree (`ReportsFault`).
-/

namespace TagSearch

namespace Json

/-- The value is an object that gives the field `logical` once, as a text, and the field `queries`
once, as a list. -/
def IsLogical (j : Json) (operator : String) (items : List Json) : Prop :=
  ∃ fields, j = .obj fields ∧ valuesOf "logical" fields = [.str operator] ∧
    valuesOf "queries" fields = [.arr items]

/-- The operands that an object lists are smaller than the object. -/
lemma IsLogical.sizeOf_lt {j item : Json} {operator : String} {items : List Json}
    (h : j.IsLogical operator items) (hitem : item ∈ items) : sizeOf item < sizeOf j := by
  obtain ⟨fields, rfl, _, hqueries⟩ := h
  have hfield : ("queries", Json.arr items) ∈ fields := by
    have hvalue : Json.arr items ∈ valuesOf "queries" fields := hqueries ▸ List.mem_singleton_self _
    obtain ⟨⟨name, value⟩, hmem, hname⟩ := List.mem_filterMap.mp hvalue
    simp only [Option.ite_none_right_eq_some, Option.some.injEq] at hname
    obtain ⟨rfl, rfl⟩ := hname
    exact hmem
  have hitems := List.sizeOf_lt_of_mem hitem
  have hfields := List.sizeOf_lt_of_mem hfield
  simp only [Prod.mk.sizeOf_spec, Json.arr.sizeOf_spec, Json.obj.sizeOf_spec] at hfields ⊢
  omega

/-- What holds of a value whenever it holds of the operands that the value lists, holds of every
value. -/
lemma induction_on_items {P : Json → Prop}
    (step : ∀ j, (∀ operator items, j.IsLogical operator items → ∀ item ∈ items, P item) → P j)
    (j : Json) : P j :=
  step j fun _ _ h item hitem =>
    have := h.sizeOf_lt hitem
    induction_on_items step item
termination_by sizeOf j

end Json

namespace SearchTree

/-! ### Shapes of JSON values -/

/-- A value that can be read as a tree with any operators and any number of operands. -/
inductive IsShaped : Json → Prop
  | node {j : Json} {operator : String} {items : List Json} (logical : j.IsLogical operator items)
    (operands : ∀ item ∈ items, IsShaped item) : IsShaped j
  | leaf {j : Json} {c : Condition} (condition : Condition.ofJson? true j = some c) : IsShaped j

/-- A value that is read as a node: it has an operator, and its operands can be read. -/
def IsNode (j : Json) : Prop :=
  ∃ operator items, j.IsLogical operator items ∧ ∀ item ∈ items, IsShaped item

/-- The shape that a value is read as: a node if it can be read as one, or else a condition. -/
inductive HasShape : Json → Shape → Prop
  | node {j : Json} {operator : String} {items : List Json} {operands : List Shape}
    (logical : j.IsLogical operator items) (shapes : List.Forall₂ HasShape items operands) :
    HasShape j (.node operator operands)
  | leaf {j : Json} {c : Condition} (noNode : ¬ IsNode j)
    (condition : Condition.ofJson? true j = some c) : HasShape j (.leaf c)

namespace Shape

variable {j : Json} {operator : String} {items : List Json} {operands : List Shape}

/-- A list of values is read by reading its items. -/
lemma ofItems?_eq_some_iff : ofItems? items = some operands ↔
    List.Forall₂ (fun i s => ofJson? i = some s) items operands := by
  induction items generalizing operands with
  | nil => simp [ofItems?, eq_comm]
  | cons item items ih =>
    simp only [ofItems?, Option.bind_eq_bind, Option.bind_eq_some_iff, Option.pure_def,
      Option.some.injEq, List.forall₂_cons_left_iff, ih]
    constructor
    · rintro ⟨shape, hshape, shapes, hshapes, rfl⟩
      exact ⟨shape, shapes, hshape, hshapes, rfl⟩
    · rintro ⟨shape, shapes, hshape, hshapes, rfl⟩
      exact ⟨shape, hshape, shapes, hshapes, rfl⟩

/-- Values that can each be read can be read together. -/
lemma exists_ofItems?_eq_some_iff :
    (∃ operands, ofItems? items = some operands) ↔ ∀ i ∈ items, ∃ s, ofJson? i = some s := by
  simp only [ofItems?_eq_some_iff]
  induction items with
  | nil => simp
  | cons item items ih =>
    rw [List.forall_mem_cons, ← ih]
    simp only [List.forall₂_cons_left_iff]
    constructor
    · rintro ⟨_, s, shapes, hs, hshapes, rfl⟩
      exact ⟨⟨s, hs⟩, shapes, hshapes⟩
    · rintro ⟨⟨s, hs⟩, shapes, hshapes⟩
      exact ⟨_, s, shapes, hs, hshapes, rfl⟩

/-- An object with operands that can be read is a node. -/
lemma ofJson?_of_isLogical (h : j.IsLogical operator items)
    (hitems : ofItems? items = some operands) : ofJson? j = some (.node operator operands) := by
  obtain ⟨fields, rfl, hlogical, hqueries⟩ := h
  have hlists : operandLists fields = [some operands] := by
    rw [operandLists_eq, hqueries, List.map_singleton, operands?, hitems]
  rw [ofJson?, Json.single?, hlogical, hlists]

/-- A value that is no object with operands that can be read is a condition or nothing. -/
lemma ofJson?_of_forall_ne
    (h : ∀ operator items operands, j.IsLogical operator items → ofItems? items ≠ some operands) :
    ofJson? j = (Condition.ofJson? true j).map .leaf := by
  cases j with
  | obj fields =>
    rw [ofJson?]
    split
    next operator operands hlogical hlists =>
      -- a node that the reader finds here would be one of those that are excluded
      have hsingle : Json.valuesOf "logical" fields = [.str operator] := by
        unfold Json.single? at hlogical
        split at hlogical
        next hvalues => rw [hvalues, Option.some.inj hlogical]
        next => cases hlogical
      rw [operandLists_eq] at hlists
      obtain ⟨value, hqueries, hvalue⟩ := List.map_eq_singleton_iff.mp hlists
      cases value with
      | arr items =>
        exact absurd hvalue (h operator items operands ⟨fields, rfl, hsingle, hqueries⟩)
      | _ => cases hvalue
    next => rfl
  | arr items => rw [ofJson?]
  | _ => rfl

end Shape

/-- What can be read by the relation is what the reader reads. -/
lemma isShaped_iff {j : Json} : IsShaped j ↔ ∃ s, Shape.ofJson? j = some s := by
  induction j using Json.induction_on_items with
  | step j ih =>
    by_cases hnode : ∃ operator items operands,
        j.IsLogical operator items ∧ Shape.ofItems? items = some operands
    · obtain ⟨operator, items, operands, hlogical, hitems⟩ := hnode
      refine ⟨fun _ => ⟨_, Shape.ofJson?_of_isLogical hlogical hitems⟩, fun _ => ?_⟩
      refine .node hlogical fun item hitem => (ih _ _ hlogical item hitem).mpr ?_
      exact Shape.exists_ofItems?_eq_some_iff.mp ⟨operands, hitems⟩ item hitem
    · have hread := Shape.ofJson?_of_forall_ne fun operator items operands hlogical hitems =>
        hnode ⟨operator, items, operands, hlogical, hitems⟩
      rw [hread]
      constructor
      · intro h
        cases h with
        | @node _ operator items hlogical hshaped =>
          have hitems : ∀ item ∈ items, ∃ s, Shape.ofJson? item = some s :=
            fun item hitem => (ih _ _ hlogical item hitem).mp (hshaped item hitem)
          obtain ⟨operands, hoperands⟩ := Shape.exists_ofItems?_eq_some_iff.mpr hitems
          exact absurd ⟨operator, items, operands, hlogical, hoperands⟩ hnode
        | @leaf _ c hcondition => exact ⟨.leaf c, by rw [hcondition, Option.map_some]⟩
      · rintro ⟨s, hs⟩
        obtain ⟨c, hcondition, rfl⟩ := Option.map_eq_some_iff.mp hs
        exact .leaf hcondition

/-- A node is an object whose operands the reader reads. -/
lemma isNode_iff {j : Json} : IsNode j ↔ ∃ operator items operands,
    j.IsLogical operator items ∧ Shape.ofItems? items = some operands := by
  simp only [IsNode, isShaped_iff, ← Shape.exists_ofItems?_eq_some_iff, exists_and_left]

/-- A list is related item by item to another one, when on its items the relation is the same. -/
lemma forall₂_congr_of_mem {α β : Type} {R S : α → β → Prop} {as : List α} {bs : List β}
    (h : ∀ a ∈ as, ∀ b, R a b ↔ S a b) : List.Forall₂ R as bs ↔ List.Forall₂ S as bs := by
  induction as generalizing bs with
  | nil => simp
  | cons a as ih =>
    obtain ⟨hfirst, hrest⟩ := List.forall_mem_cons.mp h
    simp only [List.forall₂_cons_left_iff, hfirst, ih hrest]

/-- A value is read as the shape that it has. -/
lemma hasShape_iff {j : Json} {s : Shape} : HasShape j s ↔ Shape.ofJson? j = some s := by
  induction j using Json.induction_on_items generalizing s with
  | step j ih =>
    have hitems {operator : String} {items : List Json} {operands : List Shape}
        (hlogical : j.IsLogical operator items) :
        List.Forall₂ HasShape items operands ↔ Shape.ofItems? items = some operands := by
      rw [Shape.ofItems?_eq_some_iff]
      exact forall₂_congr_of_mem fun item hitem s => ih _ _ hlogical item hitem
    have hcondition (hnode : ¬ IsNode j) :
        Shape.ofJson? j = (Condition.ofJson? true j).map .leaf := by
      refine Shape.ofJson?_of_forall_ne fun operator items operands hlogical hoperands => ?_
      exact hnode (isNode_iff.mpr ⟨operator, items, operands, hlogical, hoperands⟩)
    constructor
    · intro h
      cases h with
      | node hlogical hshapes =>
        exact Shape.ofJson?_of_isLogical hlogical ((hitems hlogical).mp hshapes)
      | leaf hnode hleaf => rw [hcondition hnode, hleaf, Option.map_some]
    · intro h
      by_cases hnode : IsNode j
      · obtain ⟨operator, items, operands, hlogical, hoperands⟩ := isNode_iff.mp hnode
        obtain rfl : Shape.node operator operands = s :=
          Option.some.inj ((Shape.ofJson?_of_isLogical hlogical hoperands).symm.trans h)
        exact .node hlogical ((hitems hlogical).mpr hoperands)
      · rw [hcondition hnode] at h
        obtain ⟨c, hleaf, rfl⟩ := Option.map_eq_some_iff.mp h
        exact .leaf hnode hleaf

/-! ### Nodes of a shape -/

namespace Shape

/-- What is checked of a node: its operator and the number of its operands. -/
structure Node where
  operator : String
  operandCount : Nat
  deriving DecidableEq, Repr

/-- A node of a tree: it has a known operator and two operands. -/
def Node.IsSound (n : Node) : Prop :=
  (n.operator = "and" ∨ n.operator = "or") ∧ n.operandCount = 2

instance (n : Node) : Decidable n.IsSound :=
  inferInstanceAs (Decidable (_ ∧ _))

/-- What is wrong with a node that is not sound.  An unknown operator counts before a wrong number
of operands. -/
def Node.error (n : Node) : TreeError :=
  if n.operator = "and" ∨ n.operator = "or" then .arity n.operator n.operandCount
  else .unsupportedOperator n.operator

mutual

/-- The nodes of a shape in preorder: a node, then those of its operands from left to right. -/
def nodes : Shape → List Node
  | .leaf _ => []
  | .node operator operands => ⟨operator, operands.length⟩ :: nodesOfAll operands

/-- The nodes of several shapes, one after the other. -/
def nodesOfAll : List Shape → List Node
  | [] => []
  | s :: shapes => s.nodes ++ nodesOfAll shapes

end

/-- The first node of a shape that is not sound. -/
def fault? (s : Shape) : Option Node :=
  s.nodes.find? fun n => ¬ n.IsSound

/-- Without a fault all nodes are sound. -/
lemma fault?_eq_none_iff {s : Shape} : s.fault? = none ↔ ∀ n ∈ s.nodes, n.IsSound := by
  simp [fault?]

/-- A node that is not sound is the first fault of its shape. -/
lemma fault?_of_not_isSound {operator : String} {operands : List Shape}
    (h : ¬ Node.IsSound ⟨operator, operands.length⟩) :
    (Shape.node operator operands).fault? = some ⟨operator, operands.length⟩ := by
  rw [fault?, nodes, List.find?_cons_of_pos (by simpa using h)]

/-- A sound node has the first fault of its operands. -/
lemma fault?_of_isSound {operator : String} {left right : Shape}
    (h : Node.IsSound ⟨operator, 2⟩) :
    (Shape.node operator [left, right]).fault? = left.fault?.or right.fault? := by
  rw [fault?, nodes, List.find?_cons_of_neg (by simpa using h), nodesOfAll, nodesOfAll, nodesOfAll,
    List.append_nil, List.find?_append]
  rfl

end Shape

/-! ### Trees of shapes -/

/-- The operators that join trees are the known ones. -/
lemma join?_eq_none_iff {operator : String} :
    join? operator = none ↔ ¬ (operator = "and" ∨ operator = "or") := by
  unfold join?
  split <;> simp_all

/-- An operator that joins trees is a known one. -/
lemma isKnown_of_join? {operator : String} {join : SearchTree → SearchTree → SearchTree}
    (h : join? operator = some join) : operator = "and" ∨ operator = "or" := by
  by_contra hunknown
  exact absurd (join?_eq_none_iff.mpr hunknown) (h ▸ Option.some_ne_none join)

/-- A tree that was joined has its sides as the operands of its shape. -/
lemma toShape_join {operator : String} {join : SearchTree → SearchTree → SearchTree}
    (h : join? operator = some join) (l r : SearchTree) :
    (join l r).toShape = .node operator [l.toShape, r.toShape] := by
  unfold join? at h
  split at h
  · obtain rfl := Option.some.inj h
    rfl
  · obtain rfl := Option.some.inj h
    rfl
  · cases h

/-- The second phase does what the first fault of a shape says. -/
structure ReportsFault (s : Shape) : Prop where
  /-- The first fault is reported. -/
  error : ∀ n, s.fault? = some n → ofShape s = .error n.error
  /-- Without a fault, the shape is that of the tree that is read. -/
  tree : s.fault? = none → ∃ t, ofShape s = .ok t ∧ t.toShape = s

/-- A node that is not sound is refused, whatever its operands are. -/
lemma reportsFault_of_not_isSound {operator : String} {operands : List Shape}
    (h : ¬ Shape.Node.IsSound ⟨operator, operands.length⟩) :
    ReportsFault (.node operator operands) := by
  have hfault := Shape.fault?_of_not_isSound h
  have hrefused : ofShape (.node operator operands) =
      .error (Shape.Node.error ⟨operator, operands.length⟩) := by
    by_cases hpair : ∃ left right, operands = [left, right]
    · obtain ⟨left, right, rfl⟩ := hpair
      have hunknown : ¬ (operator = "and" ∨ operator = "or") := fun hknown => h ⟨hknown, rfl⟩
      rw [ofShape.eq_2, join?_eq_none_iff.mpr hunknown, Shape.Node.error, if_neg hunknown]
    · rw [ofShape.eq_3 _ _ fun left right h => hpair ⟨left, right, h⟩, Shape.Node.error]
      cases hjoin : join? operator with
      | none => rw [if_neg (join?_eq_none_iff.mp hjoin)]
      | some join => rw [if_pos (isKnown_of_join? hjoin)]
  constructor
  · intro n hn
    obtain rfl := Option.some.inj (hfault.symm.trans hn)
    exact hrefused
  · intro hn
    cases hfault.symm.trans hn

/-- A sound node reports the first fault of its operands, or joins their trees. -/
lemma reportsFault_of_join? {operator : String} {join : SearchTree → SearchTree → SearchTree}
    {left right : Shape} (hjoin : join? operator = some join) (hleft : ReportsFault left)
    (hright : ReportsFault right) : ReportsFault (.node operator [left, right]) := by
  have hfault : (Shape.node operator [left, right]).fault? = left.fault?.or right.fault? :=
    Shape.fault?_of_isSound ⟨isKnown_of_join? hjoin, rfl⟩
  have hread : ofShape (.node operator [left, right]) = do
      return join (← ofShape left) (← ofShape right) := by
    rw [ofShape.eq_2, hjoin]
  constructor
  · intro n hn
    rw [hfault, Option.or_eq_some_iff] at hn
    rcases hn with hl | ⟨hl, hr⟩
    · rw [hread, hleft.error n hl]
      rfl
    · -- the right operand is looked at only when the left one is a tree
      obtain ⟨l, hltree, _⟩ := hleft.tree hl
      rw [hread, hltree, hright.error n hr]
      rfl
  · intro hn
    obtain ⟨hl, hr⟩ := Option.or_eq_none_iff.mp (hfault.symm.trans hn)
    obtain ⟨l, hltree, hlshape⟩ := hleft.tree hl
    obtain ⟨r, hrtree, hrshape⟩ := hright.tree hr
    refine ⟨join l r, ?_, ?_⟩
    · rw [hread, hltree, hrtree]
      rfl
    · rw [toShape_join hjoin, hlshape, hrshape]

/-- Every shape is refused for its first fault, or read as the tree that has this shape. -/
lemma reportsFault (s : Shape) : ReportsFault s := by
  induction s using ofShape.induct with
  | case1 c => exact ⟨fun n hn => (nomatch hn), fun _ => ⟨.leaf c, rfl, rfl⟩⟩
  | case2 operator left right join hjoin ihl ihr => exact reportsFault_of_join? hjoin ihl ihr
  | case3 operator left right hjoin =>
    exact reportsFault_of_not_isSound fun h => join?_eq_none_iff.mp hjoin h.1
  | case4 operator operands hpair join hjoin =>
    refine reportsFault_of_not_isSound fun h => ?_
    obtain ⟨left, right, hoperands⟩ := List.length_eq_two.mp h.2
    exact hpair left right hoperands
  | case5 operator operands hpair hjoin =>
    exact reportsFault_of_not_isSound fun h => join?_eq_none_iff.mp hjoin h.1

/-- A value with a shape is read as the second phase reads the shape. -/
lemma ofJson_of_hasShape {j : Json} {s : Shape} (h : HasShape j s) :
    SearchTree.ofJson j = (ofShape s).mapError .tree := by
  rw [SearchTree.ofJson, hasShape_iff.mp h]

/-- A value is read as a tree in two phases.  A value without a shape is malformed, whatever
operators and numbers of operands stand in it.  A value with a shape is read exactly when every node
of the shape has a known operator and two operands, and then as the tree with this shape: the same
leaves in the same places.  Otherwise the first node in preorder that is not so is reported; an
unknown operator counts before a wrong number of operands. -/
theorem ofJson_reports_first_fault (j : Json) :
    (¬ IsShaped j → SearchTree.ofJson j = .error .malformed) ∧
    (IsShaped j ↔ ∃ s, HasShape j s) ∧
    ∀ s, HasShape j s →
      ((∃ t, SearchTree.ofJson j = .ok t) ↔ ∀ n ∈ s.nodes, n.IsSound) ∧
      (∀ t, SearchTree.ofJson j = .ok t → t.toShape = s) ∧
      ∀ n, s.nodes.find? (fun n => ¬ n.IsSound) = some n →
        SearchTree.ofJson j = .error (.tree n.error) := by
  refine ⟨fun h => ?_, ?_, fun s hs => ?_⟩
  · have hnone : Shape.ofJson? j = none := by
      rw [Option.eq_none_iff_forall_ne_some]
      exact fun s hs => h (isShaped_iff.mpr ⟨s, hs⟩)
    rw [SearchTree.ofJson, hnone]
  · simp only [isShaped_iff, hasShape_iff]
  · have hreports := reportsFault s
    have hread : ∀ t, (ofShape s).mapError ReadError.tree = .ok t →
        s.fault? = none ∧ t.toShape = s := by
      intro t ht
      cases hfault : s.fault? with
      | none =>
        obtain ⟨t', ht', hshape⟩ := hreports.tree hfault
        rw [ht'] at ht
        obtain rfl : t' = t := Except.ok.inj ht
        exact ⟨rfl, hshape⟩
      | some n =>
        rw [hreports.error n hfault] at ht
        cases ht
    rw [ofJson_of_hasShape hs, ← Shape.fault?_eq_none_iff]
    refine ⟨⟨?_, fun hnone => ?_⟩, fun t ht => (hread t ht).2, fun n hn => ?_⟩
    · rintro ⟨t, ht⟩
      exact (hread t ht).1
    · obtain ⟨t, ht, _⟩ := hreports.tree hnone
      exact ⟨t, by rw [ht]; rfl⟩
    · rw [hreports.error n hn]
      rfl

/-- Of two faulty operands the left one is reported, though the right one has an unknown operator.
An operand without a shape makes the whole value malformed, unless the value is a condition too. -/
theorem ofJson_reports_first_fault_nested :
    (∃ s, HasShape (.obj [("logical", .str "and"), ("queries", .arr
          [.obj [("logical", .str "or"), ("queries", .arr [.arr [.str "key", .str "shop"]])],
            .obj [("logical", .str "xor"), ("queries", .arr [])]])]) s ∧
        s.nodes = [⟨"and", 2⟩, ⟨"or", 1⟩, ⟨"xor", 0⟩] ∧
        SearchTree.ofJson (.obj [("logical", .str "and"), ("queries", .arr
          [.obj [("logical", .str "or"), ("queries", .arr [.arr [.str "key", .str "shop"]])],
            .obj [("logical", .str "xor"), ("queries", .arr [])]])]) =
          .error (.tree (.arity "or" 1))) ∧
    SearchTree.ofJson (.obj [("logical", .str "xor"), ("queries", .arr [.null])]) =
      .error .malformed ∧
    ∃ t, SearchTree.ofJson (.obj [("logical", .str "xor"), ("queries", .arr [.null]),
        ("query", .str "key"), ("key", .str "shop")]) = .ok t ∧
      t.toShape = .leaf (.hasKey "shop") := by
  refine ⟨⟨_, hasShape_iff.mpr rfl, by decide, ?_⟩, ?_, ?_⟩
  · exact ((ofJson_reports_first_fault _).2.2 _ (hasShape_iff.mpr rfl)).2.2 ⟨"or", 1⟩ (by decide)
  · refine (ofJson_reports_first_fault _).1 fun h => ?_
    obtain ⟨s, hs⟩ := isShaped_iff.mp h
    cases hs
  · obtain ⟨hok, htree, _⟩ := (ofJson_reports_first_fault (.obj [("logical", .str "xor"),
      ("queries", .arr [.null]), ("query", .str "key"), ("key", .str "shop")])).2.2
      (.leaf (.hasKey "shop")) (hasShape_iff.mpr rfl)
    obtain ⟨t, ht⟩ := hok.mpr (by decide)
    exact ⟨t, ht, htree t ht⟩

end SearchTree

end TagSearch
