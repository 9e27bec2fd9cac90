import Mathlib.Algebra.BigOperators.Group.List.Basic
import Mathlib.Tactic.Common
import Mathlib.Tactic.Ring
import TagSearch.Proofs.LeafCopies

/-!
# Order and multiplicity of the leaves in the terms

Each term takes its conditions from the leaves in the order in which these stand in the tree.  How
often a leaf is taken is decided by the `and` nodes above it alone: at each of them the terms of its
own side are repeated for every term of the opposite side, so the leaf stands in the terms as often
as the product of the numbers of terms of these opposite sides says.

The leaves are therefore listed together with these numbers (`leavesBelow`).  The numbers are
collected on the way down, so what is counted is stated for a tree below any number of `and` nodes
(`sum_prod_leavesBelow`).
-/

namespace TagSearch.SearchTree

/-- The number of terms, computed from the numbers of terms of the sides. -/
def termCount : SearchTree → Nat
  | leaf _ => 1
  | and l r => l.termCount * r.termCount
  | or l r => l.termCount + r.termCount

/-- The leaves of a tree from left to right, each with the numbers of terms of the opposite sides at
all `and` nodes above it.  The numbers for the nodes above the tree itself are given. -/
def leavesBelow (above : List Nat) : SearchTree → List (Condition × List Nat)
  | leaf c => [(c, above)]
  | and l r => l.leavesBelow (r.termCount :: above) ++ r.leavesBelow (l.termCount :: above)
  | or l r => l.leavesBelow above ++ r.leavesBelow above

/-! ### Order -/

/-- The conditions of a term stand at the leaves in the same order. -/
lemma sublist_leaves_of_mem_terms {t : SearchTree} {term : Term} (h : term ∈ t.terms) :
    List.Sublist term t.leaves := by
  induction t generalizing term with
  | leaf c =>
    obtain rfl := mem_terms_leaf.mp h
    exact List.Sublist.refl [c]
  | and l r ihl ihr =>
    obtain ⟨first, hfirst, second, hsecond, rfl⟩ := mem_terms_and.mp h
    exact (ihl hfirst).append (ihr hsecond)
  | or l r ihl ihr =>
    rcases mem_terms_or.mp h with hl | hr
    · exact (ihl hl).trans (List.sublist_append_left _ _)
    · exact (ihr hr).trans (List.sublist_append_right _ _)

/-- Without the numbers, these are the leaves. -/
lemma map_fst_leavesBelow (above : List Nat) (t : SearchTree) :
    (t.leavesBelow above).map Prod.fst = t.leaves := by
  induction t generalizing above with
  | leaf c => rfl
  | and l r ihl ihr => rw [leavesBelow, List.map_append, ihl, ihr, leaves]
  | or l r ihl ihr => rw [leavesBelow, List.map_append, ihl, ihr, leaves]

/-! ### Multiplicity -/

/-- The number of terms is a product for `and` and a sum for `or`. -/
lemma length_terms (t : SearchTree) : t.terms.length = t.termCount := by
  induction t with
  | leaf c => rfl
  | and l r ihl ihr =>
    have hpairs : (and l r).terms.length = l.terms.length * r.terms.length := by
      simp [terms, List.length_flatMap, List.map_const', List.sum_replicate]
    rw [hpairs, ihl, ihr, termCount]
  | or l r ihl ihr => rw [terms, List.length_append, ihl, ihr, termCount]

/-- Every tree counts at least one term. -/
lemma termCount_pos (t : SearchTree) : 0 < t.termCount :=
  t.length_terms ▸ t.length_terms_pos

/-- The conditions with a property are counted in the terms by the products that belong to the
leaves with that property, once for every copy of the tree that the nodes above it make. -/
lemma sum_prod_leavesBelow (p : Condition → Bool) (above : List Nat) (t : SearchTree) :
    (((t.leavesBelow above).filter fun x => p x.1).map fun x => x.2.prod).sum =
      above.prod * t.termConditions.countP p := by
  induction t generalizing above with
  | leaf c =>
    have hconditions : (leaf c).termConditions = [c] := rfl
    rw [leavesBelow, hconditions]
    by_cases hc : p c = true
    · simp [hc]
    · simp [hc]
  | and l r ihl ihr =>
    rw [leavesBelow, List.filter_append, List.map_append, List.sum_append, ihl, ihr,
      countP_termConditions_and, length_terms, length_terms, List.prod_cons, List.prod_cons]
    ring
  | or l r ihl ihr =>
    rw [leavesBelow, List.filter_append, List.map_append, List.sum_append, ihl, ihr,
      termConditions_or, List.countP_append]
    ring

/-- No leaf is counted zero times. -/
lemma prod_pos_of_mem_leavesBelow {above : List Nat} (habove : 0 < above.prod) {t : SearchTree}
    {x : Condition × List Nat} (h : x ∈ t.leavesBelow above) : 0 < x.2.prod := by
  induction t generalizing above with
  | leaf c =>
    obtain rfl := List.mem_singleton.mp h
    exact habove
  | and l r ihl ihr =>
    rcases List.mem_append.mp h with hl | hr
    · refine ihl ?_ hl
      rw [List.prod_cons]
      exact Nat.mul_pos r.termCount_pos habove
    · refine ihr ?_ hr
      rw [List.prod_cons]
      exact Nat.mul_pos l.termCount_pos habove
  | or l r ihl ihr =>
    rcases List.mem_append.mp h with hl | hr
    · exact ihl habove hl
    · exact ihr habove hr

/-- The terms keep the order of the leaves, and they hold each leaf a determined number of times.
Each term is a subsequence of the leaves; there is one term for a single condition, a product for
`and` and a sum for `or`; and the number of times that a condition occurs in the terms is the sum,
over the leaves where it stands, of the product of the numbers of terms of the opposite sides at all
`and` nodes above the leaf.  None of these products is zero, so each leaf stands in some term. -/
theorem terms_keep_order_and_multiplicity (t : SearchTree) :
    (∀ term ∈ t.terms, List.Sublist term t.leaves) ∧
    t.terms.length = t.termCount ∧
    (t.leavesBelow []).map Prod.fst = t.leaves ∧
    (∀ c : Condition, t.termConditions.count c =
      (((t.leavesBelow []).filter fun x => x.1 = c).map fun x => x.2.prod).sum) ∧
    ∀ x ∈ t.leavesBelow [], 0 < x.2.prod ∧ ∃ term ∈ t.terms, x.1 ∈ term := by
  refine ⟨fun term => sublist_leaves_of_mem_terms, t.length_terms, map_fst_leavesBelow [] t, ?_, ?_⟩
  · intro c
    have hsum := sum_prod_leavesBelow (fun d => d = c) [] t
    rw [List.prod_nil, one_mul] at hsum
    rw [hsum, List.count_eq_countP]
    exact List.countP_congr fun d _ => by simp
  · intro x hx
    have hleaf : x.1 ∈ t.leaves := by
      rw [← map_fst_leavesBelow [] t]
      exact List.mem_map_of_mem hx
    have hterm : x.1 ∈ t.termConditions := mem_termConditions_iff.mpr hleaf
    have hnil : 0 < ([] : List Nat).prod := Nat.one_pos
    exact ⟨prod_pos_of_mem_leavesBelow hnil hx, List.mem_flatten.mp hterm⟩

/-- A phrase that is searched for twice, once below an `and` with two terms on the opposite side. -/
example :
    (and (or (leaf (.phrase "Bar")) (leaf (.hasKey "shop")))
        (leaf (.phrase "Bar"))).leavesBelow [] =
        [(.phrase "Bar", [1]), (.hasKey "shop", [1]), (.phrase "Bar", [2])] ∧
      (and (or (leaf (.phrase "Bar")) (leaf (.hasKey "shop")))
        (leaf (.phrase "Bar"))).termConditions.count (.phrase "Bar") = 3 := by
  decide

end TagSearch.SearchTree
