import Mathlib.Data.List.Flatten
import Mathlib.Tactic.Common
import Mathlib.Tactic.Ring
import TagSearch.Proofs.NormalForm

/-!
# Copies of the leaves in the terms

The terms of a tree hold the conditions at its leaves and no others, but `and` copies them: each
term of one side is repeated for every term of the other.  Read one after the other, the terms
therefore hold the leaves as a subsequence (`leaves_sublist_termConditions`), in general with
further copies between them.

`IsUncopied` says of a tree that it copies none of the leaves in question, by looking at its `and`
nodes only.  These are the trees in which the terms hold as many such leaves as the tree itself
(`isUncopied_iff_countP_eq`), and then they hold them in the order of the tree
(`IsUncopied.filter_termConditions`).
-/

namespace TagSearch.SearchTree

/-! ### The conditions of the terms -/

/-- There is at least one term. -/
lemma length_terms_pos (t : SearchTree) : 0 < t.terms.length := by
  obtain ⟨term, h⟩ := exists_mem_terms t
  exact List.length_pos_of_mem h

/-- The conditions of `and`, term by term. -/
lemma termConditions_and (l r : SearchTree) :
    (and l r).termConditions = l.terms.flatMap fun s => r.terms.flatMap fun t => s ++ t := by
  rw [termConditions, terms, List.flatten_eq_flatMap, List.flatMap_assoc]
  simp [List.flatMap_map]

/-- The conditions of `or` are those of the left side followed by those of the right side. -/
lemma termConditions_or (l r : SearchTree) :
    (or l r).termConditions = l.termConditions ++ r.termConditions := by
  rw [termConditions, terms, List.flatten_append]
  rfl

/-- Terms paired with others hold what the terms hold followed by what the others hold. -/
lemma flatten_append_flatten_sublist {ss ts : List Term} (hss : ss ≠ []) (hts : ts ≠ []) :
    List.Sublist (ss.flatten ++ ts.flatten) (ss.flatMap fun s => ts.flatMap fun t => s ++ t) := by
  induction ss with
  | nil => exact absurd rfl hss
  | cons s ss ih =>
    rw [List.flatten_cons, List.append_assoc, List.flatMap_cons]
    obtain ⟨t, ts', rfl⟩ := List.exists_cons_of_ne_nil hts
    by_cases hnil : ss = []
    · -- the last term stands before each of the others, but is needed only before the first
      subst hnil
      have hrest : List.Sublist ts'.flatten (ts'.flatMap fun t => s ++ t) := by
        rw [List.flatten_eq_flatMap]
        exact List.Sublist.flatMap_right ts' fun t _ => List.sublist_append_right s t
      simpa using hrest
    · have hfirst : List.Sublist s ((t :: ts').flatMap fun t => s ++ t) := by
        rw [List.flatMap_cons, List.append_assoc]
        exact List.sublist_append_left s _
      exact hfirst.append (ih hnil)

/-- The leaves stand among the conditions of the terms, in their order. -/
lemma leaves_sublist_termConditions (t : SearchTree) :
    List.Sublist t.leaves t.termConditions := by
  induction t with
  | leaf c => exact List.Sublist.refl [c]
  | and l r ihl ihr =>
    rw [leaves, termConditions_and]
    refine (ihl.append ihr).trans (flatten_append_flatten_sublist ?_ ?_)
    · exact List.ne_nil_of_length_pos l.length_terms_pos
    · exact List.ne_nil_of_length_pos r.length_terms_pos
  | or l r ihl ihr =>
    rw [leaves, termConditions_or]
    exact ihl.append ihr

/-- The terms hold the conditions at the leaves and no others. -/
lemma mem_termConditions_iff {t : SearchTree} {c : Condition} :
    c ∈ t.termConditions ↔ c ∈ t.leaves := by
  refine ⟨fun h => ?_, fun h => (leaves_sublist_termConditions t).subset h⟩
  induction t with
  | leaf d => exact h
  | and l r ihl ihr =>
    rw [termConditions_and] at h
    obtain ⟨s, hs, h⟩ := List.mem_flatMap.mp h
    obtain ⟨t, ht, h⟩ := List.mem_flatMap.mp h
    rw [leaves, List.mem_append]
    rcases List.mem_append.mp h with h | h
    · exact .inl (ihl (List.mem_flatten_of_mem hs h))
    · exact .inr (ihr (List.mem_flatten_of_mem ht h))
  | or l r ihl ihr =>
    rw [termConditions_or] at h
    rw [leaves, List.mem_append]
    exact (List.mem_append.mp h).imp ihl ihr

/-! ### How often leaves are copied -/

variable {p : Condition → Bool}

/-- In `and`, the conditions of either side occur once for every term of the other side. -/
lemma countP_termConditions_and (p : Condition → Bool) (l r : SearchTree) :
    (and l r).termConditions.countP p =
      r.terms.length * l.termConditions.countP p + l.terms.length * r.termConditions.countP p := by
  have hright (s : Term) (ts : List Term) : (ts.flatMap fun t => s ++ t).countP p =
      ts.length * s.countP p + ts.flatten.countP p := by
    induction ts with
    | nil => simp
    | cons t ts ih =>
      rw [List.flatMap_cons, List.countP_append, List.countP_append, ih, List.flatten_cons,
        List.countP_append, List.length_cons]
      ring
  have hleft (ss : List Term) :
      (ss.flatMap fun s => r.terms.flatMap fun t => s ++ t).countP p =
        r.terms.length * ss.flatten.countP p + ss.length * r.termConditions.countP p := by
    induction ss with
    | nil => simp
    | cons s ss ih =>
      rw [List.flatMap_cons, List.countP_append, ih, hright, List.flatten_cons,
        List.countP_append, List.length_cons, termConditions]
      ring
  rw [termConditions_and, hleft]
  rfl

/-- No leaf with the property `p` is copied: where one stands below `and`, the other side has a
single term. -/
def IsUncopied (p : Condition → Bool) : SearchTree → Prop
  | leaf _ => True
  | and l r => l.IsUncopied p ∧ r.IsUncopied p ∧
      (r.terms.length = 1 ∨ ∀ c ∈ l.leaves, p c = false) ∧
      (l.terms.length = 1 ∨ ∀ c ∈ r.leaves, p c = false)
  | or l r => l.IsUncopied p ∧ r.IsUncopied p

/-- Whether leaves are copied can be decided from the `and` nodes. -/
instance decidableIsUncopied (p : Condition → Bool) : (t : SearchTree) → Decidable (t.IsUncopied p)
  | leaf _ => .isTrue trivial
  | and l r =>
    have := decidableIsUncopied p l
    have := decidableIsUncopied p r
    inferInstanceAs (Decidable (_ ∧ _ ∧ (_ ∨ ∀ c ∈ l.leaves, p c = false) ∧
      (_ ∨ ∀ c ∈ r.leaves, p c = false)))
  | or l r =>
    have := decidableIsUncopied p l
    have := decidableIsUncopied p r
    inferInstanceAs (Decidable (_ ∧ _))

/-- The terms hold at least as many conditions of a kind as there are leaves of that kind. -/
lemma countP_leaves_le (p : Condition → Bool) (t : SearchTree) :
    t.leaves.countP p ≤ t.termConditions.countP p :=
  (leaves_sublist_termConditions t).countP_le

/-- The leaves that are not copied are those that the terms hold no more often than the tree. -/
lemma isUncopied_iff_countP_eq {t : SearchTree} :
    t.IsUncopied p ↔ t.termConditions.countP p = t.leaves.countP p := by
  induction t with
  | leaf c => exact ⟨fun _ => rfl, fun _ => trivial⟩
  | and l r ihl ihr =>
    rw [IsUncopied, ihl, ihr, countP_termConditions_and, leaves, List.countP_append]
    have hl := countP_leaves_le p l
    have hr := countP_leaves_le p r
    have hlmul := Nat.le_mul_of_pos_left (l.termConditions.countP p) r.length_terms_pos
    have hrmul := Nat.le_mul_of_pos_left (r.termConditions.countP p) l.length_terms_pos
    have hlnone : (∀ c ∈ l.leaves, p c = false) ↔ l.leaves.countP p = 0 := by
      simp [List.countP_eq_zero]
    have hrnone : (∀ c ∈ r.leaves, p c = false) ↔ r.leaves.countP p = 0 := by
      simp [List.countP_eq_zero]
    rw [hlnone, hrnone]
    constructor
    · rintro ⟨hleq, hreq, hcopyl, hcopyr⟩
      rw [hleq, hreq, mul_left_eq_self₀.mpr hcopyl, mul_left_eq_self₀.mpr hcopyr]
    · intro h
      have hleq : l.termConditions.countP p = l.leaves.countP p := by omega
      have hreq : r.termConditions.countP p = r.leaves.countP p := by omega
      rw [hleq] at hlmul
      rw [hreq] at hrmul
      rw [hleq, hreq] at h
      refine ⟨hleq, hreq, mul_left_eq_self₀.mp ?_, mul_left_eq_self₀.mp ?_⟩
      · omega
      · omega
  | or l r ihl ihr =>
    rw [IsUncopied, ihl, ihr, termConditions_or, leaves, List.countP_append, List.countP_append]
    have hl := countP_leaves_le p l
    have hr := countP_leaves_le p r
    omega

/-- Leaves that are not copied stand in the terms just as in the tree. -/
lemma IsUncopied.filter_termConditions {t : SearchTree} (h : t.IsUncopied p) :
    t.termConditions.filter p = t.leaves.filter p := by
  have hsublist := (leaves_sublist_termConditions t).filter p
  refine (hsublist.eq_of_length ?_).symm
  rw [← List.countP_eq_length_filter, ← List.countP_eq_length_filter]
  exact (isUncopied_iff_countP_eq.mp h).symm

end TagSearch.SearchTree
