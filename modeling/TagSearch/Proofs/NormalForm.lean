import Mathlib.Tactic.Common
import TagSearch.SearchTree.Terms

/-!
# The terms of a search are its disjunctive normal form

A tree holds exactly when all conditions of one of its terms hold, whatever the truth values of the
single conditions are.  There is always a term, and no term is empty: an empty list of terms on one
side of `and` would erase the terms of the other side, and an empty term would hold always.

The terms of a tree are described by membership only (`mem_terms_leaf`, `mem_terms_and`,
`mem_terms_or`); the proofs by induction on the tree do not look at the lists themselves.
-/

namespace TagSearch.SearchTree

/-! ### Membership in the terms -/

/-- A single condition has itself as its only term. -/
@[simp] lemma mem_terms_leaf {c : Condition} {term : Term} :
    term ∈ (leaf c).terms ↔ term = [c] := by
  simp [terms]

/-- The terms of `and` are a term of the left side followed by a term of the right side. -/
@[simp] lemma mem_terms_and {l r : SearchTree} {term : Term} :
    term ∈ (and l r).terms ↔ ∃ s ∈ l.terms, ∃ t ∈ r.terms, s ++ t = term := by
  simp [terms, List.mem_flatMap, List.mem_map]

/-- The terms of `or` are those of both sides. -/
@[simp] lemma mem_terms_or {l r : SearchTree} {term : Term} :
    term ∈ (or l r).terms ↔ term ∈ l.terms ∨ term ∈ r.terms := by
  simp [terms]

/-- Every tree has a term. -/
lemma exists_mem_terms (t : SearchTree) : ∃ term, term ∈ t.terms := by
  induction t with
  | leaf c => exact ⟨[c], mem_terms_leaf.mpr rfl⟩
  | and l r ihl ihr =>
    obtain ⟨s, hs⟩ := ihl
    obtain ⟨t, ht⟩ := ihr
    exact ⟨s ++ t, mem_terms_and.mpr ⟨s, hs, t, ht, rfl⟩⟩
  | or l r ihl _ =>
    obtain ⟨s, hs⟩ := ihl
    exact ⟨s, mem_terms_or.mpr (.inl hs)⟩

/-- No term is empty. -/
lemma ne_nil_of_mem_terms {t : SearchTree} {term : Term} (h : term ∈ t.terms) : term ≠ [] := by
  induction t generalizing term with
  | leaf c =>
    rw [mem_terms_leaf] at h
    simp [h]
  | and l r ihl _ =>
    obtain ⟨s, hs, t, _, rfl⟩ := mem_terms_and.mp h
    have hne : s ≠ [] := ihl hs
    simp [hne]
  | or l r ihl ihr =>
    rcases mem_terms_or.mp h with hl | hr
    · exact ihl hl
    · exact ihr hr

/-! ### Truth -/

/-- A tree holds exactly when all conditions of one of its terms hold. -/
lemma eval_iff_exists_mem_terms (holds : Condition → Bool) (t : SearchTree) :
    t.eval holds = true ↔ ∃ term ∈ t.terms, ∀ c ∈ term, holds c = true := by
  induction t with
  | leaf c => simp [eval]
  | and l r ihl ihr =>
    rw [eval, Bool.and_eq_true, ihl, ihr]
    constructor
    · rintro ⟨⟨s, hs, hsh⟩, t, ht, hth⟩
      exact ⟨s ++ t, mem_terms_and.mpr ⟨s, hs, t, ht, rfl⟩, List.forall_mem_append.mpr ⟨hsh, hth⟩⟩
    · rintro ⟨_, hst, h⟩
      obtain ⟨s, hs, t, ht, rfl⟩ := mem_terms_and.mp hst
      obtain ⟨hsh, hth⟩ := List.forall_mem_append.mp h
      exact ⟨⟨s, hs, hsh⟩, t, ht, hth⟩
  | or l r ihl ihr =>
    rw [eval, Bool.or_eq_true, ihl, ihr]
    constructor
    · rintro (⟨s, hs, h⟩ | ⟨s, hs, h⟩)
      · exact ⟨s, mem_terms_or.mpr (.inl hs), h⟩
      · exact ⟨s, mem_terms_or.mpr (.inr hs), h⟩
    · rintro ⟨s, hs, h⟩
      rcases mem_terms_or.mp hs with hl | hr
      · exact .inl ⟨s, hl, h⟩
      · exact .inr ⟨s, hr, h⟩

/-- The terms of a tree are a disjunctive normal form of it: for all truth values of the conditions,
the tree holds exactly when all conditions of one of its terms hold; moreover there is a term, and
no term is empty. -/
theorem terms_disjunctive_normal_form (t : SearchTree) :
    (∀ holds : Condition → Bool,
      t.eval holds = true ↔ ∃ term ∈ t.terms, ∀ c ∈ term, holds c = true) ∧
    t.terms ≠ [] ∧ ∀ term ∈ t.terms, term ≠ [] := by
  refine ⟨fun holds => eval_iff_exists_mem_terms holds t, ?_, fun term h => ne_nil_of_mem_terms h⟩
  obtain ⟨term, h⟩ := exists_mem_terms t
  exact List.ne_nil_of_mem h

end TagSearch.SearchTree
