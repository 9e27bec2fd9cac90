import Mathlib.Tactic.Common
import TagSearch.Proofs.Assembly
import TagSearch.Proofs.LeafCopies

/-!
# When no document is assembled

A condition has a *fault* when it is a phrase that the resolver does not know, or a phrase whose
meaning holds a condition without a clause.  Assembling fails exactly when some leaf of the tree has
a fault, wherever it stands, and the error is the fault that comes first in the order of the terms.
Nothing but the resolver and the tree matters for this: faults are found while conditions are turned
into parts, before types are narrowed and lines are written.

Each stage has a lemma that gives its error as the first fault of what it works on
(`Condition.errorOf?_part`, `errorOf?_termPart`, `Document.errorOf?_assemble`).
-/

namespace TagSearch

/-! ### The error of a computation -/

section Except

variable {ε α β : Type}

/-- The error of a computation, if it fails. -/
def errorOf? : Except ε α → Option ε
  | .error e => some e
  | .ok _ => none

/-- A computation with an error is one that fails. -/
lemma errorOf?_eq_some_iff {x : Except ε α} {e : ε} : errorOf? x = some e ↔ x = .error e := by
  cases x <;> simp [errorOf?]

/-- A computation without an error is one that succeeds. -/
lemma errorOf?_eq_none_iff {x : Except ε α} : errorOf? x = none ↔ ∃ a, x = .ok a := by
  cases x <;> simp [errorOf?]

/-- What is done with the result of a computation adds no error, if it cannot fail. -/
lemma errorOf?_bind_ok (x : Except ε α) (f : α → β) :
    errorOf? (x >>= fun a => .ok (f a)) = errorOf? x := by
  cases x <;> rfl

/-- A computation for each item of a list has the error of the first item that fails. -/
lemma errorOf?_mapM (f : α → Except ε β) (as : List α) :
    errorOf? (as.mapM f) = as.findSome? fun a => errorOf? (f a) := by
  induction as with
  | nil => rfl
  | cons a as ih =>
    rw [List.mapM_cons, List.findSome?_cons]
    cases f a with
    | error e => rfl
    | ok b =>
      have hrest : errorOf? (as.mapM f >>= fun bs => .ok (b :: bs)) = errorOf? (as.mapM f) :=
        errorOf?_bind_ok _ _
      exact hrest.trans ih

/-- What is found first in lists one after the other is what is found first in the first list in
which anything is found. -/
lemma findSome?_flatten (f : α → Option β) (ass : List (List α)) :
    ass.flatten.findSome? f = ass.findSome? fun as => as.findSome? f := by
  induction ass with
  | nil => rfl
  | cons as ass ih =>
    rw [List.flatten_cons, List.findSome?_append, List.findSome?_cons, ih]
    cases as.findSome? f <;> rfl

end Except

/-! ### Faults -/

namespace Condition

/-- What is wrong with a condition of a search.  A phrase has to be known, and its meaning may hold
neither phrases nor type filters, the first of which is reported. -/
def fault? (resolver : Resolver) : Condition → Option ClauseError
  | .phrase text =>
    match resolver.resolve text with
    | none => some (.unresolved text)
    | some meaning =>
      (meaning.conditions.find? fun c => !c.isPlain).map fun c => .unsupported c.display
  | _ => none

/-- A condition that is neither a phrase nor a type filter has a clause: none of the three steps
that make it canonical leads to a condition without one. -/
lemma exists_clause_eq_ok {c : Condition} (h : c.isPlain = true) :
    ∃ clause, c.clause = .ok clause := by
  unfold clause canonical
  cases c with
  | ofType t => cases h
  | phrase text => cases h
  | hasKey key =>
    simp only [spellOutText, spellOutEmptyValue, spellOutEmptyKey]
    split <;> exact ⟨_, rfl⟩
  | equals key value =>
    simp only [spellOutText, spellOutEmptyValue]
    split
    · simp only [spellOutEmptyKey]
      split <;> exact ⟨_, rfl⟩
    · simp only [spellOutEmptyKey]
      split <;> exact ⟨_, rfl⟩
  | differs key value =>
    simp only [spellOutText, spellOutEmptyValue]
    split <;> exact ⟨_, rfl⟩
  | like key pattern =>
    simp only [spellOutText, spellOutEmptyValue, spellOutEmptyKey]
    split <;> exact ⟨_, rfl⟩
  | contains key text =>
    simp only [spellOutText, spellOutEmptyValue, spellOutEmptyKey]
    split <;> exact ⟨_, rfl⟩
  | lacksKey key => exact ⟨_, rfl⟩
  | unlike key pattern => exact ⟨_, rfl⟩
  | likeBoth keyRegex pattern => exact ⟨_, rfl⟩
  | metadata kind value => exact ⟨_, rfl⟩

/-- Phrases and type filters have no clause. -/
lemma clause_of_not_isPlain {c : Condition} (h : c.isPlain = false) :
    c.clause = .error (.unsupported c.display) := by
  cases c with
  | ofType t => rfl
  | phrase text => rfl
  | _ => cases h

/-- What goes wrong with the clauses of conditions is the first phrase or type filter. -/
lemma errorOf?_mapM_clause (cs : List Condition) :
    errorOf? (cs.mapM clause) =
      (cs.find? fun c => !c.isPlain).map fun c => .unsupported c.display := by
  rw [errorOf?_mapM]
  induction cs with
  | nil => rfl
  | cons c cs ih =>
    rw [List.findSome?_cons, List.find?_cons]
    cases hplain : c.isPlain with
    | true =>
      obtain ⟨clause, hclause⟩ := exists_clause_eq_ok hplain
      rw [hclause]
      exact ih
    | false =>
      rw [clause_of_not_isPlain hplain]
      rfl

/-- The contribution of a condition fails with the fault of the condition. -/
lemma errorOf?_part (resolver : Resolver) (c : Condition) :
    errorOf? (c.part resolver.lookUp) = c.fault? resolver := by
  by_cases hplain : c.isPlain = true
  · obtain ⟨clause, hclause⟩ := exists_clause_eq_ok hplain
    rw [part_of_isPlain hplain, errorOf?_bind_ok, hclause]
    cases c with
    | phrase text => cases hplain
    | _ => rfl
  · cases c with
    | ofType t => rfl
    | phrase text =>
      rw [part_phrase, fault?]
      cases resolver.resolve text with
      | none => rfl
      | some meaning =>
        have hclauses : errorOf? (phrasePart text (some meaning)) =
            errorOf? (meaning.conditions.mapM clause) := errorOf?_bind_ok _ _
        rw [hclauses, errorOf?_mapM_clause]
    | _ => exact absurd rfl hplain

end Condition

/-! ### Terms and documents -/

/-- The part for a term fails with the first fault of its conditions. -/
lemma errorOf?_termPart (resolver : Resolver) (term : Term) :
    errorOf? (termPart resolver.lookUp term) = term.findSome? (Condition.fault? resolver) := by
  have hparts : errorOf? (termPart resolver.lookUp term) =
      errorOf? (term.mapM (Condition.part resolver.lookUp)) := errorOf?_bind_ok _ _
  rw [hparts, errorOf?_mapM]
  simp only [Condition.errorOf?_part]

namespace Document

/-- Assembling fails with the first fault in the order of the terms. -/
lemma errorOf?_assemble (resolver : Resolver) (config : Config) (search : String)
    (comment : Option String) (parsed : ParsedSearch) :
    errorOf? (assemble resolver config search comment parsed) =
      parsed.query.termConditions.findSome? (Condition.fault? resolver) := by
  have hparts : errorOf? (assemble resolver config search comment parsed) =
      errorOf? (parsed.query.terms.mapM (termPart resolver.lookUp)) := errorOf?_bind_ok _ _
  rw [hparts, errorOf?_mapM, SearchTree.termConditions, findSome?_flatten]
  simp only [errorOf?_termPart]

/-- Assembling fails exactly when some leaf of the tree has a fault.  The error is the fault of the
first condition with a fault in the order of the terms; so whether a document is assembled, and the
error if not, depend on nothing but the resolver and the tree. -/
theorem assemble_eq_error_iff_first_fault (resolver : Resolver) (config : Config) (search : String)
    (comment : Option String) (bounds : Bounds) (t : SearchTree) :
    ((∃ e, assemble resolver config search comment ⟨t, bounds⟩ = .error e) ↔
      ∃ c ∈ t.leaves, (c.fault? resolver).isSome = true) ∧
    (∀ e, assemble resolver config search comment ⟨t, bounds⟩ = .error e ↔
      ∃ earlier c later, t.termConditions = earlier ++ c :: later ∧
        c.fault? resolver = some e ∧ ∀ d ∈ earlier, d.fault? resolver = none) ∧
    ∀ (config' : Config) (search' : String) (comment' : Option String) (bounds' : Bounds),
      errorOf? (assemble resolver config' search' comment' ⟨t, bounds'⟩) =
        errorOf? (assemble resolver config search comment ⟨t, bounds⟩) := by
  refine ⟨?_, ?_, ?_⟩
  · simp only [← errorOf?_eq_some_iff, errorOf?_assemble]
    rw [← Option.isSome_iff_exists, List.findSome?_isSome_iff]
    simp only [SearchTree.mem_termConditions_iff]
  · intro e
    rw [← errorOf?_eq_some_iff, errorOf?_assemble]
    exact List.findSome?_eq_some_iff
  · intro config' search' comment' bounds'
    rw [errorOf?_assemble, errorOf?_assemble]

/-- An unknown phrase is an error also in a term that asks for no type at all. -/
example : assemble (.ofLists [] []) {} "type:node and type:way and Cafee" none
    ⟨.and (.and (.leaf (.ofType .node)) (.leaf (.ofType .way))) (.leaf (.phrase "Cafee")), .bbox⟩ =
      .error (.unresolved "Cafee") := rfl

end Document

end TagSearch
