import Mathlib.Data.List.Forall2
import Mathlib.Tactic.Common
import TagSearch.Document

/-!
# When a document is assembled

What it means that each stage of assembling succeeds: a condition, a term, and the document.  Each
stage has one lemma that says everything about its success (for conditions `Condition.part_ofType`,
`Condition.phrasePart_eq_ok_iff` and `Condition.part_eq_ok_iff_of_isPlain`, then
`termPart_eq_ok_iff` and `Document.assemble_eq_ok_iff`); later results use these and do not open the
computations.
-/

namespace TagSearch

/-! ### Computations that may fail -/

section Except

variable {ε α β : Type}

/-- Passing a result on inside the monad of errors itself changes nothing. -/
@[simp] lemma ofExcept_eq_self (x : Except ε α) : (ofExcept x : Except ε α) = x := by
  cases x <;> rfl

/-- Two computations in a row succeed when both do. -/
lemma bind_eq_ok_iff {x : Except ε α} {f : α → Except ε β} {b : β} :
    (x >>= f) = .ok b ↔ ∃ a, x = .ok a ∧ f a = .ok b := by
  cases x with
  | error e =>
    constructor
    · intro h
      cases h
    · rintro ⟨a, ha, _⟩
      cases ha
  | ok a =>
    constructor
    · intro h
      exact ⟨a, rfl, h⟩
    · rintro ⟨_, ⟨⟩, h⟩
      exact h

/-- A computation for each item of a list succeeds when each single one does. -/
lemma mapM_eq_ok_iff {f : α → Except ε β} {as : List α} {bs : List β} :
    as.mapM f = .ok bs ↔ List.Forall₂ (fun a b => f a = .ok b) as bs := by
  induction as generalizing bs with
  | nil =>
    rw [List.mapM_nil, List.forall₂_nil_left_iff]
    exact ⟨fun h => (Except.ok.inj h).symm, fun h => congrArg Except.ok h.symm⟩
  | cons a as ih =>
    rw [List.mapM_cons, List.forall₂_cons_left_iff, bind_eq_ok_iff]
    constructor
    · rintro ⟨b, hb, h⟩
      obtain ⟨bs', hbs', h⟩ := bind_eq_ok_iff.mp h
      exact ⟨b, bs', hb, ih.mp hbs', (Except.ok.inj h).symm⟩
    · rintro ⟨b, bs', hb, hbs', rfl⟩
      exact ⟨b, hb, bind_eq_ok_iff.mpr ⟨bs', ih.mpr hbs', rfl⟩⟩

end Except

/-! ### Corresponding lists -/

section Forall₂

variable {α β : Type} {R : α → β → Prop} {P : α → Prop} {Q : β → Prop}

/-- Properties that agree on corresponding items hold for all items of both lists or of neither. -/
lemma forall_mem_iff_of_forall₂ {as : List α} {bs : List β} (h : List.Forall₂ R as bs)
    (hPQ : ∀ a b, R a b → (Q b ↔ P a)) : (∀ b ∈ bs, Q b) ↔ ∀ a ∈ as, P a := by
  induction h with
  | nil => simp
  | cons hab _ ih => rw [List.forall_mem_cons, List.forall_mem_cons, hPQ _ _ hab, ih]

/-- Properties that agree on corresponding items hold for some item of both lists or of neither. -/
lemma exists_mem_iff_of_forall₂ {as : List α} {bs : List β} (h : List.Forall₂ R as bs)
    (hPQ : ∀ a b, R a b → (Q b ↔ P a)) : (∃ b ∈ bs, Q b) ↔ ∃ a ∈ as, P a := by
  induction h with
  | nil => simp
  | cons hab _ ih => rw [List.exists_mem_cons_iff, List.exists_mem_cons_iff, hPQ _ _ hab, ih]

/-- Each item of one of two corresponding lists has its counterpart in the other. -/
lemma exists_mem_of_forall₂ {as : List α} {bs : List β} {b : β}
    (h : List.Forall₂ R as bs) (hb : b ∈ bs) : ∃ a ∈ as, R a b := by
  induction h with
  | nil => cases hb
  | @cons a' b' as bs hab _ ih =>
    rcases List.mem_cons.mp hb with rfl | hb
    · exact ⟨a', List.mem_cons_self, hab⟩
    · obtain ⟨a, ha, hR⟩ := ih hb
      exact ⟨a, List.mem_cons_of_mem _ ha, hR⟩

end Forall₂

/-! ### The stages -/

/-- Looking a phrase up in a resolver that is there already, which never fails. -/
abbrev Resolver.lookUp (resolver : Resolver) (phrase : String) :
    Except ClauseError (Option Resolution) :=
  .ok (resolver.resolve phrase)

namespace Condition

/-- Whether a condition stands in a block with a clause of its own: all conditions but type filters
and phrases do. -/
def isPlain : Condition → Bool
  | ofType _ => false
  | phrase _ => false
  | _ => true

/-- A type filter just narrows the types. -/
lemma part_ofType (resolver : Resolver) (t : EntityType) :
    (ofType t).part resolver.lookUp = .ok ⟨[], .only t, []⟩ := rfl

/-- A phrase contributes what its meaning says. -/
lemma part_phrase (resolver : Resolver) (text : String) :
    (phrase text).part resolver.lookUp = phrasePart text (resolver.resolve text) :=
  ofExcept_eq_self _

/-- A plain condition contributes its clause. -/
lemma part_of_isPlain {resolver : Resolver} {c : Condition} (h : c.isPlain = true) :
    c.part resolver.lookUp = c.clause >>= fun clause => .ok ⟨[c.display], .all, [clause]⟩ := by
  have hpart : c.part resolver.lookUp = ofExcept c.plainPart := by
    cases c with
    | phrase text => cases h
    | _ => rfl
  rw [hpart, ofExcept_eq_self]
  cases c with
  | ofType t => cases h
  | _ => rfl

/-- A phrase contributes something when it has a meaning whose conditions all have clauses. -/
lemma phrasePart_eq_ok_iff {text : String} {meaning : Option Resolution} {p : QueryPart} :
    phrasePart text meaning = .ok p ↔ ∃ r clauses, meaning = some r ∧
      List.Forall₂ (fun c clause => Condition.clause c = .ok clause) r.conditions clauses ∧
      p = ⟨[(phrase text).display], r.types, clauses⟩ := by
  cases meaning with
  | none =>
    constructor
    · intro h
      cases h
    · rintro ⟨_, _, h, _⟩
      cases h
  | some r =>
    rw [phrasePart, bind_eq_ok_iff]
    constructor
    · rintro ⟨clauses, h, hp⟩
      exact ⟨r, clauses, rfl, mapM_eq_ok_iff.mp h, (Except.ok.inj hp).symm⟩
    · rintro ⟨_, clauses, ⟨⟩, h, rfl⟩
      exact ⟨clauses, mapM_eq_ok_iff.mpr h, rfl⟩

/-- A plain condition contributes something when it has a clause. -/
lemma part_eq_ok_iff_of_isPlain {resolver : Resolver} {c : Condition} {p : QueryPart}
    (h : c.isPlain = true) :
    c.part resolver.lookUp = .ok p ↔
      ∃ clause, c.clause = .ok clause ∧ p = ⟨[c.display], .all, [clause]⟩ := by
  rw [part_of_isPlain h, bind_eq_ok_iff]
  constructor
  · rintro ⟨clause, hc, hp⟩
    exact ⟨clause, hc, (Except.ok.inj hp).symm⟩
  · rintro ⟨clause, hc, rfl⟩
    exact ⟨clause, hc, rfl⟩

end Condition

/-- A term has a part when all its conditions contribute; the part is what they ask for together. -/
lemma termPart_eq_ok_iff {resolver : Resolver} {term : Term} {p : QueryPart} :
    termPart resolver.lookUp term = .ok p ↔
      ∃ ps, List.Forall₂ (fun c q => Condition.part resolver.lookUp c = .ok q) term ps ∧
        p = QueryPart.all ps := by
  rw [termPart, bind_eq_ok_iff]
  constructor
  · rintro ⟨ps, h, hp⟩
    exact ⟨ps, mapM_eq_ok_iff.mp h, (Except.ok.inj hp).symm⟩
  · rintro ⟨ps, h, rfl⟩
    exact ⟨ps, mapM_eq_ok_iff.mpr h, rfl⟩

/-! ### Where clauses come from -/

namespace QueryPart

variable {clause : Clause} {p q : QueryPart} {ps : List QueryPart}

/-- Narrowing a part by further parts, one after the other, collects their clauses. -/
lemma mem_clauses_foldl_and :
    clause ∈ (ps.foldl and p).clauses ↔ clause ∈ p.clauses ∨ ∃ q ∈ ps, clause ∈ q.clauses := by
  induction ps generalizing p with
  | nil => simp
  | cons q ps ih =>
    rw [List.foldl_cons, ih, and, List.mem_append, List.exists_mem_cons_iff, or_assoc]

/-- The part for all parts together has the clauses of all of them. -/
lemma mem_clauses_all : clause ∈ (all ps).clauses ↔ ∃ p ∈ ps, clause ∈ p.clauses := by
  rw [all, mem_clauses_foldl_and]
  simp [unit]

end QueryPart

/-- The clauses that a condition contributes are those of conditions. -/
lemma Condition.exists_clause_eq_ok_of_part {resolver : Resolver} {c : Condition} {p : QueryPart}
    {clause : Clause} (h : c.part resolver.lookUp = .ok p) (hclause : clause ∈ p.clauses) :
    ∃ c' : Condition, c'.clause = .ok clause := by
  by_cases hplain : c.isPlain = true
  · obtain ⟨own, hown, rfl⟩ := (part_eq_ok_iff_of_isPlain hplain).mp h
    exact ⟨c, (List.mem_singleton.mp hclause) ▸ hown⟩
  · cases c with
    | ofType t =>
      obtain rfl := Except.ok.inj ((part_ofType resolver t).symm.trans h)
      cases hclause
    | phrase text =>
      rw [part_phrase] at h
      obtain ⟨meaning, clauses, _, hclauses, rfl⟩ := phrasePart_eq_ok_iff.mp h
      obtain ⟨c', _, hc'⟩ := exists_mem_of_forall₂ hclauses hclause
      exact ⟨c', hc'⟩
    | _ => exact absurd rfl hplain

/-- The clauses of the part for a term are those of conditions. -/
lemma exists_clause_eq_ok_of_termPart {resolver : Resolver} {term : Term} {p : QueryPart}
    {clause : Clause} (h : termPart resolver.lookUp term = .ok p) (hclause : clause ∈ p.clauses) :
    ∃ c : Condition, c.clause = .ok clause := by
  obtain ⟨ps, hps, rfl⟩ := termPart_eq_ok_iff.mp h
  obtain ⟨q, hq, hclause⟩ := QueryPart.mem_clauses_all.mp hclause
  obtain ⟨c, _, hc⟩ := exists_mem_of_forall₂ hps hq
  exact Condition.exists_clause_eq_ok_of_part hc hclause

/-! ### The document -/

/-- A document is assembled when all terms have a part; it then holds these parts in order. -/
lemma Document.assemble_eq_ok_iff {resolver : Resolver} {config : Config} {search : String}
    {comment : Option String} {parsed : ParsedSearch} {d : Document} :
    assemble resolver config search comment parsed = .ok d ↔
      ∃ parts, List.Forall₂ (fun term p => termPart resolver.lookUp term = .ok p)
          parsed.query.terms parts ∧
        d = ofParts config search comment parsed.bounds parts := by
  rw [assemble, assembleWith, bind_eq_ok_iff]
  constructor
  · rintro ⟨parts, h, hd⟩
    exact ⟨parts, mapM_eq_ok_iff.mp h, (Except.ok.inj hd).symm⟩
  · rintro ⟨parts, h, rfl⟩
    exact ⟨parts, mapM_eq_ok_iff.mpr h, rfl⟩

end TagSearch
