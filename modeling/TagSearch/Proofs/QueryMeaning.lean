import Mathlib.Data.List.Forall2
import Mathlib.Tactic.Common
import TagSearch.Proofs.Assembly
import TagSearch.Proofs.EmittedBlocks
import TagSearch.Proofs.NormalForm

/-!
# What a query finds

The program that runs a query decides for each element of the map which clauses hold for it.  About
these decisions nothing is assumed here: an element is a type, a truth value for every text a clause
may have, and a truth value for the bounds.  The main result is that some emitted block finds an
element exactly when the element lies within the bounds and the searched tree holds for it.

The proof follows the way a document is made.  A query part *fits* an element when it asks for its
type and all its clauses hold.  This is kept by each stage: the contribution of a condition fits
what the condition means, the fold over the conditions of a term fits what all of them mean, and the
blocks of a part find what the part fits.
-/

namespace TagSearch

/-- An element of the map, as far as a query can tell elements apart. -/
structure MapElement where
  type : EntityType
  /-- Whether a clause holds for the element, given the text of the clause. -/
  holds : String → Bool
  /-- Whether the element lies within the bounds of the search. -/
  inBounds : Bool

namespace MapElement

/-! ### What conditions and blocks mean for an element -/

/-- Whether a condition holds for an element by its own clause, written for the type of the
element. -/
def satisfies (e : MapElement) (c : Condition) : Bool :=
  match c.clause with
  | .ok clause => e.holds (clause.render e.type)
  | .error _ => false

/-- Whether an element is meant by a condition of a search.  A type filter means the elements of its
type, a phrase those of the types and with the conditions of its meaning, and any other condition
those that satisfy it. -/
def isMeantBy (resolver : Resolver) (e : MapElement) : Condition → Bool
  | .ofType t => e.type = t
  | .phrase text =>
    match resolver.resolve text with
    | some meaning => meaning.types.contains e.type && meaning.conditions.all e.satisfies
    | none => false
  | c => e.satisfies c

/-- A block finds the elements of its type for which all its clauses and, if it has one, its
restriction to the bounds hold. -/
def IsFoundBy (e : MapElement) (b : Block) : Prop :=
  b.type = e.type ∧ (∀ line ∈ b.clauses, e.holds line = true) ∧
    (b.bound.isSome = true → e.inBounds = true)

/-- A part fits an element when it asks for its type and all its clauses hold. -/
def Fits (e : MapElement) (p : QueryPart) : Prop :=
  p.types.contains e.type = true ∧ ∀ clause ∈ p.clauses, e.holds (clause.render e.type) = true

variable {e : MapElement} {resolver : Resolver}

/-- A condition with a clause holds when the clause does. -/
lemma holds_render_iff_satisfies {c : Condition} {clause : Clause} (h : c.clause = .ok clause) :
    e.holds (clause.render e.type) = true ↔ e.satisfies c = true := by
  rw [satisfies, h]

/-- A plain condition means what its clause says. -/
lemma isMeantBy_of_isPlain {c : Condition} (h : c.isPlain = true) :
    e.isMeantBy resolver c = e.satisfies c := by
  cases c with
  | ofType t => cases h
  | phrase text => cases h
  | _ => rfl

/-! ### Parts of a term -/

/-- The part that asks for everything fits every element. -/
lemma fits_unit : e.Fits QueryPart.unit := by
  simp [Fits, QueryPart.unit]

/-- A part for two parts together fits the elements that both fit. -/
lemma fits_and {p q : QueryPart} : e.Fits (p.and q) ↔ e.Fits p ∧ e.Fits q := by
  simp only [Fits, QueryPart.and, EntityTypes.contains_inter, Bool.and_eq_true,
    List.forall_mem_append]
  constructor
  · rintro ⟨⟨hp, hq⟩, hpc, hqc⟩
    exact ⟨⟨hp, hpc⟩, hq, hqc⟩
  · rintro ⟨⟨hp, hpc⟩, hq, hqc⟩
    exact ⟨⟨hp, hq⟩, hpc, hqc⟩

/-- Narrowing a part by further parts, one after the other, keeps the elements that all of them
fit. -/
lemma fits_foldl_and {p : QueryPart} {ps : List QueryPart} :
    e.Fits (ps.foldl QueryPart.and p) ↔ e.Fits p ∧ ∀ q ∈ ps, e.Fits q := by
  induction ps generalizing p with
  | nil => simp
  | cons q ps ih => rw [List.foldl_cons, ih, fits_and, List.forall_mem_cons, and_assoc]

/-- The part for all parts together fits the elements that all of them fit. -/
lemma fits_all {ps : List QueryPart} : e.Fits (QueryPart.all ps) ↔ ∀ p ∈ ps, e.Fits p := by
  rw [QueryPart.all, fits_foldl_and]
  exact ⟨fun h => h.2, fun h => ⟨fits_unit, h⟩⟩

/-- What a condition contributes fits the elements that the condition means. -/
lemma fits_iff_of_part_eq_ok {c : Condition} {p : QueryPart}
    (h : c.part resolver.lookUp = .ok p) : e.Fits p ↔ e.isMeantBy resolver c = true := by
  by_cases hplain : c.isPlain = true
  · obtain ⟨clause, hclause, rfl⟩ := (Condition.part_eq_ok_iff_of_isPlain hplain).mp h
    rw [isMeantBy_of_isPlain hplain, ← holds_render_iff_satisfies hclause]
    simp [Fits]
  · -- a condition that is not plain is a type filter or a phrase
    cases c with
    | ofType t =>
      obtain rfl := Except.ok.inj ((Condition.part_ofType resolver t).symm.trans h)
      simp only [Fits, isMeantBy, EntityTypes.contains_only, decide_eq_true_eq, List.not_mem_nil,
        false_imp_iff, implies_true, and_true]
      exact eq_comm
    | phrase text =>
      rw [Condition.part_phrase] at h
      obtain ⟨meaning, clauses, hmeaning, hclauses, rfl⟩ := Condition.phrasePart_eq_ok_iff.mp h
      have hall : (∀ clause ∈ clauses, e.holds (clause.render e.type) = true) ↔
          ∀ d ∈ meaning.conditions, e.satisfies d = true :=
        forall_mem_iff_of_forall₂ hclauses fun d clause hd => holds_render_iff_satisfies hd
      simp only [Fits, isMeantBy, hmeaning, Bool.and_eq_true, List.all_eq_true, hall]
    | _ => exact absurd rfl hplain

/-- The part for a term fits the elements that all conditions of the term mean. -/
lemma fits_iff_of_termPart_eq_ok {term : Term} {p : QueryPart}
    (h : termPart resolver.lookUp term = .ok p) :
    e.Fits p ↔ ∀ c ∈ term, e.isMeantBy resolver c = true := by
  obtain ⟨ps, hps, rfl⟩ := termPart_eq_ok_iff.mp h
  rw [fits_all]
  exact forall_mem_iff_of_forall₂ hps fun c q hq => fits_iff_of_part_eq_ok hq

/-! ### Blocks of a document -/

/-- Only in a search everywhere do blocks have no restriction. -/
lemma line?_isSome_iff (b : Bounds) : b.line?.isSome = true ↔ b ≠ .global := by
  cases b <;> simp [Bounds.line?]

/-- Some block of a part finds an element exactly when the part fits it and the element lies within
the bounds, if the blocks are restricted to them. -/
lemma exists_mem_part_blocks_isFoundBy_iff {bound : Option String} {p : QueryPart} :
    (∃ b ∈ p.blocks bound, e.IsFoundBy b) ↔
      (bound.isSome = true → e.inBounds = true) ∧ e.Fits p := by
  constructor
  · rintro ⟨b, hb, htype, hclauses, hbound⟩
    obtain ⟨t, ht, rfl⟩ := List.mem_map.mp hb
    obtain rfl : t = e.type := htype
    exact ⟨hbound, (EntityTypes.mem_toList _ _).mp ht,
      fun clause hclause => hclauses _ (List.mem_map_of_mem hclause)⟩
  · rintro ⟨hbound, htype, hclauses⟩
    refine ⟨⟨e.type, p.clauses.map (Clause.render e.type), bound⟩,
      List.mem_map.mpr ⟨e.type, (EntityTypes.mem_toList _ _).mpr htype, rfl⟩, rfl, ?_, hbound⟩
    intro line hline
    obtain ⟨clause, hclause, rfl⟩ := List.mem_map.mp hline
    exact hclauses clause hclause

/-- Some block of a document finds an element exactly when the element lies within the bounds and
one of the parts fits it. -/
lemma exists_mem_blocks_isFoundBy_iff {d : Document} :
    (∃ b ∈ d.blocks, e.IsFoundBy b) ↔
      (d.bounds = .global ∨ e.inBounds = true) ∧ ∃ p ∈ d.parts, e.Fits p := by
  have hbounds : (d.bounds.line?.isSome = true → e.inBounds = true) ↔
      (d.bounds = .global ∨ e.inBounds = true) := by
    rw [line?_isSome_iff]
    tauto
  constructor
  · rintro ⟨b, hb, hfound⟩
    obtain ⟨p, hp, hbp⟩ := List.mem_flatMap.mp hb
    obtain ⟨hbound, hfits⟩ := exists_mem_part_blocks_isFoundBy_iff.mp ⟨b, hbp, hfound⟩
    exact ⟨hbounds.mp hbound, p, hp, hfits⟩
  · rintro ⟨hbound, p, hp, hfits⟩
    obtain ⟨b, hb, hfound⟩ := exists_mem_part_blocks_isFoundBy_iff.mpr ⟨hbounds.mpr hbound, hfits⟩
    exact ⟨b, List.mem_flatMap.mpr ⟨p, hp, hb⟩, hfound⟩

/-- A document finds what was searched for: some block that it emits inside its union finds an
element exactly when the element lies within the bounds and the searched tree holds for it. -/
theorem exists_emits_isFoundBy_iff {config : Config} {search : String} {comment : Option String}
    {parsed : ParsedSearch} {d : Document}
    (h : Document.assemble resolver config search comment parsed = .ok d) (e : MapElement) :
    (∃ b, d.Emits b ∧ e.IsFoundBy b) ↔
      (parsed.bounds = .global ∨ e.inBounds = true) ∧
        parsed.query.eval (e.isMeantBy resolver) = true := by
  obtain ⟨parts, hparts, rfl⟩ := Document.assemble_eq_ok_iff.mp h
  simp only [Document.emits_iff_mem_blocks]
  rw [exists_mem_blocks_isFoundBy_iff, SearchTree.eval_iff_exists_mem_terms]
  have hfits : (∃ p ∈ parts, e.Fits p) ↔
      ∃ term ∈ parsed.query.terms, ∀ c ∈ term, e.isMeantBy resolver c = true :=
    exists_mem_iff_of_forall₂ hparts fun term p hp => fits_iff_of_termPart_eq_ok hp
  exact and_congr Iff.rfl hfits

/-- In a search for drinking water that has a certain id or is a way, the node with that id is
found, when it lies in the visible part of the map. -/
theorem exists_emits_isFoundBy_drinkingWater :
    ∃ d, Document.assemble
        (.ofLists [("Drinking Water", ⟨[.equals "amenity" "drinking_water"], .only .node⟩)] []) {}
        "Drinking Water and (id:42 or type:way)" none
        ⟨.and (.leaf (.phrase "Drinking Water"))
          (.or (.leaf (.metadata .id "42")) (.leaf (.ofType .way))), .bbox⟩ = .ok d ∧
      ∃ b, d.Emits b ∧
        IsFoundBy ⟨.node, fun line => line ∈ ["<has-kv k=\"amenity\" v=\"drinking_water\"/>",
          "<id-query type=\"node\" ref=\"42\"/>"], true⟩ b := by
  refine Exists.imp (fun d hd => ⟨hd, (exists_emits_isFoundBy_iff hd _).mpr ⟨.inr rfl, ?_⟩⟩)
    ⟨_, rfl⟩
  decide +kernel

end MapElement

end TagSearch
