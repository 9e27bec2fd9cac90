import Mathlib.Data.List.Forall2
import Mathlib.Tactic.Common
import TagSearch.Proofs.Assembly
import TagSearch.Proofs.EmittedBlocks

/-!
# A union is composed of the unions of its sides

What stands inside the union for `or` are the lines of the left side followed by those of the right
side.  For `and`, each part of the left side is joined with each part of the right side: their
labels and clauses one after the other, and the entity types that both ask for.

The conditions of a joined term are folded from left to right into one part, while its two halves
are folded on their own.  That both ways agree comes from the laws of `QueryPart.and`, which is
associative and has a unit, so that the fold over two lists in a row is the two folds joined
(`QueryPart.all_append`).

A type filter is the simplest side.  Joined with a tree, it removes the blocks of all other types;
this is said about the list of lines, by a reader that knows nothing of the parts.
-/

namespace TagSearch

/-! ### Joining parts -/

namespace QueryPart

/-- Parts are joined in any grouping. -/
lemma and_assoc (p q r : QueryPart) : (p.and q).and r = p.and (q.and r) := by
  have htypes : (p.types.inter q.types).inter r.types = p.types.inter (q.types.inter r.types) := by
    ext e
    simp only [EntityTypes.contains_inter, Bool.and_assoc]
  simp only [and, List.append_assoc, htypes]

/-- The part that asks for everything adds nothing on the left. -/
lemma unit_and (p : QueryPart) : unit.and p = p := by
  have htypes : EntityTypes.all.inter p.types = p.types := by
    ext e
    simp
  simp only [and, unit, htypes, List.nil_append]

/-- The part that asks for everything adds nothing on the right. -/
lemma and_unit (p : QueryPart) : p.and unit = p := by
  have htypes : p.types.inter .all = p.types := by
    ext e
    simp
  simp only [and, unit, htypes, List.append_nil]

/-- Narrowing a part by further parts is joining it with what these ask for together. -/
lemma foldl_and (p : QueryPart) (ps : List QueryPart) : ps.foldl and p = p.and (all ps) := by
  induction ps generalizing p with
  | nil => exact (and_unit p).symm
  | cons q ps ih =>
    have hall : all (q :: ps) = q.and (all ps) := by
      rw [all, List.foldl_cons, ih, unit_and]
    rw [List.foldl_cons, ih, hall, and_assoc]

/-- The part for two lists of parts in a row joins the parts for each of them. -/
lemma all_append (ps qs : List QueryPart) : all (ps ++ qs) = (all ps).and (all qs) := by
  have hall : all (ps ++ qs) = qs.foldl and (all ps) := List.foldl_append
  rw [hall, foldl_and]

/-- The lines for two parts joined: a comment with the labels of both, and a block for each entity
type that both ask for, with the clauses of the first, those of the second and the restriction to
the bounds. -/
def joinedLines (bounds : Bounds) (p q : QueryPart) : List String :=
  ("    <!-- query part for: “" ++ " and ".intercalate (p.labels ++ q.labels) ++ "” -->") ::
    (EntityType.all.filter fun t => p.types.contains t && q.types.contains t).flatMap fun t =>
      Block.lines ⟨t, p.clauses.map (Clause.render t) ++ q.clauses.map (Clause.render t),
        bounds.line?⟩

/-- The lines of a part that was joined. -/
lemma lines_and (bounds : Bounds) (p q : QueryPart) :
    (p.and q).lines bounds.line? = joinedLines bounds p q := by
  have htypes : (p.types.inter q.types).toList =
      EntityType.all.filter fun t => p.types.contains t && q.types.contains t := by
    simp only [EntityTypes.toList, funext (EntityTypes.contains_inter p.types q.types)]
  simp only [lines, blocks, and, htypes, List.flatMap_map, List.map_append]
  rfl

end QueryPart

/-! ### The parts of joined trees -/

section

variable {resolver : Resolver} {l r : SearchTree} {ps qs : List QueryPart}

/-- Parts that stand for terms, in order. -/
def ArePartsOf (resolver : Resolver) : List Term → List QueryPart → Prop :=
  List.Forall₂ fun term p => termPart resolver.lookUp term = .ok p

/-- The part for two terms in a row joins the parts for each of them. -/
lemma termPart_append {s t : Term} {p q : QueryPart} (hp : termPart resolver.lookUp s = .ok p)
    (hq : termPart resolver.lookUp t = .ok q) :
    termPart resolver.lookUp (s ++ t) = .ok (p.and q) := by
  obtain ⟨ps, hps, rfl⟩ := termPart_eq_ok_iff.mp hp
  obtain ⟨qs, hqs, rfl⟩ := termPart_eq_ok_iff.mp hq
  refine termPart_eq_ok_iff.mpr ⟨ps ++ qs, List.rel_append hps hqs, ?_⟩
  exact (QueryPart.all_append ps qs).symm

/-- The parts of `or` are those of the left side followed by those of the right side. -/
lemma ArePartsOf.or (hl : ArePartsOf resolver l.terms ps) (hr : ArePartsOf resolver r.terms qs) :
    ArePartsOf resolver (SearchTree.or l r).terms (ps ++ qs) :=
  List.rel_append hl hr

/-- The parts of `and` are those of the left side, each joined with those of the right side. -/
lemma ArePartsOf.and (hl : ArePartsOf resolver l.terms ps) (hr : ArePartsOf resolver r.terms qs) :
    ArePartsOf resolver (SearchTree.and l r).terms
      (ps.flatMap fun p => qs.map fun q => p.and q) := by
  refine List.rel_flatMap hl ?_
  intro s p hp
  rw [List.forall₂_map_left_iff, List.forall₂_map_right_iff]
  exact hr.imp fun t q hq => termPart_append hp hq

/-- A type filter has one part, which only narrows the types. -/
lemma arePartsOf_ofType (resolver : Resolver) (t : EntityType) :
    ArePartsOf resolver (SearchTree.leaf (.ofType t)).terms [⟨[], .only t, []⟩] := by
  refine .cons (termPart_eq_ok_iff.mpr ⟨[⟨[], .only t, []⟩], ?_, ?_⟩) .nil
  · exact .cons (Condition.part_ofType resolver t) .nil
  · exact (QueryPart.unit_and _).symm

end

/-! ### Lines without the blocks of other types -/

/-- Whether a line opens a block for another type than the given one. -/
def opensOtherType (t : EntityType) (line : String) : Bool :=
  EntityType.all.any fun s => s ≠ t && line = "    <query type=\"" ++ s.name ++ "\">"

/-- Lines without the blocks for other types than the given one, where `dropping` tells that such a
block has been opened and not yet closed. -/
def withoutOtherTypes (t : EntityType) : (dropping : Bool) → List String → List String
  | _, [] => []
  | true, line :: rest => withoutOtherTypes t (line ≠ "    </query>") rest
  | false, line :: rest =>
    if opensOtherType t line then withoutOtherTypes t true rest
    else line :: withoutOtherTypes t false rest

section

variable {t : EntityType}

/-- The line that opens a block tells whether the block is for another type. -/
lemma opensOtherType_header (b : Block) : opensOtherType t b.header = decide (b.type ≠ t) := by
  rw [Bool.eq_iff_iff]
  simp only [opensOtherType, List.any_eq_true, Bool.and_eq_true, decide_eq_true_eq]
  constructor
  · rintro ⟨s, _, hs, hheader⟩
    have htype : b.type = s := @type_eq_of_header_eq b ⟨s, [], none⟩ hheader
    exact htype ▸ hs
  · intro h
    exact ⟨b.type, EntityType.mem_all _, h, rfl⟩

/-- A line that opens a block for another type has the mark of such lines. -/
lemma opensOtherType_eq_false {line : String} (h : lineMark line ≠ ['<', 'q']) :
    opensOtherType t line = false := by
  by_contra hopens
  simp only [Bool.not_eq_false, opensOtherType, List.any_eq_true, Bool.and_eq_true,
    decide_eq_true_eq] at hopens
  obtain ⟨s, _, _, rfl⟩ := hopens
  exact h (lineMark_header ⟨s, [], none⟩)

/-- Lines none of which opens a block for another type are kept. -/
lemma withoutOtherTypes_append_of_forall {lines : List String}
    (h : ∀ line ∈ lines, opensOtherType t line = false) (rest : List String) :
    withoutOtherTypes t false (lines ++ rest) = lines ++ withoutOtherTypes t false rest := by
  induction lines with
  | nil => rfl
  | cons line lines ih =>
    have hline : opensOtherType t line = false := h line List.mem_cons_self
    have hlines : ∀ line ∈ lines, opensOtherType t line = false :=
      fun line' hline' => h line' (List.mem_cons_of_mem _ hline')
    rw [List.cons_append, withoutOtherTypes, hline, if_neg Bool.false_ne_true, ih hlines,
      List.cons_append]

/-- A block that has been opened is dropped up to the first line that closes it. -/
lemma withoutOtherTypes_true_append {lines : List String} (h : Block.footer ∉ lines)
    (rest : List String) :
    withoutOtherTypes t true (lines ++ Block.footer :: rest) = withoutOtherTypes t false rest := by
  induction lines with
  | nil => simp [withoutOtherTypes, Block.footer]
  | cons line lines ih =>
    obtain ⟨hline, hlines⟩ := not_or.mp (mt List.mem_cons.mpr h)
    have hdropping : decide (line ≠ "    </query>") = true := decide_eq_true (Ne.symm hline)
    rw [List.cons_append, withoutOtherTypes, hdropping, ih hlines]

/-- A block is kept as a whole when it is for the given type, and dropped as a whole when not. -/
lemma withoutOtherTypes_block (b : Block) (rest : List String) :
    withoutOtherTypes t false (b.lines ++ rest) =
      (if b.type = t then b.lines else []) ++ withoutOtherTypes t false rest := by
  by_cases htype : b.type = t
  · rw [if_pos htype]
    refine withoutOtherTypes_append_of_forall ?_ rest
    intro line hline
    rw [Block.lines_eq, List.mem_cons, List.mem_append, List.mem_singleton] at hline
    rcases hline with rfl | hline | rfl
    · rw [opensOtherType_header, htype]
      simp
    · apply opensOtherType_eq_false
      rw [lineMark_of_mem_innerLines hline]
      decide
    · apply opensOtherType_eq_false
      rw [lineMark_footer]
      decide
  · have hopens : opensOtherType t b.header = true := by
      rw [opensOtherType_header]
      exact decide_eq_true htype
    rw [if_neg htype, Block.lines_eq, List.cons_append, withoutOtherTypes, if_pos hopens,
      List.append_assoc, List.singleton_append,
      withoutOtherTypes_true_append (footer_notMem_innerLines b), List.nil_append]

/-- Of several blocks, those for the given type are kept. -/
lemma withoutOtherTypes_blocks (bs : List Block) (rest : List String) :
    withoutOtherTypes t false (bs.flatMap Block.lines ++ rest) =
      (bs.filter fun b => b.type = t).flatMap Block.lines ++ withoutOtherTypes t false rest := by
  induction bs with
  | nil => rfl
  | cons b bs ih =>
    rw [List.flatMap_cons, List.append_assoc, withoutOtherTypes_block, ih, List.filter_cons]
    by_cases htype : b.type = t
    · simp [htype]
    · simp [htype]

end

namespace QueryPart

variable {t : EntityType}

/-- A part narrowed to a type, with the same labels and clauses. -/
def narrowed (t : EntityType) (p : QueryPart) : QueryPart :=
  ⟨p.labels, p.types.inter (.only t), p.clauses⟩

/-- Joining a type filter on the right narrows a part. -/
lemma and_ofType (p : QueryPart) : p.and ⟨[], .only t, []⟩ = p.narrowed t := by
  simp only [and, narrowed, List.append_nil]

/-- Joining a type filter on the left narrows a part. -/
lemma ofType_and (p : QueryPart) : QueryPart.and ⟨[], .only t, []⟩ p = p.narrowed t := by
  have htypes : (EntityTypes.only t).inter p.types = p.types.inter (.only t) := by
    ext e
    simp only [EntityTypes.contains_inter, Bool.and_comm]
  simp only [and, narrowed, List.nil_append, htypes]

/-- The blocks of a narrowed part are its blocks for the type. -/
lemma blocks_narrowed (bound : Option String) (p : QueryPart) :
    (p.narrowed t).blocks bound = (p.blocks bound).filter fun b => b.type = t := by
  have htypes : (p.types.inter (.only t)).toList = p.types.toList.filter fun s => s = t := by
    simp only [EntityTypes.toList, List.filter_filter]
    refine List.filter_congr fun s _ => ?_
    rw [EntityTypes.contains_inter, EntityTypes.contains_only, Bool.and_comm]
    simp only [eq_comm]
  simp only [blocks, narrowed, htypes, List.filter_map, Function.comp_def]

/-- The lines of narrowed parts are those of the parts without the blocks of other types; the
comments stay, also those of parts that are narrowed to nothing. -/
lemma lines_narrowed (bound : Option String) (ps : List QueryPart) :
    (ps.flatMap fun p => (p.narrowed t).lines bound) =
      withoutOtherTypes t false (ps.flatMap fun p => p.lines bound) := by
  induction ps with
  | nil => rfl
  | cons p ps ih =>
    have hcaption : opensOtherType t p.caption = false := by
      apply opensOtherType_eq_false
      rw [lineMark_caption]
      decide
    rw [List.flatMap_cons, List.flatMap_cons, ih, lines, lines, List.cons_append,
      List.cons_append, withoutOtherTypes, hcaption, if_neg Bool.false_ne_true,
      withoutOtherTypes_blocks, blocks_narrowed]
    rfl

end QueryPart

/-! ### Documents -/

namespace Document

/-- Inside the union, a document is composed of what stands there for the sides of its tree.  For
`or`, the lines of both sides follow each other.  For `and`, each part of the left side is joined
with each part of the right side, the left side varying slowest.  A type filter on either side of
`and` removes the blocks of all other types and changes nothing else. -/
theorem unionLines_composed {resolver : Resolver} {config : Config} {search : String}
    {comment : Option String} {bounds : Bounds} {l r : SearchTree} {dl dr : Document}
    (hl : assemble resolver config search comment ⟨l, bounds⟩ = .ok dl)
    (hr : assemble resolver config search comment ⟨r, bounds⟩ = .ok dr) :
    (∃ d, assemble resolver config search comment ⟨.or l r, bounds⟩ = .ok d ∧
      d.unionLines = dl.unionLines ++ dr.unionLines) ∧
    (ArePartsOf resolver l.terms dl.parts ∧ ArePartsOf resolver r.terms dr.parts ∧
      ∃ d, assemble resolver config search comment ⟨.and l r, bounds⟩ = .ok d ∧
        d.unionLines =
          dl.parts.flatMap fun p => dr.parts.flatMap fun q => p.joinedLines bounds q) ∧
    ∀ t : EntityType,
      (∃ d, assemble resolver config search comment ⟨.and l (.leaf (.ofType t)), bounds⟩ = .ok d ∧
        d.unionLines = withoutOtherTypes t false dl.unionLines) ∧
      ∃ d, assemble resolver config search comment ⟨.and (.leaf (.ofType t)) l, bounds⟩ = .ok d ∧
        d.unionLines = withoutOtherTypes t false dl.unionLines := by
  obtain ⟨ps, hps, rfl⟩ := assemble_eq_ok_iff.mp hl
  obtain ⟨qs, hqs, rfl⟩ := assemble_eq_ok_iff.mp hr
  refine ⟨?_, ⟨hps, hqs, ?_⟩, fun t => ⟨?_, ?_⟩⟩
  · refine ⟨_, assemble_eq_ok_iff.mpr ⟨ps ++ qs, ArePartsOf.or hps hqs, rfl⟩, ?_⟩
    exact List.flatMap_append
  · refine ⟨_, assemble_eq_ok_iff.mpr ⟨_, ArePartsOf.and hps hqs, rfl⟩, ?_⟩
    simp only [unionLines, ofParts, List.flatMap_assoc, List.flatMap_map, QueryPart.lines_and]
  · refine ⟨_, assemble_eq_ok_iff.mpr ⟨_, ArePartsOf.and hps (arePartsOf_ofType resolver t), rfl⟩,
      Eq.trans ?_ (QueryPart.lines_narrowed bounds.line? ps)⟩
    simp only [unionLines, ofParts, List.map_cons, List.map_nil, List.flatMap_assoc,
      List.flatMap_singleton, QueryPart.and_ofType]
  · refine ⟨_, assemble_eq_ok_iff.mpr ⟨_, ArePartsOf.and (arePartsOf_ofType resolver t) hps, rfl⟩,
      Eq.trans ?_ (QueryPart.lines_narrowed bounds.line? ps)⟩
    simp only [unionLines, ofParts, List.flatMap_singleton, List.flatMap_map,
      QueryPart.ofType_and]

/-- Drinking water or the element with a certain id, asked for as ways: the part for drinking water,
which is for nodes only, is narrowed to nothing and keeps its comment. -/
theorem unionLines_composed_drinkingWater :
    let resolver : Resolver :=
      .ofLists [("Drinking Water", ⟨[.equals "amenity" "drinking_water"], .only .node⟩)] []
    let water : SearchTree := .or (.leaf (.phrase "Drinking Water")) (.leaf (.metadata .id "42"))
    let ways : SearchTree := .leaf (.ofType .way)
    ∃ dw dt d, assemble resolver {} "" none ⟨water, .bbox⟩ = .ok dw ∧
      assemble resolver {} "" none ⟨ways, .bbox⟩ = .ok dt ∧
      assemble resolver {} "" none ⟨.and water ways, .bbox⟩ = .ok d ∧
      d.unionLines = withoutOtherTypes .way false dw.unionLines ∧
      d.unionLines =
        ["    <!-- query part for: “\"Drinking Water\"” -->",
          "    <!-- query part for: “id:42” -->",
          "    <query type=\"way\">",
          "      <id-query type=\"way\" ref=\"42\"/>",
          "      <bbox-query \x7b\x7bbbox\x7d\x7d/>",
          "    </query>"] := by
  intro resolver water ways
  obtain ⟨dw, hw⟩ : ∃ d, assemble resolver {} "" none ⟨water, .bbox⟩ = .ok d := ⟨_, rfl⟩
  obtain ⟨dt, ht⟩ : ∃ d, assemble resolver {} "" none ⟨ways, .bbox⟩ = .ok d := ⟨_, rfl⟩
  obtain ⟨d, hd, hlines⟩ := ((unionLines_composed hw ht).2.2 .way).1
  refine ⟨dw, dt, d, hw, ht, hd, hlines, ?_⟩
  obtain rfl := Except.ok.inj hd
  decide +kernel

end Document

end TagSearch
