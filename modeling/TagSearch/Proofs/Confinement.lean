import Mathlib.Data.List.Infix
import Mathlib.Tactic.Common
import TagSearch.Proofs.Assembly
import TagSearch.Proofs.ClauseText
import TagSearch.Proofs.EmittedBlocks

/-!
# Descriptive text and the query

Search text, comment and the name of a place stand in a document inside of comments and placeholders
only, but they stand there as they are.  A text that closes its region *leaks*: what stands behind
the closing mark is read as part of the query.  What is left of the leaks without their own comments
and placeholders are the *residues* of a document, and these are all that descriptive text adds to
the query (`Document.inserted_render`).  So texts are harmless when their residues are empty, and
only then, unless a leak leaves a region open that swallows some of the query
(`Document.residues_eq_nil_iff_erase_render_eq`).  Texts that do not close their regions have no
residues (`Document.erase_render_eq_of_isConfined`).

Two documents are compared from their ends to their starts: what stands below a name agrees up to
the residues below, and each line written above both keeps that.  The name of a place stands in
every block.  There the clauses, captions and other lines all close their comments, so that no
reader comes to a name in a comment.  An area has its name in two lines at the start, where a reader
may be in a region that the output format has opened.  If it is a comment, it ends in the first of
the two lines; if it is a placeholder, it spans the first line and ends in the second one.
-/

namespace TagSearch

open Text Text.Region

/-! ### Lines -/

/-- The text of some lines. -/
def joined (lines : List String) : List Char :=
  ("\n".intercalate lines).toList

/-- Lines, each with a line break behind it, and the text below them. -/
def above (lines : List String) (below : List Char) : List Char :=
  lines.foldr (fun line below => line.toList ++ '\n' :: below) below

variable {upper lower : List String} {below y y₀ : List Char} {ts : List (List Char)}

/-- The text of two groups of lines. -/
lemma above_append : above (upper ++ lower) below = above upper (above lower below) :=
  List.foldr_append

/-- The text of a line and of the lines below it. -/
lemma joined_cons {line : String} (h : lower ≠ []) :
    joined (line :: lower) = line.toList ++ '\n' :: joined lower := by
  rw [joined, String.intercalate_cons_of_ne_nil h, String.toList_append, String.toList_append,
    List.append_assoc]
  rfl

/-- The text of some lines and of the lines below them. -/
lemma joined_append (h : lower ≠ []) : joined (upper ++ lower) = above upper (joined lower) := by
  induction upper with
  | nil => rfl
  | cons line upper ih =>
    rw [List.cons_append, joined_cons (List.append_ne_nil_of_right_ne_nil upper h), ih]
    rfl

/-- The text of some lines, a line break, and the text below. -/
lemma above_eq_joined_append (h : upper ≠ []) (below : List Char) :
    above upper below = joined upper ++ '\n' :: below := by
  induction upper with
  | nil => exact absurd rfl h
  | cons line upper ih =>
    change line.toList ++ '\n' :: above upper below = _
    by_cases hupper : upper = []
    · rw [hupper]
      rfl
    · rw [ih hupper, joined_cons hupper, List.append_assoc, List.cons_append]

/-- Texts that agree also do so below the same lines, when these close their comments. -/
lemma agree_above {lines : List String}
    (hlines : ∀ line ∈ lines, comment.closes line.toList = true) (h : Agree ts y y₀) :
    Agree ts (above lines y) (above lines y₀) := by
  induction lines with
  | nil => exact h
  | cons line lines ih =>
    have hrest := ih fun l hl => hlines l (List.mem_cons_of_mem _ hl)
    exact hrest.append_left (by decide) (hlines line List.mem_cons_self)

/-! ### Names of places -/

namespace Bounds

/-- What the name of a place leaks out of a placeholder. -/
def placeLeak (name : String) : List Char :=
  placeholder.leak placeholder.closing name.toList

/-- What the name of an area leaks out of the comment in which it is announced. -/
def areaLeak (name : String) : List Char :=
  comment.leak ('”' :: " to search in -->".toList) name.toList

/-- The text from the comment that announces an area to the end of the placeholder with its name. -/
def areaGap (name : String) : List Char :=
  " to search in -->".toList ++ '\n' :: ("  <id-query".toList ++ ' ' :: (placeholder.opening ++
    "nominatimArea".toList ++ ':' :: (name.toList ++ placeholder.closing)))

/-- What the name of an area leaks out of a placeholder that was opened above the comment: this
spans the comment and ends with the placeholder of the name. -/
def spanLeak (name : String) : List Char :=
  placeholder.leak ('”' :: areaGap name) name.toList

/-- All that a name leaks into a document with so many blocks, where `before` is the text above. -/
def leaks (before : List Char) (blocks : ℕ) : Bounds → List (List Char)
  | area name =>
    if endsIn? before = some placeholder then [spanLeak name] else [areaLeak name, placeLeak name]
  | around name => List.replicate blocks (placeLeak name)
  | bbox => []
  | global => []

/-- The name does not close the regions that it is put in. -/
def IsConfined : Bounds → Prop
  | area name => ¬ comment.closing <:+: name.toList ∧
      ¬ placeholder.closing <:+: name.toList ++ ['\x7d']
  | around name => ¬ placeholder.closing <:+: name.toList ++ ['\x7d']
  | bbox => True
  | global => True

variable {name name₀ : String} {bounds : Bounds}

/-- A name leaks nothing out of a placeholder exactly when two closing braces stand neither in it
nor across its end. -/
lemma placeLeak_eq_nil_iff (name : String) :
    placeLeak name = [] ↔ ¬ placeholder.closing <:+: name.toList ++ ['\x7d'] := by
  change placeholder.leak (['\x7d'] ++ ['\x7d']) name.toList = [] ↔ _
  exact leak_eq_nil_iff (by decide)

/-- A name leaks nothing out of a comment exactly when no comment is closed in it. -/
lemma areaLeak_eq_nil_iff (name : String) :
    areaLeak name = [] ↔ ¬ comment.closing <:+: name.toList :=
  leak_cons_eq_nil_iff (by decide) (by decide)

/-- A placeholder that spans the comment of an area ends with the placeholder of the name. -/
lemma after?_areaGap (name : String) :
    after? placeholder.closing (areaGap name) = some (placeLeak name) := by
  have hclosing : placeholder.closing ≠ [] := closing_ne_nil _
  unfold areaGap
  rw [after?_append_cons_of_eq_none hclosing (by decide) (by decide),
    after?_append_cons_of_eq_none hclosing (by decide) (by decide),
    after?_append_cons_of_eq_none hclosing (by decide) (by decide)]
  exact after?_append_eq_some_leak (by decide) name.toList

/-- A confined name does not leak out of a placeholder that spans its comment. -/
lemma spanLeak_eq_nil (h : IsConfined (area name)) : spanLeak name = [] := by
  have hgap : after? placeholder.closing (areaGap name) = some [] := by
    rw [after?_areaGap, (placeLeak_eq_nil_iff name).mpr h.2]
  rw [spanLeak, leak_cons_eq_nil_iff (by decide) hgap]
  exact fun hstands => h.2 (hstands.trans (List.prefix_append _ _).isInfix)

/-- A confined name leaks nothing. -/
lemma IsConfined.eq_nil_of_mem_leaks (h : bounds.IsConfined) {before : List Char} {blocks : ℕ} :
    ∀ t ∈ bounds.leaks before blocks, t = [] := by
  intro t ht
  cases bounds with
  | area name =>
    rw [leaks, spanLeak_eq_nil h, (areaLeak_eq_nil_iff name).mpr h.1,
      (placeLeak_eq_nil_iff name).mpr h.2] at ht
    split at ht <;> simpa using ht
  | around name =>
    rw [leaks, (placeLeak_eq_nil_iff name).mpr h] at ht
    exact List.eq_of_mem_replicate ht
  | bbox => cases ht
  | global => cases ht

/-- Bounds of the same mode without a name. -/
def unnamed : Bounds → Bounds
  | area _ => area ""
  | around _ => around ""
  | bbox => bbox
  | global => global

lemma mode_unnamed (bounds : Bounds) : bounds.unnamed.mode = bounds.mode := by
  cases bounds <;> rfl

/-- Without a name bounds are confined. -/
lemma isConfined_unnamed (bounds : Bounds) : bounds.unnamed.IsConfined := by
  cases bounds with
  | area name => exact ⟨by decide, by decide⟩
  | around name =>
    change ¬ placeholder.closing <:+: "".toList ++ ['\x7d']
    decide
  | bbox => trivial
  | global => trivial

/-- The comment that announces an area. -/
def areaComment (name : String) : String :=
  "  <!-- fetch area “" ++ name ++ "” to search in -->"

/-- The line that fetches an area. -/
def areaLine (name : String) : String :=
  "  <id-query \x7b\x7bnominatimArea:" ++ name ++ "\x7d\x7d into=\"area\"/>"

/-- The line of a block that restricts it to the surroundings of a place. -/
def aroundLine (name : String) : String :=
  "<around \x7b\x7bnominatimCoords:" ++ name ++ "\x7d\x7d radius=\"\x7b\x7bradius\x7d\x7d\"/>"

lemma line?_around (name : String) : (around name).line? = some (aroundLine name) := rfl

/-- The comment that announces an area, taken apart around the name. -/
lemma areaComment_toList_append (name : String) (below : List Char) :
    (areaComment name).toList ++ '\n' :: below =
      [' '] ++ ' ' :: (comment.opening ++ (" fetch area ".toList ++
        '“' :: (name.toList ++ '”' :: " to search in -->".toList ++ '\n' :: below))) := by
  unfold areaComment
  simp only [String.toList_append, List.append_assoc]
  rfl

/-- The line that fetches an area, taken apart around the name. -/
lemma areaLine_toList_append (name : String) (below : List Char) :
    (areaLine name).toList ++ below =
      "  <id-query".toList ++ ' ' :: (placeholder.opening ++ ("nominatimArea".toList ++
        ':' :: (name.toList ++ placeholder.closing ++
          ' ' :: ("into=\"area\"/>".toList ++ below)))) := by
  unfold areaLine
  simp only [String.toList_append, List.append_assoc]
  rfl

/-- The line that restricts a block to the surroundings of a place, taken apart around the name. -/
lemma aroundLine_toList_append (name : String) (below : List Char) :
    ("      " ++ aroundLine name).toList ++ below =
      "      <around".toList ++ ' ' :: (placeholder.opening ++ ("nominatimCoords".toList ++
        ':' :: (name.toList ++ placeholder.closing ++
          ' ' :: ("radius=\"\x7b\x7bradius\x7d\x7d\"/>".toList ++ below)))) := by
  unfold aroundLine
  simp only [String.toList_append, List.append_assoc]
  rfl

/-- The lines that fetch two areas leave the same up to what is left of the leak of one name, when
the other leaks nothing. -/
lemma inserted_areaLine (hleak : endsIn? (placeLeak name) = none) (hleak₀ : placeLeak name₀ = [])
    (below : List Char) :
    Inserted [erase (placeLeak name)] (erase ((areaLine name).toList ++ below))
      (erase ((areaLine name₀).toList ++ below)) := by
  rw [areaLine_toList_append, areaLine_toList_append]
  refine inserted_erase_append (by decide) ?_ fun r => .inl (by cases r <;> decide)
  exact (agree_placeholder (by decide) (by decide) (by decide) (by decide) hleak hleak₀
    (.refl _)).outside

/-- A reader who comes from outside to the comment that announces an area goes on with the leak of
the name, and so does one who is in a comment already. -/
lemma erase_areaComment_eq (name : String) (below : List Char) :
    erase ((areaComment name).toList ++ '\n' :: below) =
        ' ' :: ' ' :: erase (areaLeak name ++ '\n' :: below) ∧
      after? comment.closing ((areaComment name).toList ++ '\n' :: below) =
        some (areaLeak name ++ '\n' :: below) := by
  have hfront : after? comment.closing (comment.opening ++ " fetch area ".toList) = none := by
    decide
  have hquote : '“' ∉ comment.closing := by decide
  have hending : (after? comment.closing ('”' :: " to search in -->".toList)).isSome = true := by
    decide
  obtain ⟨houtside, hinside⟩ :=
    erase_region_eq hfront hquote hending name.toList ('\n' :: below)
  have hblank : IsNeutral ' ' := by decide
  rw [areaComment_toList_append]
  constructor
  · rw [List.cons_append, List.nil_append, erase_cons_of_isNeutral hblank,
      erase_cons_of_isNeutral hblank, houtside]
    rfl
  · rw [after?_append_cons_of_eq_none (closing_ne_nil _) (by decide) (by decide), hinside]
    rfl

/-- A reader who comes in a placeholder to the lines of an area goes on with the leak that spans the
comment. -/
lemma after?_areaComment (name : String) (below : List Char) :
    after? placeholder.closing ((areaComment name).toList ++
        '\n' :: ((areaLine name).toList ++ below)) =
      some (spanLeak name ++ ' ' :: ("into=\"area\"/>".toList ++ below)) := by
  have hending : (after? placeholder.closing ('”' :: areaGap name)).isSome = true := by
    rw [← List.nil_append ('”' :: _),
      after?_append_cons_of_eq_none (closing_ne_nil _) (by decide) rfl, after?_areaGap]
    rfl
  have hlines : (areaComment name).toList ++ '\n' :: ((areaLine name).toList ++ below) =
      "  <!-- fetch area ".toList ++ '“' :: (name.toList ++ '”' :: areaGap name ++
        ' ' :: ("into=\"area\"/>".toList ++ below)) := by
    unfold areaGap
    rw [areaComment_toList_append, areaLine_toList_append]
    simp only [List.append_assoc, List.cons_append]
    rfl
  rw [hlines]
  exact after?_append_cons_eq_some_leak (by decide) (by decide) hending _ _

/-- The lines that prepare the search in two areas leave the same up to what is left of the leaks of
one name, when the other is confined. -/
lemma inserted_area {x : List Char} {blocks : ℕ}
    (h : ∀ t ∈ (area name).leaks x blocks, endsIn? t = none) (h₀ : IsConfined (area name₀))
    (radius : UInt32) (below : List Char) :
    Inserted (((area name).leaks x blocks).map erase)
      (erase (x ++ '\n' :: above ((area name).setupLines radius) below))
      (erase (x ++ '\n' :: above ((area name₀).setupLines radius) below)) := by
  have hsetup : ∀ n, above ((area n).setupLines radius) below =
      (areaComment n).toList ++ '\n' :: ((areaLine n).toList ++ '\n' :: below) := fun n => rfl
  rw [hsetup, hsetup]
  by_cases hspan : endsIn? x = some placeholder
  · rw [leaks, if_pos hspan] at h ⊢
    refine inserted_erase_append_of_endsIn? (by decide) (fun hx => ?_) fun r hx => ?_
    · rw [hspan] at hx
      cases hx
    · obtain rfl : placeholder = r := Option.some.inj (hspan.symm.trans hx)
      refine ⟨_, _, after?_areaComment name _, after?_areaComment name₀ _, ?_⟩
      rw [spanLeak_eq_nil h₀, List.nil_append]
      exact inserted_erase_append_cons (by decide) (h _ List.mem_cons_self) (.refl _)
  · -- a reader outside goes on behind the comment, and so does one in a comment
    rw [leaks, if_neg hspan] at h ⊢
    have hplace : endsIn? (placeLeak name) = none :=
      h _ (List.mem_cons_of_mem _ List.mem_cons_self)
    have hline := inserted_areaLine hplace ((placeLeak_eq_nil_iff name₀).mpr h₀.2)
      ('\n' :: below)
    have hbehind := inserted_erase_append_cons (c := '\n') (by decide) (h _ List.mem_cons_self)
      hline
    obtain ⟨houtside, hinside⟩ :=
      erase_areaComment_eq name ((areaLine name).toList ++ '\n' :: below)
    obtain ⟨houtside₀, hinside₀⟩ :=
      erase_areaComment_eq name₀ ((areaLine name₀).toList ++ '\n' :: below)
    rw [(areaLeak_eq_nil_iff name₀).mpr h₀.1, List.nil_append] at houtside₀ hinside₀
    refine inserted_erase_append_of_endsIn? (by decide) (fun _ => ?_) fun r hx => ?_
    · rw [houtside, houtside₀]
      exact .cons ' ' (.cons ' ' hbehind)
    · cases r with
      | comment => exact ⟨_, _, hinside, hinside₀, hbehind⟩
      | placeholder => exact absurd hx hspan

/-- The lines that restrict blocks to the surroundings of two places agree up to what is left of the
leak of one name, when the other leaks nothing. -/
lemma agree_aroundLine (h : endsIn? (placeLeak name) = none) (h₀ : IsConfined (around name₀))
    (hy : Agree ts y y₀) :
    Agree (erase (placeLeak name) :: ts) (("      " ++ aroundLine name).toList ++ '\n' :: y)
      (("      " ++ aroundLine name₀).toList ++ '\n' :: y₀) := by
  have hbelow : Agree ts ("radius=\"\x7b\x7bradius\x7d\x7d\"/>".toList ++ '\n' :: y)
      ("radius=\"\x7b\x7bradius\x7d\x7d\"/>".toList ++ '\n' :: y₀) :=
    hy.append_left (by decide) (by decide)
  rw [aroundLine_toList_append, aroundLine_toList_append]
  refine Agree.append_left ?_ (by decide) (by decide)
  exact agree_placeholder (by decide) (by decide) (by decide) (by decide) h
    ((placeLeak_eq_nil_iff name₀).mpr h₀) hbelow.outside

end Bounds

/-! ### Blocks and parts around a place -/

section Around

variable {name name₀ : String}

/-- The lines of a block with a restriction. -/
lemma lines_eq_append (t : EntityType) (clauses : List String) (bound : String) :
    Block.lines ⟨t, clauses, some bound⟩ =
      Block.header ⟨t, clauses, some bound⟩ :: clauses.map (fun line => "      " ++ line) ++
        ["      " ++ bound, Block.footer] := by
  rw [Block.lines_eq, Block.innerLines, List.map_append]
  simp only [Option.toList_some, List.map_cons, List.map_nil, List.append_assoc, List.cons_append,
    List.nil_append]

/-- The line that opens a block and its clauses close their comments if the clauses do. -/
lemma closes_header_clauses {clauses : List String} (t : EntityType) (bound : Option String)
    (h : ∀ clause ∈ clauses, comment.closes clause.toList = true) :
    ∀ line ∈ Block.header ⟨t, clauses, bound⟩ :: clauses.map (fun line => "      " ++ line),
      comment.closes line.toList = true := by
  intro line hline
  rcases List.mem_cons.mp hline with rfl | hline
  · change comment.closes ("    <query type=\"" ++ t.name ++ "\">").toList = true
    cases t <;> decide
  · obtain ⟨clause, hclause, rfl⟩ := List.mem_map.mp hline
    rw [String.toList_append]
    exact closes_append_cons (x := "     ".toList) (c := ' ') (by decide) (.inl (by decide))
      (h clause hclause)

/-- The blocks around two places agree up to what is left of the leak of one name. -/
lemma agree_block {clauses : List String} (t : EntityType)
    (hclauses : ∀ clause ∈ clauses, comment.closes clause.toList = true)
    (h : endsIn? (Bounds.placeLeak name) = none) (h₀ : Bounds.IsConfined (.around name₀))
    (hy : Agree ts y y₀) :
    Agree (erase (Bounds.placeLeak name) :: ts)
      (above (Block.lines ⟨t, clauses, (Bounds.around name).line?⟩) y)
      (above (Block.lines ⟨t, clauses, (Bounds.around name₀).line?⟩) y₀) := by
  have hfooter : Agree ts (above [Block.footer] y) (above [Block.footer] y₀) :=
    agree_above (by decide) hy
  rw [Bounds.line?_around, Bounds.line?_around, lines_eq_append, lines_eq_append, above_append,
    above_append]
  exact agree_above (closes_header_clauses t _ hclauses) (Bounds.agree_aroundLine h h₀ hfooter)

/-- The caption of a part closes its comments. -/
lemma closes_caption (p : QueryPart) : comment.closes p.caption.toList = true := by
  have htext : p.caption.toList = "    <!-- query part for: “".toList ++
      ((" and ".intercalate p.labels).toList ++ ['”']) ++ ' ' :: "-->".toList := by
    unfold QueryPart.caption
    simp only [String.toList_append, List.append_assoc]
    rfl
  rw [htext]
  exact closes_append_cons (by decide) (.inr (by decide)) (by decide)

/-- The lines of a part with clauses of conditions agree around two places, up to what is left of
the leak of one name in each block. -/
lemma agree_part {p : QueryPart}
    (hp : ∀ clause ∈ p.clauses, ∃ c : Condition, c.clause = .ok clause)
    (h : ∀ b ∈ p.blocks (Bounds.around name).line?, endsIn? (Bounds.placeLeak name) = none)
    (h₀ : Bounds.IsConfined (.around name₀)) (hy : Agree ts y y₀) :
    Agree (List.replicate (p.blocks (Bounds.around name).line?).length
        (erase (Bounds.placeLeak name)) ++ ts)
      (above (p.lines (Bounds.around name).line?) y)
      (above (p.lines (Bounds.around name₀).line?) y₀) := by
  have hblocks : Agree (List.replicate (p.blocks (Bounds.around name).line?).length
        (erase (Bounds.placeLeak name)) ++ ts)
      (above ((p.blocks (Bounds.around name).line?).flatMap Block.lines) y)
      (above ((p.blocks (Bounds.around name₀).line?).flatMap Block.lines) y₀) := by
    rw [QueryPart.blocks] at h ⊢
    rw [QueryPart.blocks]
    generalize p.types.toList = types at h ⊢
    induction types with
    | nil => exact hy
    | cons t types ih =>
      rw [List.map_cons, List.forall_mem_cons] at h
      rw [List.map_cons, List.map_cons, List.flatMap_cons, List.flatMap_cons, above_append,
        above_append]
      refine agree_block t ?_ h.1 h₀ (ih h.2)
      intro text htext
      obtain ⟨clause, hclause, rfl⟩ := List.mem_map.mp htext
      obtain ⟨c, hc⟩ := hp clause hclause
      exact Element.closes_render (Condition.isKnown_element hc t)
  exact hblocks.append_left (by decide) (closes_caption p)

/-- The lines of all parts agree around two places, up to what is left of the leak of one name in
each block. -/
lemma agree_parts {parts : List QueryPart}
    (hparts : ∀ p ∈ parts, ∀ clause ∈ p.clauses, ∃ c : Condition, c.clause = .ok clause)
    (h : ∀ b ∈ parts.flatMap fun p => p.blocks (Bounds.around name).line?,
      endsIn? (Bounds.placeLeak name) = none)
    (h₀ : Bounds.IsConfined (.around name₀)) (hy : Agree ts y y₀) :
    Agree (List.replicate (parts.flatMap fun p => p.blocks (Bounds.around name).line?).length
        (erase (Bounds.placeLeak name)) ++ ts)
      (above (parts.flatMap fun p => p.lines (Bounds.around name).line?) y)
      (above (parts.flatMap fun p => p.lines (Bounds.around name₀).line?) y₀) := by
  induction parts with
  | nil => exact hy
  | cons p parts ih =>
    rw [List.flatMap_cons, List.forall_mem_append] at h
    have hrest := ih (fun q hq => hparts q (List.mem_cons_of_mem _ hq)) h.2
    rw [List.flatMap_cons, List.flatMap_cons, List.flatMap_cons, above_append, above_append,
      List.length_append, ← List.replicate_append_replicate, List.append_assoc]
    exact agree_part (hparts p List.mem_cons_self) h.1 h₀ hrest

end Around

/-! ### Documents -/

namespace Document

/-- What the comment at the head of a document leaks. -/
def leak (d : Document) : List Char :=
  comment.leak ('\n' :: "-->".toList) (joined d.remark)

/-- The line that opens the script. -/
def scriptLine (d : Document) : String :=
  "<osm-script output=\"" ++ d.outputFormat ++ "\" timeout=\"" ++ toString d.timeout.toNat ++ "\">"

/-- The text of a document below the comment at its head. -/
def body (d : Document) : List Char :=
  above (d.scriptLine :: (d.bounds.setupLines d.radius ++
    (["  <!-- gather results -->", "  <union>"] ++ d.unionLines))) (joined closingLines)

/-- The text of a document is the comment at its head and the text below it. -/
lemma toList_render {d : Document} (h : d.remark ≠ []) :
    d.render.toList = comment.opening ++ ([] ++ '\n' :: (joined d.remark ++
      '\n' :: "-->".toList ++ '\n' :: d.body)) := by
  have hlines : d.lines = "<!--" :: (d.remark ++ ("-->" :: (d.scriptLine ::
      (d.bounds.setupLines d.radius ++ (["  <!-- gather results -->", "  <union>"] ++
        d.unionLines))))) ++ closingLines := by
    unfold lines openingLines scriptLine
    simp only [List.append_assoc, List.cons_append, List.nil_append]
  change joined d.lines = _
  rw [hlines, joined_append (by decide)]
  change _ ++ '\n' :: above (d.remark ++ _) _ = _
  rw [above_append, above_eq_joined_append h, List.append_assoc]
  rfl

/-- What is left of a document is left of what its head leaks and of the text below. -/
lemma erase_render {d : Document} (h : d.remark ≠ []) :
    erase d.render.toList = erase (d.leak ++ '\n' :: d.body) := by
  rw [toList_render h]
  exact (erase_region_eq (by decide) (by decide) (by decide) (joined d.remark) _).1

/-- The head of a document leaks nothing exactly when no comment is closed in it. -/
lemma leak_eq_nil_iff (d : Document) : d.leak = [] ↔ ¬ comment.closing <:+: joined d.remark :=
  leak_cons_eq_nil_iff (by decide) (by decide)

/-- The text of a document below the comment at its head starts with the line of the script. -/
lemma body_eq_scriptLine_append (d : Document) :
    d.body = d.scriptLine.toList ++ '\n' :: above (d.bounds.setupLines d.radius)
      (above (["  <!-- gather results -->", "  <union>"] ++ d.unionLines)
        (joined closingLines)) := by
  rw [← above_append]
  rfl

/-- The text before the union of a document, down to its last comment. -/
def bodyHead (d : Document) : List Char :=
  joined (d.scriptLine :: d.bounds.setupLines d.radius ++ ["  <!-- gather results -->"])

/-- The text before the union of a document closes its comments, whatever stands in it. -/
lemma closes_bodyHead (d : Document) : comment.closes d.bodyHead = true := by
  rw [bodyHead, joined_append (by decide), above_eq_joined_append (by simp)]
  exact closes_append_cons (by decide) (.inr (by decide)) (by decide)

/-- The text of a document below the comment at its head starts with the text before the union. -/
lemma body_eq_bodyHead_append (d : Document) :
    d.body = d.bodyHead ++ '\n' :: above ("  <union>" :: d.unionLines) (joined closingLines) := by
  have hlines : d.scriptLine :: (d.bounds.setupLines d.radius ++
      (["  <!-- gather results -->", "  <union>"] ++ d.unionLines)) =
      (d.scriptLine :: d.bounds.setupLines d.radius ++ ["  <!-- gather results -->"]) ++
        "  <union>" :: d.unionLines := by
    simp only [List.append_assoc, List.cons_append, List.nil_append]
  rw [body, hlines, above_append, above_eq_joined_append (by simp), bodyHead]

/-- All that the descriptive texts of a document leak into it. -/
def leaks (d : Document) : List (List Char) :=
  d.leak :: d.bounds.leaks d.scriptLine.toList d.blocks.length

/-- What is left of the leaks of a document. -/
def residues (d : Document) : List (List Char) :=
  d.leaks.map erase

/-- Each leak of a document closes all regions that it opens. -/
def LeaksClose (d : Document) : Prop :=
  ∀ t ∈ d.leaks, endsIn? t = none

instance (d : Document) : Decidable d.LeaksClose :=
  inferInstanceAs (Decidable (∀ t ∈ d.leaks, endsIn? t = none))

/-- The descriptive texts of a document do not close the regions that they are put in. -/
structure IsConfined (d : Document) : Prop where
  head : ¬ comment.closing <:+: joined d.remark
  bounds : d.bounds.IsConfined

/-- Confined texts leak nothing. -/
lemma IsConfined.eq_nil_of_mem_leaks {d : Document} (h : d.IsConfined) : ∀ t ∈ d.leaks, t = [] :=
  List.forall_mem_cons.mpr ⟨d.leak_eq_nil_iff.mpr h.head, h.bounds.eq_nil_of_mem_leaks⟩

/-- Nothing is left of what confined texts leak. -/
lemma IsConfined.residues_eq_nil {d : Document} (h : d.IsConfined) : ∀ t ∈ d.residues, t = [] := by
  intro t ht
  obtain ⟨leak, hleak, rfl⟩ := List.mem_map.mp ht
  rw [h.eq_nil_of_mem_leaks leak hleak, erase_nil]

/-- Leaks of which nothing is left close all regions that they open. -/
lemma leaksClose_of_residues_eq_nil {d : Document} (h : ∀ t ∈ d.residues, t = []) :
    d.LeaksClose :=
  fun _ ht => endsIn?_of_erase_eq_nil (h _ (List.mem_map_of_mem ht))

/-- Below its head, a document leaves what it leaves with a confined name, and besides what is left
of the leaks of its own name. -/
lemma inserted_body {d : Document} {remark : List String} {bounds : Bounds}
    (hclauses : ∀ p ∈ d.parts, ∀ clause ∈ p.clauses, ∃ c : Condition, c.clause = .ok clause)
    (h : ∀ t ∈ d.bounds.leaks d.scriptLine.toList d.blocks.length, endsIn? t = none)
    (hmode : d.bounds.mode = bounds.mode) (hbounds : bounds.IsConfined) :
    Inserted ((d.bounds.leaks d.scriptLine.toList d.blocks.length).map erase) (erase d.body)
      (erase { d with remark := remark, bounds := bounds }.body) := by
  obtain ⟨remark', outputFormat, timeout, radius, bounds', parts⟩ := d
  cases bounds' with
  | area name =>
    cases bounds with
    | area name₀ =>
      rw [body_eq_scriptLine_append, body_eq_scriptLine_append]
      exact Bounds.inserted_area h hbounds radius _
    | _ => simp [Bounds.mode] at hmode
  | around name =>
    cases bounds with
    | around name₀ =>
      have hblocks : ∀ b ∈ parts.flatMap fun p => p.blocks (Bounds.around name).line?,
          endsIn? (Bounds.placeLeak name) = none := by
        intro b hb
        exact h _ (List.mem_replicate.mpr ⟨(List.length_pos_of_mem hb).ne', rfl⟩)
      rw [body_eq_bodyHead_append, body_eq_bodyHead_append, Bounds.leaks, List.map_replicate]
      have hunion := agree_parts hclauses hblocks hbounds (Agree.refl (joined closingLines))
      have hbelow := hunion.append_left (x := "  <union>".toList) (c := '\n') (by decide)
        (by decide)
      rw [List.append_nil] at hbelow
      exact (hbelow.append_left (by decide) (closes_bodyHead _)).outside
    | _ => simp [Bounds.mode] at hmode
  | bbox =>
    cases bounds with
    | bbox => exact .refl _
    | _ => simp [Bounds.mode] at hmode
  | global =>
    cases bounds with
    | global => exact .refl _
    | _ => simp [Bounds.mode] at hmode

/-- The comment at the head of a document is never empty. -/
lemma remarkLines_ne_nil (attribution search : String) (comment : Option String) :
    remarkLines attribution search comment ≠ [] := by
  unfold remarkLines
  split <;> simp

variable {resolver : Resolver} {config : Config} {query : SearchTree} {search search₀ : String}
  {comment comment₀ : Option String} {bounds bounds₀ : Bounds} {d d₀ : Document}

/-- A document leaves what a document with confined texts leaves, and besides what is left of the
leaks of its own texts. -/
lemma inserted_render (h : assemble resolver config search comment ⟨query, bounds⟩ = .ok d)
    (h₀ : assemble resolver config search₀ comment₀ ⟨query, bounds₀⟩ = .ok d₀)
    (hmode : bounds.mode = bounds₀.mode) (hd : d.LeaksClose) (hd₀ : d₀.IsConfined) :
    Inserted d.residues (erase d.render.toList) (erase d₀.render.toList) := by
  obtain ⟨parts, hparts, rfl⟩ := assemble_eq_ok_iff.mp h
  obtain ⟨parts₀, hparts₀, rfl⟩ := assemble_eq_ok_iff.mp h₀
  have hsame : parts = parts₀ :=
    Except.ok.inj ((mapM_eq_ok_iff.mpr hparts).symm.trans (mapM_eq_ok_iff.mpr hparts₀))
  subst hsame
  have hclauses : ∀ p ∈ parts, ∀ clause ∈ p.clauses, ∃ c : Condition, c.clause = .ok clause := by
    intro p hp clause hclause
    obtain ⟨term, _, hterm⟩ := exists_mem_of_forall₂ hparts hp
    exact exists_clause_eq_ok_of_termPart hterm hclause
  obtain ⟨hhead, hbelow⟩ := List.forall_mem_cons.mp hd
  rw [erase_render (remarkLines_ne_nil _ _ _), erase_render (remarkLines_ne_nil _ _ _),
    (leak_eq_nil_iff _).mpr hd₀.head, List.nil_append]
  exact inserted_erase_append_cons (by decide) hhead
    (inserted_body hclauses hbelow hmode hd₀.bounds)

/-- All residues of a document are empty exactly when no leak leaves a region open and it leaves the
same as a document with confined texts. -/
lemma residues_eq_nil_iff_of_isConfined
    (h : assemble resolver config search comment ⟨query, bounds⟩ = .ok d)
    (h₀ : assemble resolver config search₀ comment₀ ⟨query, bounds₀⟩ = .ok d₀)
    (hmode : bounds.mode = bounds₀.mode) (hd₀ : d₀.IsConfined) :
    (∀ t ∈ d.residues, t = []) ↔
      d.LeaksClose ∧ erase d.render.toList = erase d₀.render.toList := by
  constructor
  · intro hresidues
    have hclose : d.LeaksClose := leaksClose_of_residues_eq_nil hresidues
    exact ⟨hclose, (inserted_render h h₀ hmode hclose hd₀).eq_iff.mpr hresidues⟩
  · rintro ⟨hclose, heq⟩
    exact (inserted_render h h₀ hmode hclose hd₀).eq_iff.mp heq

/-- For each search there is a document with confined texts. -/
lemma exists_assemble_isConfined
    (h : assemble resolver config search comment ⟨query, bounds⟩ = .ok d) :
    ∃ d₁, assemble resolver config search (some "-") ⟨query, bounds.unnamed⟩ = .ok d₁ ∧
      d₁.IsConfined := by
  obtain ⟨parts, hparts, _⟩ := assemble_eq_ok_iff.mp h
  refine ⟨_, assemble_eq_ok_iff.mpr ⟨parts, hparts, rfl⟩, ?_, bounds.isConfined_unnamed⟩
  change ¬ Region.comment.closing <:+: joined ["-"]
  decide

/-- Descriptive text reaches the query exactly through what is left of its leaks.  Compare two
documents for the same search tree and mode of bounds, without comments and placeholders, where
nothing is left of the leaks of the second one: then nothing is left of those of the first one
exactly when the two are equal and no leak of the first one leaves a region open. -/
theorem residues_eq_nil_iff_erase_render_eq
    (h : assemble resolver config search comment ⟨query, bounds⟩ = .ok d)
    (h₀ : assemble resolver config search₀ comment₀ ⟨query, bounds₀⟩ = .ok d₀)
    (hmode : bounds.mode = bounds₀.mode) (hd₀ : ∀ t ∈ d₀.residues, t = []) :
    (∀ t ∈ d.residues, t = []) ↔
      d.LeaksClose ∧ erase d.render.toList = erase d₀.render.toList := by
  obtain ⟨d₁, h₁, hd₁⟩ := exists_assemble_isConfined h₀
  have hmode₁ : bounds₀.mode = bounds₀.unnamed.mode := bounds₀.mode_unnamed.symm
  have heq : erase d₀.render.toList = erase d₁.render.toList :=
    ((residues_eq_nil_iff_of_isConfined h₀ h₁ hmode₁ hd₁).mp hd₀).2
  rw [heq]
  exact residues_eq_nil_iff_of_isConfined h h₁ (hmode.trans hmode₁) hd₁

/-- A comment and the name of an area that close their regions and open them again leave nothing. -/
theorem erase_render_eq_of_reopened_regions :
    ∃ d d₀, assemble (.ofLists [] []) {} "shop" (some "--><!--")
        ⟨.leaf (.hasKey "shop"), .area "\x7d\x7d\x7b\x7b"⟩ = .ok d ∧
      assemble (.ofLists [] []) {} "shop" (some "Shops.")
        ⟨.leaf (.hasKey "shop"), .area "Bonn"⟩ = .ok d₀ ∧
      erase d.render.toList = erase d₀.render.toList := by
  have h : assemble (.ofLists [] []) {} "shop" (some "--><!--")
      ⟨.leaf (.hasKey "shop"), .area "\x7d\x7d\x7b\x7b"⟩ = .ok _ := rfl
  have h₀ : assemble (.ofLists [] []) {} "shop" (some "Shops.")
      ⟨.leaf (.hasKey "shop"), .area "Bonn"⟩ = .ok _ := rfl
  refine ⟨_, _, h, h₀, ((residues_eq_nil_iff_erase_render_eq h h₀ rfl ?_).mp ?_).2⟩
  · decide +kernel
  · decide +kernel

/-- Descriptive text does reach the query: a comment that closes the one at the head writes an
element into the document. -/
theorem not_forall_erase_render_eq :
    ¬ ∀ (resolver : Resolver) (config : Config) (query : SearchTree) (search search₀ : String)
      (comment comment₀ : Option String) (bounds bounds₀ : Bounds) (d d₀ : Document),
      bounds.mode = bounds₀.mode →
      assemble resolver config search comment ⟨query, bounds⟩ = .ok d →
      assemble resolver config search₀ comment₀ ⟨query, bounds₀⟩ = .ok d₀ →
        erase d.render.toList = erase d₀.render.toList := by
  intro hall
  have h : assemble (.ofLists [] []) {} "shop" (some "--><print mode=\"meta\"/><!--")
      ⟨.leaf (.hasKey "shop"), .global⟩ = .ok _ := rfl
  have h₀ : assemble (.ofLists [] []) {} "shop" (some "Shops.")
      ⟨.leaf (.hasKey "shop"), .global⟩ = .ok _ := rfl
  have heq := hall _ _ _ _ _ _ _ _ _ _ _ rfl h h₀
  have hnil := (inserted_render h h₀ rfl (by decide +kernel) ⟨by decide +kernel, trivial⟩).eq_iff.mp
    heq
  exact absurd hnil (by decide +kernel)

/-- Confined texts do not reach the query: two documents for the same search tree and mode of bounds
are equal without comments and placeholders. -/
theorem erase_render_eq_of_isConfined
    (h : assemble resolver config search comment ⟨query, bounds⟩ = .ok d)
    (h₀ : assemble resolver config search₀ comment₀ ⟨query, bounds₀⟩ = .ok d₀)
    (hmode : bounds.mode = bounds₀.mode) (hd : d.IsConfined) (hd₀ : d₀.IsConfined) :
    erase d.render.toList = erase d₀.render.toList :=
  ((residues_eq_nil_iff_of_isConfined h h₀ hmode hd₀).mp hd.residues_eq_nil).2

end Document

end TagSearch
