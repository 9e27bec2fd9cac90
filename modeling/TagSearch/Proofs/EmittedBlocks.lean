import Mathlib.Data.List.Basic
import Mathlib.Tactic.Common
import TagSearch.Document

/-!
# Reading the blocks off the lines of a document

A document is put together from a list of lines, and a query block gives some lines in a row.  A
block *is emitted* when its lines stand in a row in the list inside the union;
`emits_iff_mem_blocks` says that these are just the blocks the document was made of.

The lines meant here are the entries of `Document.unionLines`, before they are joined with line
breaks.  A caption holds its labels as they are, and the restriction to the surroundings of a place
holds the name of the place as it is; where such a text has a line break, one entry becomes several
lines of the rendered document.  About these nothing is said here, nor about what a reader of the
rendered text takes for a block.

What keeps the reading of the list unambiguous are the fifth and sixth characters of an entry, its
*mark*.  They tell the four kinds of entries apart, because each kind begins with a fixed text of
six characters or more that no clause or caption can change.
-/

namespace TagSearch

/-- The fifth and sixth characters of a line. -/
def lineMark (line : String) : List Char :=
  (line.toList.drop 4).take 2

namespace Block

/-- The line that opens a block. -/
def header (b : Block) : String :=
  "    <query type=\"" ++ b.type.name ++ "\">"

/-- The lines inside a block: the clauses, and then the restriction to the bounds. -/
def innerLines (b : Block) : List String :=
  (b.clauses ++ b.bound.toList).map fun line => "      " ++ line

/-- The line that closes a block. -/
def footer : String := "    </query>"

/-- The lines of a block are its header, the lines inside it, and its footer. -/
lemma lines_eq (b : Block) : b.lines = b.header :: (b.innerLines ++ [footer]) := rfl

end Block

/-! ### The marks of lines -/

/-- The mark of a line that opens a block. -/
lemma lineMark_header (b : Block) : lineMark b.header = ['<', 'q'] := by
  unfold Block.header
  simp [lineMark]

/-- The mark of a line that closes a block. -/
lemma lineMark_footer : lineMark Block.footer = ['<', '/'] := by
  simp [lineMark, Block.footer]

/-- The mark of a line inside a block. -/
lemma lineMark_of_mem_innerLines {b : Block} {line : String} (h : line ∈ b.innerLines) :
    lineMark line = [' ', ' '] := by
  obtain ⟨text, _, rfl⟩ := List.mem_map.mp h
  simp [lineMark]

/-- The mark of a line that names a part. -/
lemma lineMark_caption (p : QueryPart) : lineMark p.caption = ['<', '!'] := by
  unfold QueryPart.caption
  rw [String.append_assoc]
  simp [lineMark]

/-- A block is not opened by one of the lines that follow the opening line of a block. -/
lemma header_notMem_innerLines_footer (b b' : Block) :
    b.header ∉ b'.innerLines ++ [Block.footer] := by
  intro h
  rcases List.mem_append.mp h with h | h
  · have hmark := lineMark_of_mem_innerLines h
    rw [lineMark_header] at hmark
    simp at hmark
  · have hmark := lineMark_header b
    rw [List.mem_singleton.mp h, lineMark_footer] at hmark
    simp at hmark

/-- A block is not closed by one of the lines inside it. -/
lemma footer_notMem_innerLines (b : Block) : Block.footer ∉ b.innerLines := by
  intro h
  have hmark := lineMark_of_mem_innerLines h
  rw [lineMark_footer] at hmark
  simp at hmark

/-- A block is not opened by a line that names a part. -/
lemma header_ne_caption (b : Block) (p : QueryPart) : b.header ≠ p.caption := by
  intro h
  have hmark := lineMark_header b
  rw [h, lineMark_caption] at hmark
  simp at hmark

/-! ### Reading one block -/

/-- The opening line tells the type of a block. -/
lemma type_eq_of_header_eq {b b' : Block} (h : b.header = b'.header) : b.type = b'.type := by
  unfold Block.header at h
  cases hb : b.type <;> cases hb' : b'.type <;>
    simp [hb, hb', EntityType.name] at h ⊢

/-- Lines up to the first footer are determined by the whole. -/
lemma innerLines_eq_of_append_eq {b b' : Block} {rest rest' : List String}
    (h : b.innerLines ++ Block.footer :: rest = b'.innerLines ++ Block.footer :: rest') :
    b.innerLines = b'.innerLines := by
  rcases List.append_eq_append_iff.mp h with ⟨mid, hb', hrest⟩ | ⟨mid, hb, hrest⟩
  · cases mid with
    | nil => simpa using hb'.symm
    | cons line mid =>
      obtain ⟨rfl, _⟩ := List.cons.inj hrest
      exact absurd (hb' ▸ by simp) (footer_notMem_innerLines b')
  · cases mid with
    | nil => simpa using hb
    | cons line mid =>
      obtain ⟨rfl, _⟩ := List.cons.inj hrest
      exact absurd (hb ▸ by simp) (footer_notMem_innerLines b)

/-- Two blocks with the same restriction are equal when one is read where the other is written. -/
lemma eq_of_lines_append_eq {b b' : Block} {rest rest' : List String} (hbound : b.bound = b'.bound)
    (h : b.lines ++ rest = b'.lines ++ rest') : b = b' := by
  rw [Block.lines_eq, Block.lines_eq] at h
  simp only [List.cons_append, List.append_assoc, List.nil_append, List.cons.injEq] at h
  obtain ⟨hheader, hinner⟩ := h
  have htype : b.type = b'.type := type_eq_of_header_eq hheader
  have hlines : b.innerLines = b'.innerLines := innerLines_eq_of_append_eq hinner
  have hinj : Function.Injective fun line : String => "      " ++ line :=
    fun x y hxy => by simpa using hxy
  have hall : b.clauses ++ b.bound.toList = b'.clauses ++ b'.bound.toList :=
    hinj.list_map hlines
  have hclauses : b.clauses = b'.clauses := by
    rw [hbound] at hall
    exact List.append_cancel_right hall
  cases b
  cases b'
  simp_all

/-- A block that is read in the lines of another one and what follows them is the other one, or it
is read in what follows. -/
lemma eq_or_lines_infix_of_append {b b' : Block} {rest : List String} (hbound : b.bound = b'.bound)
    (h : b.lines <:+: b'.lines ++ rest) : b = b' ∨ b.lines <:+: rest := by
  obtain ⟨before, after, h⟩ := h
  rw [List.append_assoc] at h
  rcases List.append_eq_append_iff.mp h with ⟨mid, hb', hrest⟩ | ⟨mid, _, hrest⟩
  · -- the reading starts inside the other block: it can only start with its first line
    cases before with
    | nil => exact .inl (eq_of_lines_append_eq hbound h)
    | cons first before =>
      cases mid with
      | nil =>
        rw [List.nil_append] at hrest
        exact .inr ⟨[], after, hrest⟩
      | cons line mid =>
        rw [Block.lines_eq] at hrest hb'
        have hline : b.header = line := (List.cons.inj hrest).1
        have hmem : line ∈ b'.innerLines ++ [Block.footer] := by
          rw [(List.cons.inj hb').2]
          simp
        exact absurd (hline ▸ hmem) (header_notMem_innerLines_footer b b')
  · exact .inr ⟨mid, after, by rw [List.append_assoc]; exact hrest.symm⟩

/-- A block is not read in a line that names a part. -/
lemma lines_infix_of_caption_cons {b : Block} {p : QueryPart} {rest : List String}
    (h : b.lines <:+: p.caption :: rest) : b.lines <:+: rest := by
  rcases List.infix_cons_iff.mp h with ⟨after, h⟩ | h
  · exact absurd (List.cons.inj h).1 (header_ne_caption b p)
  · exact h

/-! ### Reading all blocks -/

/-- A block that is read in the lines of some blocks and what follows them is one of these, or it is
read in what follows. -/
lemma mem_or_lines_infix_of_flatMap {b : Block} {bs : List Block} {rest : List String}
    (hbound : ∀ b' ∈ bs, b.bound = b'.bound) (h : b.lines <:+: bs.flatMap Block.lines ++ rest) :
    b ∈ bs ∨ b.lines <:+: rest := by
  induction bs with
  | nil => exact .inr h
  | cons b' bs ih =>
    rw [List.flatMap_cons, List.append_assoc] at h
    rcases eq_or_lines_infix_of_append (hbound b' List.mem_cons_self) h with rfl | h
    · exact .inl List.mem_cons_self
    · have hbs : ∀ b'' ∈ bs, b.bound = b''.bound :=
        fun b'' hb'' => hbound b'' (List.mem_cons_of_mem _ hb'')
      rcases ih hbs h with hmem | h
      · exact .inl (List.mem_cons_of_mem _ hmem)
      · exact .inr h

/-- The blocks of a part all have the restriction that the part is written with. -/
lemma bound_of_mem_blocks {bound : Option String} {p : QueryPart} {b : Block}
    (h : b ∈ p.blocks bound) : b.bound = bound := by
  obtain ⟨t, _, rfl⟩ := List.mem_map.mp h
  rfl

/-- A block that is read in the lines of parts is a block of one of the parts. -/
lemma exists_mem_blocks_of_lines_infix {b : Block} {parts : List QueryPart}
    (h : b.lines <:+: parts.flatMap fun p => p.lines b.bound) :
    ∃ p ∈ parts, b ∈ p.blocks b.bound := by
  induction parts with
  | nil =>
    rw [List.flatMap_nil, List.infix_nil, Block.lines_eq] at h
    cases h
  | cons p parts ih =>
    rw [List.flatMap_cons, QueryPart.lines, List.cons_append] at h
    have hbound : ∀ b' ∈ p.blocks b.bound, b.bound = b'.bound :=
      fun b' hb' => (bound_of_mem_blocks hb').symm
    rcases mem_or_lines_infix_of_flatMap hbound (lines_infix_of_caption_cons h) with hmem | h
    · exact ⟨p, List.mem_cons_self, hmem⟩
    · obtain ⟨p', hp', hmem⟩ := ih h
      exact ⟨p', List.mem_cons_of_mem _ hp', hmem⟩

namespace Document

/-- A document emits a block when the lines of the block stand in a row in the list of lines inside
the union, the last of the lines inside the block being the restriction to the bounds, if there is
one. -/
def Emits (d : Document) (b : Block) : Prop :=
  b.bound = d.bounds.line? ∧ b.lines <:+: d.unionLines

/-- The blocks that a document emits are the blocks of its parts. -/
lemma emits_iff_mem_blocks {d : Document} {b : Block} : d.Emits b ↔ b ∈ d.blocks := by
  constructor
  · rintro ⟨hbound, hlines⟩
    rw [unionLines, ← hbound] at hlines
    obtain ⟨p, hp, hb⟩ := exists_mem_blocks_of_lines_infix hlines
    rw [hbound] at hb
    exact List.mem_flatMap.mpr ⟨p, hp, hb⟩
  · intro h
    obtain ⟨p, hp, hb⟩ := List.mem_flatMap.mp h
    have hblock : b.lines <:+: p.lines d.bounds.line? := by
      have hmem : b.lines <:+: (p.blocks d.bounds.line?).flatMap Block.lines :=
        List.infix_of_mem_flatten (List.mem_map_of_mem hb)
      exact hmem.trans (List.infix_cons List.infix_rfl)
    have hpart : p.lines d.bounds.line? <:+: d.unionLines :=
      List.infix_of_mem_flatten (List.mem_map_of_mem hp)
    exact ⟨bound_of_mem_blocks hb, hblock.trans hpart⟩

end Document

end TagSearch
