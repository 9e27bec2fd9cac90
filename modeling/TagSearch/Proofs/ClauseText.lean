import Mathlib.Tactic.Common
import TagSearch.Condition.Clause
import TagSearch.Proofs.AttributeValue
import TagSearch.Proofs.Regions

/-!
# The text of a clause

The names in a clause are known, and all that is free in it stands in attribute values, which are
escaped.  So the only opening bracket in the text of a clause is its first character, and no comment
begins with it; and the text is a single line.
-/

namespace TagSearch

open Text Text.Region

/-- A text without an opening bracket opens no comment. -/
lemma Text.Region.closes_comment_of_notMem {text : List Char} (h : '<' ∉ text) :
    comment.closes text = true := by
  induction text with
  | nil => rfl
  | cons c text ih =>
    obtain ⟨hc, htext⟩ := not_or.mp (mt List.mem_cons.mpr h)
    rw [Region.closes, ih htext, Region.opening, afterStart?, if_neg hc]
    rfl

namespace Element

/-- The names of elements and attributes that clauses use. -/
def knownNames : List String :=
  ["has-kv", "id-query", "newer", "user", "k", "v", "modv", "regk", "regv", "case", "than", "type",
    "ref", "name", "uid"]

/-- An element whose names are known. -/
structure IsKnown (e : Element) : Prop where
  name : e.name ∈ knownNames
  attributes : ∀ a ∈ e.attributes, a.1 ∈ knownNames

/-- The characters that stand nowhere in a clause but at its start. -/
def excluded : List Char := ['<', '\t', '\n', '\r']

/-- A known name is not empty, and it holds neither an exclamation mark nor an excluded
character. -/
lemma forall_mem_knownNames : ∀ name ∈ knownNames,
    name.toList ≠ [] ∧ '!' ∉ name.toList ∧ ∀ c ∈ excluded, c ∉ name.toList := by
  simp [knownNames, excluded]

/-- An attribute with a known name is written without excluded characters. -/
lemma notMem_renderAttribute {a : String × String} (h : a.1 ∈ knownNames) {c : Char}
    (hc : c ∈ excluded) : c ∉ (renderAttribute a).toList := by
  have hname : c ∉ a.1.toList := (forall_mem_knownNames a.1 h).2.2 c hc
  have hfixed : ∀ d ∈ excluded, d ∉ " ".toList ∧ d ∉ "=\"".toList ∧ d ∉ "\"".toList ∧
      d ∈ Attribute.reserved := by simp [excluded, Attribute.reserved]
  obtain ⟨hblank, hopening, hclosing, hreserved⟩ := hfixed c hc
  unfold renderAttribute
  simp only [String.toList_append, List.mem_append, not_or]
  exact ⟨⟨⟨⟨hblank, hname⟩, hopening⟩, Attribute.notMem_escape hreserved a.2⟩, hclosing⟩

/-- What stands behind the first bracket of an element. -/
def inside (e : Element) : List Char :=
  e.name.toList ++ ((e.attributes.flatMap fun a => (renderAttribute a).toList) ++ ['/', '>'])

/-- An element is written as a bracket and what stands behind it. -/
lemma toList_render (e : Element) : e.render.toList = '<' :: e.inside := by
  unfold render inside
  simp only [String.toList_append, List.append_assoc, String.toList_join, List.flatMap_map]
  rfl

/-- Behind its first bracket, a known element holds no excluded characters. -/
lemma notMem_inside {e : Element} (h : e.IsKnown) {c : Char} (hc : c ∈ excluded) :
    c ∉ e.inside := by
  have hname : c ∉ e.name.toList := (forall_mem_knownNames e.name h.name).2.2 c hc
  have hclosing : ∀ d ∈ excluded, d ∉ ['/', '>'] := by simp [excluded]
  simp only [inside, List.mem_append, List.mem_flatMap, not_or]
  refine ⟨hname, ?_, hclosing c hc⟩
  rintro ⟨a, ha, hmem⟩
  exact notMem_renderAttribute (h.attributes a ha) hc hmem

/-- A known element is written on a single line, and without tabs. -/
lemma notMem_render {e : Element} (h : e.IsKnown) {c : Char} (hc : c ∈ ['\t', '\n', '\r']) :
    c ∉ e.render.toList := by
  have hne : ∀ d ∈ ['\t', '\n', '\r'], d ≠ '<' := by simp
  rw [toList_render, List.mem_cons, not_or]
  exact ⟨hne c hc, notMem_inside h (List.mem_cons_of_mem _ hc)⟩

/-- A known element opens no comment. -/
lemma closes_render {e : Element} (h : e.IsKnown) :
    comment.closes e.render.toList = true := by
  obtain ⟨hne, hmark, _⟩ := forall_mem_knownNames e.name h.name
  have hinside : '<' ∉ e.inside := notMem_inside h (by decide)
  have hstart : afterStart? comment.opening ('<' :: e.inside) = none := by
    obtain ⟨c, name, hname⟩ := List.exists_cons_of_ne_nil hne
    rw [hname] at hmark
    have hc : c ≠ '!' := fun hc => hmark (hc ▸ List.mem_cons_self)
    rw [inside, hname, Region.opening, List.cons_append, afterStart?, if_pos rfl, afterStart?,
      if_neg hc.symm]
  rw [toList_render, Region.closes, hstart, Region.closes_comment_of_notMem hinside]
  rfl

end Element

/-- A clause on tags has known names when its attributes do. -/
lemma Condition.isKnown_tagClause {attributes : List (String × String)}
    (h : ∀ a ∈ attributes, a.1 ∈ Element.knownNames) (t : EntityType) :
    ((tagClause attributes).element t).IsKnown where
  name := List.mem_cons_self
  attributes := h

/-- The attribute for the case of a pattern has a known name. -/
lemma Pattern.forall_mem_caseAttribute (p : Pattern) :
    ∀ a ∈ p.caseAttribute, a.1 ∈ Element.knownNames := by
  intro a ha
  unfold caseAttribute at ha
  split at ha
  · rw [List.mem_singleton.mp ha]
    decide
  · cases ha

/-- The clause of a condition has known names. -/
lemma Condition.isKnown_element {c : Condition} {clause : Clause} (h : c.clause = .ok clause)
    (t : EntityType) : (clause.element t).IsKnown := by
  rw [Condition.clause] at h
  cases hc : c.canonical <;> rw [hc] at h <;> cases h
  case metadata kind value =>
    cases kind <;> constructor <;> simp [MetaKind.clause, Clause.element, Element.knownNames]
  case like key pattern | unlike key pattern | likeBoth keyRegex pattern =>
    exact isKnown_tagClause (List.forall_mem_append.mpr
      ⟨by simp [Element.knownNames], pattern.forall_mem_caseAttribute⟩) t
  all_goals exact isKnown_tagClause (by simp [Element.knownNames]) t

end TagSearch
