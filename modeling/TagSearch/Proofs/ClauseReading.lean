import Mathlib.Data.List.Nodup
import Mathlib.Tactic.Common
import TagSearch.Proofs.ClauseText

/-!
# A clause is read back

A reader of empty XML elements that knows nothing of clauses: a bracket, a name, attributes with
distinct names whose values are decoded once, and nothing behind the closing bracket.  On the text
of a clause it gives back the element with the values as they were meant (`Element.read?_render`).

From the element one can tell what the clause is about.  Three things of a canonical condition do
not show in its clause and make up its *content*: of a modifier only whether it is `i`, absence of a
key as a pattern that nothing may match, and a relative date in the form that is written.  So two
conditions have the same clause exactly when their canonical forms have the same content.
-/

namespace TagSearch

open Text

namespace Element

/-! ### The reader -/

/-- Whether a character may stand in a name. -/
def isNameChar (c : Char) : Bool :=
  c.isAlphanum || c == '-'

/-- Whether a text is a name: it begins with a letter. -/
def isName (name : List Char) : Bool :=
  name.head?.any Char.isAlpha && name.all isNameChar

/-- Reads a name from the front of a text. -/
def readName? (text : List Char) : Option (String × List Char) :=
  if isName (text.takeWhile isNameChar) then
    some (String.ofList (text.takeWhile isNameChar), text.dropWhile isNameChar)
  else none

/-- Reads the value of an attribute and its closing quote from the front of a text. -/
def readValue? (text : List Char) : Option (String × List Char) :=
  match text.takeWhile (fun c => c ≠ '"'), text.dropWhile (fun c => c ≠ '"') with
  | _, [] => none
  | value, _ :: rest =>
    if Attribute.isSafe value then some (String.ofList (Attribute.decode value), rest) else none

/-- Reads an attribute, with the blank in front of it, from the front of a text. -/
def readAttribute? (text : List Char) : Option ((String × String) × List Char) := do
  let text ← afterStart? [' '] text
  let (name, text) ← readName? text
  let text ← afterStart? ['=', '"'] text
  let (value, text) ← readValue? text
  return ((name, value), text)

/-- What follows a name is no longer than the text. -/
lemma length_le_of_readName? {text rest : List Char} {name : String}
    (h : readName? text = some (name, rest)) : rest.length ≤ text.length := by
  unfold readName? at h
  split at h
  · have hrest : text.dropWhile isNameChar = rest :=
      congrArg Prod.snd (Option.some.inj h)
    rw [← hrest]
    exact (List.dropWhile_suffix isNameChar).length_le
  · cases h

/-- What follows a value is no longer than the text. -/
lemma length_le_of_readValue? {text rest : List Char} {value : String}
    (h : readValue? text = some (value, rest)) : rest.length ≤ text.length := by
  unfold readValue? at h
  split at h
  · cases h
  case h_2 quote rest' hdrop =>
    have hle := (List.dropWhile_suffix (l := text) fun c => decide (c ≠ '"')).length_le
    split at h
    · have hrest : rest' = rest := congrArg Prod.snd (Option.some.inj h)
      rw [hdrop, List.length_cons, hrest] at hle
      omega
    · cases h

/-- Behind an attribute the text is shorter. -/
lemma length_lt_of_readAttribute? {text rest : List Char} {a : String × String}
    (h : readAttribute? text = some (a, rest)) : rest.length < text.length := by
  obtain ⟨text₁, hblank, h⟩ := Option.bind_eq_some_iff.mp h
  obtain ⟨⟨name, text₂⟩, hname, h⟩ := Option.bind_eq_some_iff.mp h
  obtain ⟨text₃, hopening, h⟩ := Option.bind_eq_some_iff.mp h
  obtain ⟨⟨value, text₄⟩, hvalue, h⟩ := Option.bind_eq_some_iff.mp h
  obtain rfl : text₄ = rest := congrArg Prod.snd (Option.some.inj h)
  have hlt : text₁.length < text.length := by
    rw [afterStart?_eq_some_iff.mp hblank]
    exact Nat.lt_succ_self _
  have hle : text₃.length ≤ text₂.length := by
    rw [afterStart?_eq_some_iff.mp hopening, List.length_append]
    exact Nat.le_add_left _ _
  have hname' := length_le_of_readName? hname
  have hvalue' := length_le_of_readValue? hvalue
  omega

/-- Reads attributes up to the end of an element, which has to be the end of the text. -/
def readAttributes? (text : List Char) : Option (List (String × String)) :=
  if text = ['/', '>'] then some []
  else
    match _h : readAttribute? text with
    | some (a, rest) => (readAttributes? rest).map (a :: ·)
    | none => none
termination_by text.length
decreasing_by exact length_lt_of_readAttribute? _h

/-- Reads an empty element, which has to be the whole text. -/
def read? (text : List Char) : Option Element := do
  let text ← afterStart? ['<'] text
  let (name, text) ← readName? text
  let attributes ← readAttributes? text
  if (attributes.map Prod.fst).Nodup then return ⟨name, attributes⟩ else none

/-! ### Elements that are read back -/

/-- An element with names that can be read, and with distinct names of attributes. -/
structure IsWellFormed (e : Element) : Prop where
  name : isName e.name.toList = true
  attributes : ∀ a ∈ e.attributes, isName a.1.toList = true
  nodup : (e.attributes.map Prod.fst).Nodup

/-- A name is read up to the first character that cannot stand in it. -/
lemma readName?_append {name : String} (h : isName name.toList = true) {c : Char}
    (hc : isNameChar c = false) (text : List Char) :
    readName? (name.toList ++ c :: text) = some (name, c :: text) := by
  have hall : ∀ a ∈ name.toList, isNameChar a = true :=
    List.all_eq_true.mp (Bool.and_eq_true_iff.mp h).2
  have hc' : ¬ isNameChar c = true := by simp [hc]
  have htake : (name.toList ++ c :: text).takeWhile isNameChar = name.toList := by
    rw [List.takeWhile_append_of_pos hall, List.takeWhile_cons_of_neg hc', List.append_nil]
  have hdrop : (name.toList ++ c :: text).dropWhile isNameChar = c :: text := by
    rw [List.dropWhile_append_of_pos hall, List.dropWhile_cons_of_neg hc']
  simp only [readName?, htake, hdrop, h, if_true, String.ofList_toList]

/-- An escaped value is read back as it was meant. -/
lemma readValue?_escape (value : String) (text : List Char) :
    readValue? ((Attribute.escape value).toList ++ '"' :: text) = some (value, text) := by
  have hquote : '"' ∉ (Attribute.escape value).toList :=
    Attribute.notMem_escape (by decide) value
  have hall : ∀ a ∈ (Attribute.escape value).toList, decide (a ≠ '"') = true := by
    intro a ha
    exact decide_eq_true fun heq => hquote (heq ▸ ha)
  have htake : ((Attribute.escape value).toList ++ '"' :: text).takeWhile (fun c => c ≠ '"') =
      (Attribute.escape value).toList := by
    rw [List.takeWhile_append_of_pos hall, List.takeWhile_cons_of_neg (by simp), List.append_nil]
  have hdrop : ((Attribute.escape value).toList ++ '"' :: text).dropWhile (fun c => c ≠ '"') =
      '"' :: text := by
    rw [List.dropWhile_append_of_pos hall, List.dropWhile_cons_of_neg (by simp)]
  simp only [readValue?, htake, hdrop, Attribute.isSafe_escape, if_true, Attribute.decode_escape,
    String.ofList_toList]

/-- An attribute as it is written, character by character. -/
lemma toList_renderAttribute (a : String × String) : (renderAttribute a).toList =
    ' ' :: (a.1.toList ++ '=' :: '"' :: ((Attribute.escape a.2).toList ++ ['"'])) := by
  simp [renderAttribute]

/-- An attribute is read back. -/
lemma readAttribute?_renderAttribute {a : String × String} (h : isName a.1.toList = true)
    (text : List Char) :
    readAttribute? ((renderAttribute a).toList ++ text) = some (a, text) := by
  have hname := readName?_append h (c := '=') (by decide)
    ('"' :: ((Attribute.escape a.2).toList ++ '"' :: text))
  simp only [toList_renderAttribute, List.cons_append, List.append_assoc, List.nil_append,
    readAttribute?, afterStart?, if_true, Option.bind_eq_bind, Option.bind_some, hname,
    readValue?_escape, Option.pure_def]

/-- Attributes are read back up to the end of an element. -/
lemma readAttributes?_flatMap {as : List (String × String)}
    (h : ∀ a ∈ as, isName a.1.toList = true) :
    readAttributes? ((as.flatMap fun a => (renderAttribute a).toList) ++ ['/', '>']) = some as := by
  induction as with
  | nil => rw [readAttributes?]; rfl
  | cons a as ih =>
    have has := ih fun a' ha' => h a' (List.mem_cons_of_mem _ ha')
    have hread := readAttribute?_renderAttribute (h a List.mem_cons_self)
      ((as.flatMap fun a => (renderAttribute a).toList) ++ ['/', '>'])
    rw [List.flatMap_cons, List.append_assoc]
    generalize (as.flatMap fun a => (renderAttribute a).toList) ++ ['/', '>'] = rest at has hread ⊢
    -- an attribute begins with a blank, so the element does not end here
    have hend : (renderAttribute a).toList ++ rest ≠ ['/', '>'] := by
      simp [toList_renderAttribute]
    rw [readAttributes?, if_neg hend]
    split
    case h_1 a' rest' h' =>
      obtain ⟨rfl, rfl⟩ := Prod.mk.inj (Option.some.inj (h'.symm.trans hread))
      rw [has, Option.map_some]
    case h_2 h' => exact absurd (h'.symm.trans hread) (by simp)

/-- A well-formed element is read back as it was meant. -/
lemma read?_render {e : Element} (h : e.IsWellFormed) : read? e.render.toList = some e := by
  have hattributes := readAttributes?_flatMap h.attributes
  -- the name ends with the blank of the first attribute or with the end of the element
  obtain ⟨c, text, htext, hc⟩ : ∃ c text,
      (e.attributes.flatMap fun a => (renderAttribute a).toList) ++ ['/', '>'] = c :: text ∧
        isNameChar c = false := by
    cases e.attributes with
    | nil => exact ⟨'/', ['>'], rfl, by decide⟩
    | cons a as =>
      rw [List.flatMap_cons, toList_renderAttribute]
      exact ⟨' ', _, rfl, by decide⟩
  have hname := readName?_append h.name hc text
  rw [← htext] at hname
  rw [toList_render, inside]
  simp only [read?, afterStart?, if_true, Option.bind_eq_bind, Option.bind_some, hname,
    hattributes, h.nodup, Option.pure_def]

end Element

/-! ### The content of a clause -/

/-- What a clause tells of a pattern: the expression, and whether case is ignored. -/
def Pattern.content (p : Pattern) : Pattern :=
  { regex := p.regex, modifier := if p.ignoresCase then some "i" else none }

/-- What a clause tells of a canonical condition.  Absence of a key is told as a pattern that its
value does not match, and a relative date is told in the form that is written. -/
def Condition.content : Condition → Condition
  | .lacksKey key => .unlike key { regex := ".*" }
  | .like key pattern => .like key pattern.content
  | .unlike key pattern => .unlike key pattern.content
  | .likeBoth keyRegex pattern => .likeBoth keyRegex pattern.content
  | .metadata .newer date => .metadata .newer (MetaKind.dateValue date)
  | c => c

/-- What an element tells in a block for the given entity type. -/
def Element.content? (t : EntityType) : Element → Option Condition
  | ⟨"has-kv", [("k", key)]⟩ => some (.hasKey key)
  | ⟨"has-kv", [("k", key), ("v", value)]⟩ => some (.equals key value)
  | ⟨"has-kv", [("k", key), ("modv", "not"), ("v", value)]⟩ => some (.differs key value)
  | ⟨"has-kv", [("k", key), ("regv", regex)]⟩ => some (.like key { regex })
  | ⟨"has-kv", [("k", key), ("regv", regex), ("case", "ignore")]⟩ =>
    some (.like key { regex, modifier := "i" })
  | ⟨"has-kv", [("k", key), ("modv", "not"), ("regv", regex)]⟩ => some (.unlike key { regex })
  | ⟨"has-kv", [("k", key), ("modv", "not"), ("regv", regex), ("case", "ignore")]⟩ =>
    some (.unlike key { regex, modifier := "i" })
  | ⟨"has-kv", [("regk", keyRegex), ("regv", regex)]⟩ => some (.likeBoth keyRegex { regex })
  | ⟨"has-kv", [("regk", keyRegex), ("regv", regex), ("case", "ignore")]⟩ =>
    some (.likeBoth keyRegex { regex, modifier := "i" })
  | ⟨"id-query", [("type", type), ("ref", id)]⟩ =>
    if type = t.name then some (.metadata .id id) else none
  | ⟨"newer", [("than", date)]⟩ => some (.metadata .newer date)
  | ⟨"user", [("name", name)]⟩ => some (.metadata .user name)
  | ⟨"user", [("uid", uid)]⟩ => some (.metadata .uid uid)
  | _ => none

namespace Condition

/-- The element of a clause tells the content of the canonical condition. -/
lemma content?_element {c : Condition} {clause : Clause} (h : c.canonicalClause = .ok clause)
    (t : EntityType) : (clause.element t).content? t = some c.content := by
  cases c with
  | hasKey key | lacksKey key | equals key value | differs key value =>
    obtain rfl := Except.ok.inj h
    rfl
  | like key pattern | unlike key pattern | likeBoth keyRegex pattern =>
    obtain rfl := Except.ok.inj h
    cases hcase : pattern.ignoresCase <;>
      simp only [Pattern.caseAttribute, content, Pattern.content, hcase] <;> rfl
  | metadata kind value =>
    obtain rfl := Except.ok.inj h
    cases kind with
    | id => exact if_pos rfl
    | newer | user | uid => rfl
  | contains key text => cases h
  | ofType type => cases h
  | phrase text => cases h

/-- A date that is written as relative is not taken for a relative date again. -/
lemma dateValue_dateValue (date : String) :
    MetaKind.dateValue (MetaKind.dateValue date) = MetaKind.dateValue date := by
  have hbrace : RelativeDate.isRelative ("\x7b\x7bdate:" ++ date ++ "\x7d\x7d") = false := by
    unfold RelativeDate.isRelative
    rw [String.append_assoc, String.toList_append]
    rfl
  by_cases h : RelativeDate.isRelative date = true
  · have hdate : MetaKind.dateValue date = "\x7b\x7bdate:" ++ date ++ "\x7d\x7d" := if_pos h
    rw [hdate, MetaKind.dateValue, hbrace, if_neg Bool.false_ne_true]
  · have hdate : MetaKind.dateValue date = date := if_neg h
    rw [hdate, hdate]

/-- A pattern and its content have the same attribute for the case. -/
lemma caseAttribute_content (p : Pattern) : p.content.caseAttribute = p.caseAttribute := by
  have hcontent : p.content.ignoresCase = p.ignoresCase := by
    unfold Pattern.content
    cases p.ignoresCase <;> rfl
  rw [Pattern.caseAttribute, Pattern.caseAttribute, hcontent]

/-- The clause of a canonical condition is determined by its content. -/
lemma canonicalClause_content (c : Condition) : c.content.canonicalClause = c.canonicalClause := by
  cases c with
  | like key pattern | unlike key pattern | likeBoth keyRegex pattern =>
    simp only [content, canonicalClause, caseAttribute_content]
    rfl
  | metadata kind value =>
    cases kind with
    | newer => simp only [content, canonicalClause, MetaKind.clause, dateValue_dateValue]
    | id | user | uid => rfl
  | _ => rfl

/-- Two conditions have the same clause exactly when their canonical forms have the same content. -/
lemma clause_eq_ok_iff_content_eq {c : Condition} {clause : Clause} (h : c.clause = .ok clause)
    (c' : Condition) : c'.clause = .ok clause ↔ c'.canonical.content = c.canonical.content := by
  constructor
  · intro h'
    have hcontent := content?_element h .node
    have hcontent' := content?_element h' .node
    exact Option.some.inj (hcontent'.symm.trans hcontent)
  · intro hcontent
    rw [Condition.clause, ← canonicalClause_content, hcontent, canonicalClause_content]
    exact h

/-! ### Clauses are read back -/

/-- A known name can be read. -/
lemma forall_mem_knownNames_isName :
    ∀ name ∈ Element.knownNames, Element.isName name.toList = true := by
  decide

/-- The attributes of a clause have distinct names. -/
lemma nodup_attributes {c : Condition} {clause : Clause} (h : c.canonicalClause = .ok clause)
    (t : EntityType) : ((clause.element t).attributes.map Prod.fst).Nodup := by
  cases c with
  | hasKey key | lacksKey key | equals key value | differs key value =>
    obtain rfl := Except.ok.inj h
    simp [tagClause, Clause.element]
  | like key pattern | unlike key pattern | likeBoth keyRegex pattern =>
    obtain rfl := Except.ok.inj h
    cases hcase : pattern.ignoresCase <;>
      simp [tagClause, Clause.element, Pattern.caseAttribute, hcase]
  | metadata kind value =>
    obtain rfl := Except.ok.inj h
    cases kind <;> simp [MetaKind.clause, Clause.element]
  | contains key text => cases h
  | ofType type => cases h
  | phrase text => cases h

/-- The element of a clause is well-formed. -/
lemma isWellFormed_element {c : Condition} {clause : Clause} (h : c.clause = .ok clause)
    (t : EntityType) : (clause.element t).IsWellFormed where
  name := forall_mem_knownNames_isName _ (isKnown_element h t).name
  attributes a ha := forall_mem_knownNames_isName _ ((isKnown_element h t).attributes a ha)
  nodup := nodup_attributes h t

/-- A clause is a single line, and it is read back as one empty element whose attributes have the
values that were meant; they tell all of the canonical condition but what its content leaves out.
So the clauses of two conditions are the same, as such and as they are written for any entity type,
exactly when the canonical forms of the conditions have the same content. -/
theorem clause_is_read_back {c : Condition} {clause : Clause} (h : c.clause = .ok clause) :
    (∀ t : EntityType,
      (∀ char ∈ ['\t', '\n', '\r'], char ∉ (clause.render t).toList) ∧
      Element.read? (clause.render t).toList = some (clause.element t) ∧
      (clause.element t).content? t = some c.canonical.content) ∧
    ∀ c' : Condition,
      (c'.clause = .ok clause ↔ c'.canonical.content = c.canonical.content) ∧
      ∀ clause', c'.clause = .ok clause' → ∀ t : EntityType,
        (clause'.render t = clause.render t ↔ c'.canonical.content = c.canonical.content) := by
  have hread {c : Condition} {clause : Clause} (h : c.clause = .ok clause) (t : EntityType) :
      Element.read? (clause.render t).toList = some (clause.element t) :=
    Element.read?_render (isWellFormed_element h t)
  refine ⟨fun t => ⟨?_, hread h t, content?_element h t⟩, fun c' => ⟨?_, ?_⟩⟩
  · intro char hchar
    exact Element.notMem_render (isKnown_element h t) hchar
  · exact clause_eq_ok_iff_content_eq h c'
  · intro clause' h' t
    constructor
    · intro hrender
      have helement : clause'.element t = clause.element t := by
        apply Option.some.inj
        rw [← hread h' t, ← hread h t, hrender]
      have hcontent' := content?_element h' t
      rw [helement, content?_element h t] at hcontent'
      exact (Option.some.inj hcontent').symm
    · intro hcontent
      have hclause := (clause_eq_ok_iff_content_eq h c').mpr hcontent
      rw [Except.ok.inj (h'.symm.trans hclause)]

/-- A text with a reference, quotes and a line break is asked for under the empty key; its clause is
read back with the text as it was. -/
theorem clause_is_read_back_of_reference :
    (contains "" "&amp; \"x\"\n").clause =
        .ok (tagClause [("regk", "^$"), ("regv", "&amp; \"x\"\n")]) ∧
      Element.read?
          "<has-kv regk=\"^$\" regv=\"&amp;amp; &quot;x&quot;&#10;\"/>".toList =
        some ⟨"has-kv", [("regk", "^$"), ("regv", "&amp; \"x\"\n")]⟩ := by
  have h : (contains "" "&amp; \"x\"\n").clause =
      .ok (tagClause [("regk", "^$"), ("regv", "&amp; \"x\"\n")]) := by decide +kernel
  have hread := ((clause_is_read_back h).1 .node).2.1
  have hrender : (tagClause [("regk", "^$"), ("regv", "&amp; \"x\"\n")]).render .node =
      "<has-kv regk=\"^$\" regv=\"&amp;amp; &quot;x&quot;&#10;\"/>" := by decide +kernel
  rw [hrender] at hread
  exact ⟨h, hread⟩

end Condition

end TagSearch
