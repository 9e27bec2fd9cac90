import Mathlib.Tactic.Common
import TagSearch.Proofs.Occurrence
import TagSearch.Text.Attribute

/-!
# Attribute values are read back

The reader of attribute values knows a table of references and replaces them in one pass from left
to right.  A text is *safe* when it can stand in an attribute value: none of the characters with a
reference stands in it as itself, except for an ampersand that begins a reference.

What is escaped is safe (`isSafe_toList_escape`), and decoding it gives the text back
(`decode_escape`).  Both go character by character, from one fact: a character is written as its
reference if it has one, and as itself if not (`escapeChar_cases`).  Conversely each safe text is
the escaped form of what it decodes to (`escape_decode`), so escaping is a bijection from all texts
onto the safe ones.
-/

namespace TagSearch.Text.Attribute

/-- The references, each with the character it stands for. -/
def references : List (List Char × Char) :=
  [(['&', 'a', 'm', 'p', ';'], '&'), (['&', 'l', 't', ';'], '<'), (['&', 'g', 't', ';'], '>'),
    (['&', 'q', 'u', 'o', 't', ';'], '"'), (['&', '#', '0', '3', '9', ';'], '\''),
    (['&', '#', '0', '9', ';'], '\t'), (['&', '#', '1', '0', ';'], '\n'),
    (['&', '#', '1', '3', ';'], '\r')]

/-- The character whose reference a text starts with, and what follows the reference. -/
def reference? (text : List Char) : Option (Char × List Char) :=
  references.findSome? fun (reference, c) => (afterStart? reference text).map fun rest => (c, rest)

/-- The characters, besides the ampersand, that do not stand in an attribute value as themselves. -/
def reserved : List Char := ['<', '>', '"', '\'', '\t', '\n', '\r']

/-- Whether a text can stand in an attribute value. -/
def isSafe : List Char → Bool
  | [] => true
  | c :: text =>
    c ∉ reserved && (c ≠ '&' || (reference? (c :: text)).isSome) && isSafe text

/-- What is read as a character is a reference to it. -/
lemma exists_of_reference? {c : Char} {text rest : List Char}
    (h : reference? text = some (c, rest)) :
    ∃ reference, (reference, c) ∈ references ∧ text = reference ++ rest := by
  obtain ⟨⟨reference, d⟩, hmem, hrest⟩ := List.exists_of_findSome?_eq_some h
  obtain ⟨rest', hstart, hpair⟩ := Option.map_eq_some_iff.mp hrest
  obtain ⟨rfl, rfl⟩ := Prod.mk.inj hpair
  exact ⟨reference, hmem, afterStart?_eq_some_iff.mp hstart⟩

/-- Behind a reference the text is shorter. -/
lemma length_lt_of_reference? {c : Char} {text rest : List Char}
    (h : reference? text = some (c, rest)) : rest.length < text.length := by
  obtain ⟨reference, hmem, rfl⟩ := exists_of_reference? h
  have hlength : ∀ r ∈ references, 0 < r.1.length := by decide
  have hpos : 0 < reference.length := hlength _ hmem
  rw [List.length_append]
  omega

/-- The text that an attribute value stands for. -/
def decode : List Char → List Char
  | [] => []
  | c :: text =>
    match _h : reference? (c :: text) with
    | some (d, rest) => d :: decode rest
    | none => c :: decode text
termination_by text => text.length
decreasing_by
  · exact length_lt_of_reference? _h
  · exact Nat.lt_succ_self _

/-! ### References -/

/-- A character is written as its reference, or as itself if it has none. -/
lemma escapeChar_cases (c : Char) :
    (escapeChar c, c) ∈ references ∨ (escapeChar c = [c] ∧ c ≠ '&' ∧ c ∉ reserved) := by
  unfold escapeChar
  split
  case h_9 hamp hlt hgt hquot hapos htab hlf hcr =>
    have hreserved : c ∉ reserved := by
      simp only [reserved, List.mem_cons, List.not_mem_nil, or_false, not_or]
      exact ⟨hlt, hgt, hquot, hapos, htab, hlf, hcr⟩
    exact .inr ⟨rfl, hamp, hreserved⟩
  all_goals exact .inl (by decide)

/-- A reference is read as the character it stands for, whatever follows. -/
lemma reference?_append {reference : List Char} {c : Char} (h : (reference, c) ∈ references)
    (rest : List Char) : reference? (reference ++ rest) = some (c, rest) := by
  simp only [references, List.mem_cons, Prod.mk.injEq, List.not_mem_nil, or_false] at h
  rcases h with h | h | h | h | h | h | h | h <;> obtain ⟨rfl, rfl⟩ := h <;> rfl

/-- A reference starts with an ampersand. -/
lemma reference?_cons_of_ne {c : Char} (h : c ≠ '&') (text : List Char) :
    reference? (c :: text) = none := by
  have hstart : ∀ r ∈ references, r.1.head? = some '&' := by decide
  rw [reference?, List.findSome?_eq_none_iff]
  intro r hr
  obtain ⟨reference, d⟩ := r
  rw [Option.map_eq_none_iff, afterStart?_eq_none_iff]
  rintro ⟨rest, hrest⟩
  have hhead := hstart _ hr
  cases reference with
  | nil => cases hhead
  | cons a reference =>
    have hac : a = c := (List.cons.inj hrest).1
    exact h (hac ▸ Option.some.inj hhead)

/-! ### Safe texts -/

/-- A text in which no reserved character stands, and in which each ampersand begins a reference. -/
def IsSafe (text : List Char) : Prop :=
  (∀ c ∈ reserved, c ∉ text) ∧
    ∀ before rest, text = before ++ '&' :: rest → ∃ r ∈ references, r.1 <+: '&' :: rest

/-- A text is safe when its first character may stand there and the rest is safe. -/
lemma isSafe_cons_iff {c : Char} {text : List Char} :
    IsSafe (c :: text) ↔
      c ∉ reserved ∧ (c = '&' → ∃ r ∈ references, r.1 <+: c :: text) ∧ IsSafe text := by
  constructor
  · rintro ⟨hreserved, hamp⟩
    refine ⟨fun hc => hreserved c hc List.mem_cons_self, ?_, ?_, ?_⟩
    · rintro rfl
      exact hamp [] text rfl
    · exact fun d hd hmem => hreserved d hd (List.mem_cons_of_mem c hmem)
    · rintro before rest rfl
      exact hamp (c :: before) rest rfl
  · rintro ⟨hc, hstart, hreserved, hamp⟩
    refine ⟨fun d hd hmem => ?_, fun before rest htext => ?_⟩
    · rcases List.mem_cons.mp hmem with rfl | hmem
      · exact hc hd
      · exact hreserved d hd hmem
    · cases before with
      | nil =>
        obtain ⟨rfl, rfl⟩ := List.cons.inj htext
        exact hstart rfl
      | cons b before => exact hamp before rest (List.cons.inj htext).2

/-- What stands behind a part of a safe text is safe. -/
lemma IsSafe.of_append {first text : List Char} (h : IsSafe (first ++ text)) : IsSafe text := by
  induction first with
  | nil => exact h
  | cons c first ih => exact ih (isSafe_cons_iff.mp h).2.2

/-- A text can be read as a reference when it begins with one. -/
lemma isSome_reference?_iff {text : List Char} :
    (reference? text).isSome = true ↔ ∃ r ∈ references, r.1 <+: text := by
  rw [Option.isSome_iff_exists]
  constructor
  · rintro ⟨⟨c, rest⟩, h⟩
    obtain ⟨reference, hmem, rfl⟩ := exists_of_reference? h
    exact ⟨_, hmem, List.prefix_append reference rest⟩
  · rintro ⟨⟨reference, c⟩, hmem, rest, rfl⟩
    exact ⟨_, reference?_append hmem rest⟩

/-- The check for safe texts accepts just them. -/
lemma isSafe_eq_true_iff {text : List Char} : isSafe text = true ↔ IsSafe text := by
  induction text with
  | nil => simp [isSafe, IsSafe]
  | cons c text ih =>
    rw [isSafe_cons_iff, ← ih, ← isSome_reference?_iff]
    simp [isSafe, and_assoc, imp_iff_not_or]

/-! ### Escaped texts -/

/-- A reference is decoded as the character it stands for. -/
lemma decode_of_reference? {c : Char} {text rest : List Char}
    (h : reference? text = some (c, rest)) : decode text = c :: decode rest := by
  cases text with
  | nil => cases h
  | cons a text =>
    rw [decode]
    split
    case h_1 d rest' h' =>
      obtain ⟨rfl, rfl⟩ := Prod.mk.inj (Option.some.inj (h'.symm.trans h))
      rfl
    case h_2 h' => exact absurd (h'.symm.trans h) (by simp)

/-- A character that begins no reference is decoded as itself. -/
lemma decode_cons_of_ne {c : Char} (h : c ≠ '&') (text : List Char) :
    decode (c :: text) = c :: decode text := by
  have hnone := reference?_cons_of_ne h text
  rw [decode]
  split
  case h_1 h' => exact absurd (hnone.symm.trans h') (by simp)
  case h_2 => rfl

/-- A character is decoded from the way it is written, whatever follows. -/
lemma decode_escapeChar_append (c : Char) (text : List Char) :
    decode (escapeChar c ++ text) = c :: decode text := by
  rcases escapeChar_cases c with hmem | ⟨hself, hne, _⟩
  · exact decode_of_reference? (reference?_append hmem text)
  · rw [hself]
    exact decode_cons_of_ne hne text

/-- Decoding gives back what was escaped. -/
lemma decode_escape (s : String) : decode (escape s).toList = s.toList := by
  rw [toList_escape]
  induction s.toList with
  | nil => rw [List.flatMap_nil, decode]
  | cons c text ih => rw [List.flatMap_cons, decode_escapeChar_append, ih]

/-- Characters that are neither ampersands nor reserved are safe before a safe text. -/
lemma isSafe_append_of_forall {name text : List Char}
    (hname : ∀ a ∈ name, a ≠ '&' ∧ a ∉ reserved) (h : IsSafe text) : IsSafe (name ++ text) := by
  induction name with
  | nil => exact h
  | cons a name ih =>
    obtain ⟨ha, hreserved⟩ := hname a List.mem_cons_self
    have hih := ih fun b hb => hname b (List.mem_cons_of_mem _ hb)
    exact isSafe_cons_iff.mpr ⟨hreserved, fun hamp => absurd hamp ha, hih⟩

/-- A character as it is written is safe before a safe text. -/
lemma isSafe_escapeChar_append (c : Char) {text : List Char} (h : IsSafe text) :
    IsSafe (escapeChar c ++ text) := by
  rcases escapeChar_cases c with hmem | ⟨hself, hne, hreserved⟩
  · have hparts : ∀ r ∈ references, r.1 = '&' :: r.1.tail ∧
        ∀ a ∈ r.1.tail, a ≠ '&' ∧ a ∉ reserved := by simp [references, reserved]
    obtain ⟨hstart, hname⟩ := hparts _ hmem
    have hprefix : escapeChar c <+: escapeChar c ++ text := List.prefix_append _ text
    rw [show escapeChar c = '&' :: (escapeChar c).tail from hstart] at hmem hprefix ⊢
    exact isSafe_cons_iff.mpr
      ⟨by decide, fun _ => ⟨_, hmem, hprefix⟩, isSafe_append_of_forall hname h⟩
  · rw [hself]
    exact isSafe_append_of_forall (by simp [hne, hreserved]) h

/-- What is escaped is safe. -/
lemma isSafe_toList_escape (s : String) : IsSafe (escape s).toList := by
  rw [toList_escape]
  induction s.toList with
  | nil => exact isSafe_eq_true_iff.mp rfl
  | cons c text ih =>
    rw [List.flatMap_cons]
    exact isSafe_escapeChar_append c ih

/-- What is escaped passes the check for safe texts. -/
lemma isSafe_escape (s : String) : isSafe (escape s).toList = true :=
  isSafe_eq_true_iff.mpr (isSafe_toList_escape s)

/-- No reserved character stands in what is escaped. -/
lemma notMem_escape {c : Char} (hc : c ∈ reserved) (s : String) : c ∉ (escape s).toList :=
  (isSafe_toList_escape s).1 c hc

/-! ### Texts that are written as they are -/

/-- A text is escaped part by part. -/
lemma escape_append (s t : String) : escape (s ++ t) = escape s ++ escape t := by
  rw [← String.toList_inj]
  simp only [toList_escape, String.toList_append, List.flatMap_append]

/-- A character without a reference is written as itself. -/
lemma escapeChar_of_notMem {c : Char} (hc : c ∉ '&' :: reserved) : escapeChar c = [c] := by
  rcases escapeChar_cases c with hmem | ⟨hself, _⟩
  · have hreferences : ∀ r ∈ references, r.2 ∈ '&' :: reserved := by decide
    exact absurd (hreferences _ hmem) hc
  · exact hself

/-- A text in which no character has a reference is written as it is. -/
lemma escape_eq_self {s : String} (h : ∀ c ∈ s.toList, c ∉ '&' :: reserved) : escape s = s := by
  rw [← String.toList_inj, toList_escape]
  calc s.toList.flatMap escapeChar
      = s.toList.flatMap (fun c => [c]) :=
        List.flatMap_congr fun c hc => escapeChar_of_notMem (h c hc)
    _ = s.toList := List.flatMap_singleton' s.toList

/-! ### Safe texts are escaped texts -/

/-- A character with a reference is written as its reference. -/
lemma escapeChar_of_mem {reference : List Char} {c : Char} (h : (reference, c) ∈ references) :
    escapeChar c = reference := by
  have hreferences : ∀ r ∈ references, escapeChar r.2 = r.1 := by decide
  exact hreferences _ h

/-- A safe text is the escaped form of what it decodes to. -/
lemma escape_decode {text : List Char} (h : IsSafe text) :
    (decode text).flatMap escapeChar = text := by
  -- along the reader: a reference is passed as a whole, any other character alone
  fun_induction decode text with
  | case1 => rfl
  | case2 c text d rest hreference ih =>
    obtain ⟨reference, hmem, htext⟩ := exists_of_reference? hreference
    rw [htext] at h ⊢
    rw [List.flatMap_cons, escapeChar_of_mem hmem, ih h.of_append]
  | case3 c text hnone ih =>
    obtain ⟨hc, hstart, hsafe⟩ := isSafe_cons_iff.mp h
    have hamp : c ≠ '&' := by
      intro hc
      have hsome := isSome_reference?_iff.mpr (hstart hc)
      simp [hnone] at hsome
    rw [List.flatMap_cons, escapeChar_of_notMem (by simp [hc, hamp]), ih hsafe]
    rfl

/-- Escaping is a bijection from all texts onto the safe ones, and decoding is its inverse: what is
escaped is safe and decodes to the text it came from, and the safe texts are just those that are the
escaped form of what they decode to. -/
theorem escape_bijective_onto_safe :
    (∀ s : String, IsSafe (escape s).toList ∧ decode (escape s).toList = s.toList) ∧
    ∀ text : String, IsSafe text.toList ↔ escape (String.ofList (decode text.toList)) = text := by
  refine ⟨fun s => ⟨isSafe_toList_escape s, decode_escape s⟩, fun text => ?_⟩
  refine ⟨fun h => ?_, fun h => ?_⟩
  · rw [← String.toList_inj, toList_escape, String.toList_ofList, escape_decode h]
  · rw [← h]
    exact isSafe_toList_escape _

end TagSearch.Text.Attribute
