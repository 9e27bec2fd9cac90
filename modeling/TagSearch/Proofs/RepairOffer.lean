import Mathlib.Data.List.Infix
import Mathlib.Tactic.Common
import TagSearch.Proofs.RepairedPhrases

/-!
# When a repair is offered

A repair is offered for the search that was parsed, and for no other, and then exactly when some
phrase at the leaves of its tree is unknown, has a suggestion and stands in the text.

The phrases are looked for in a text that becomes shorter with each one that is found, so a phrase
may be missed that stands in the search.  This never costs the offer: as long as nothing has been
found, the whole search is still there (`replacementCount_splice_pos_iff`).
-/

namespace TagSearch

/-- A search that comes with its parse is parsed as that, and no other search is parsed. -/
lemma Preparsed.parse_eq_ok_iff {p : Preparsed} {asked : String} {parsed : ParsedSearch} :
    p.parse asked = .ok parsed ↔ asked = p.search ∧ p.parsed = parsed := by
  unfold Preparsed.parse
  split
  next h => simp [h]
  next h => simp [h]

namespace Repair

variable {resolver : Resolver}

/-- The unknown phrases with a suggestion at the leaves of a tree, as they are answered by the
resolver. -/
lemma mem_correctablePhrases_iff {t : SearchTree} {phrase : String} :
    phrase ∈ correctablePhrases resolver t ↔ Condition.phrase phrase ∈ t.leaves ∧
      resolver.resolve phrase = none ∧ ∃ suggestion, resolver.suggest phrase = some suggestion := by
  have hphrase (c : Condition) : c.phrase? = some phrase ↔ c = .phrase phrase := by
    cases c <;> simp [Condition.phrase?]
  simp [correctablePhrases, isCorrectable, hphrase, Option.isSome_iff_exists]

/-- Something is replaced exactly when one of the phrases with a correction stands in the text. -/
lemma replacementCount_splice_pos_iff {cs : List (String × String)} {text : List Char} :
    0 < replacementCount (splice cs text) ↔ ∃ c ∈ cs, c.1.toList <:+: text := by
  induction cs with
  | nil => simp [splice, replacementCount, Fragment.isReplacement]
  | cons c cs ih =>
    obtain ⟨phrase, suggestion⟩ := c
    simp only [List.mem_cons, exists_eq_or_imp]
    cases h : Text.Occurrence.find? phrase.toList text with
    | none =>
      -- nothing is taken from the text, so the other phrases are looked for in all of it
      have hmissing : ¬ phrase.toList <:+: text := Text.Occurrence.find?_eq_none_iff.mp h
      rw [replacementCount_splice_of_eq_none h, ih]
      exact ⟨.inr, fun hor => hor.resolve_left hmissing⟩
    | some o =>
      have hfound : phrase.toList <:+: text := (Text.Occurrence.isOf_of_find? h).isInfix
      rw [replacementCount_splice_of_eq_some h]
      exact ⟨fun _ => .inl hfound, fun _ => Nat.succ_pos _⟩

/-- For any way to parse searches, a repair is offered exactly when the search can be parsed and a
phrase that is to be corrected stands in its text. -/
lemma exists_repairParsedBy_eq_some_iff {ε : Type} {parse : String → Except ε ParsedSearch}
    {search : String} :
    (∃ fragments, repairParsedBy resolver parse search = some fragments) ↔
      ∃ parsed, parse search = .ok parsed ∧
        ∃ phrase ∈ correctablePhrases resolver parsed.query, phrase.toList <:+: search.toList := by
  have hany (t : SearchTree) :
      (splice (corrections resolver (phrases t)) search.toList).any Fragment.isReplacement = true ↔
        ∃ phrase ∈ correctablePhrases resolver t, phrase.toList <:+: search.toList := by
    rw [List.any_eq_true, ← List.countP_pos_iff]
    refine replacementCount_splice_pos_iff.trans ?_
    simp only [← mem_filter_phrases_iff, ← map_fst_corrections, List.mem_map,
      exists_exists_and_eq_and]
  simp only [repairParsedBy_eq_some_iff, ← hany]
  constructor
  · rintro ⟨_, parsed, hparse, rfl, hreplacement⟩
    exact ⟨parsed, hparse, hreplacement⟩
  · rintro ⟨parsed, hparse, hreplacement⟩
    exact ⟨_, parsed, hparse, rfl, hreplacement⟩

/-- A repair is offered exactly when it is asked for the search that comes with the parse, and the
tree has, at any depth, a phrase that is unknown to the resolver, has a suggestion and stands in the
text of the search. -/
theorem repair_is_offered_iff (resolver : Resolver) (parser : Preparsed) (asked : String) :
    (∃ fragments, repair resolver parser asked = some fragments) ↔
      asked = parser.search ∧
      ∃ phrase, Condition.phrase phrase ∈ parser.parsed.query.leaves ∧
        resolver.resolve phrase = none ∧
        (∃ suggestion, resolver.suggest phrase = some suggestion) ∧
        phrase.toList <:+: asked.toList := by
  rw [repair, exists_repairParsedBy_eq_some_iff]
  constructor
  · rintro ⟨_, hparse, phrase, hphrase, hinfix⟩
    obtain ⟨hasked, rfl⟩ := Preparsed.parse_eq_ok_iff.mp hparse
    obtain ⟨hleaf, hresolve, hsuggest⟩ := mem_correctablePhrases_iff.mp hphrase
    exact ⟨hasked, phrase, hleaf, hresolve, hsuggest, hinfix⟩
  · rintro ⟨hasked, phrase, hleaf, hresolve, hsuggest, hinfix⟩
    have hphrase := mem_correctablePhrases_iff.mpr ⟨hleaf, hresolve, hsuggest⟩
    exact ⟨parser.parsed, Preparsed.parse_eq_ok_iff.mpr ⟨hasked, rfl⟩, phrase, hphrase, hinfix⟩

end Repair

end TagSearch
