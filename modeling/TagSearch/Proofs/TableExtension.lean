import Mathlib.Data.List.Forall2
import Mathlib.Tactic.Common
import TagSearch.Preset.Table
import TagSearch.Proofs.Assembly

/-!
# More presets keep the documents there are

A resolver is extended by another one that knows all its phrases, with the same meanings.  When a
document is assembled, each phrase has been looked up and found, so a resolver that extends the one
used gives the same document; this is carried from conditions to terms and to the document.

Presets that are added at the end of a table extend it: a phrase that was known is found before the
new presets are looked at, also if these have the same names.
-/

namespace TagSearch

/-- A resolver is extended by another one that knows all its phrases with the same meanings. -/
def Resolver.IsExtendedBy (resolver larger : Resolver) : Prop :=
  ∀ phrase meaning, resolver.resolve phrase = some meaning → larger.resolve phrase = some meaning

/-! ### Assembling with a larger resolver -/

section Extended

variable {resolver larger : Resolver}

/-- What a condition contributes stays with a larger resolver. -/
lemma Condition.part_of_isExtendedBy (h : resolver.IsExtendedBy larger) {c : Condition}
    {p : QueryPart} (hp : c.part resolver.lookUp = .ok p) : c.part larger.lookUp = .ok p := by
  cases c with
  | phrase text =>
    rw [part_phrase, phrasePart_eq_ok_iff] at hp ⊢
    obtain ⟨meaning, clauses, hmeaning, hclauses, rfl⟩ := hp
    exact ⟨meaning, clauses, h text meaning hmeaning, hclauses, rfl⟩
  | _ => exact hp

/-- The part for a term stays with a larger resolver. -/
lemma termPart_of_isExtendedBy (h : resolver.IsExtendedBy larger) {term : Term} {p : QueryPart}
    (hp : termPart resolver.lookUp term = .ok p) : termPart larger.lookUp term = .ok p := by
  rw [termPart_eq_ok_iff] at hp ⊢
  obtain ⟨ps, hps, rfl⟩ := hp
  exact ⟨ps, hps.imp fun _ _ => Condition.part_of_isExtendedBy h, rfl⟩

/-- The document for a search stays with a larger resolver. -/
lemma Document.assemble_of_isExtendedBy (h : resolver.IsExtendedBy larger) {config : Config}
    {search : String} {comment : Option String} {parsed : ParsedSearch} {d : Document}
    (hd : assemble resolver config search comment parsed = .ok d) :
    assemble larger config search comment parsed = .ok d := by
  rw [assemble_eq_ok_iff] at hd ⊢
  obtain ⟨parts, hparts, rfl⟩ := hd
  exact ⟨parts, hparts.imp fun _ _ => termPart_of_isExtendedBy h, rfl⟩

end Extended

/-! ### Adding presets -/

namespace PresetTable

/-- A table with further presets at its end. -/
def append (table : PresetTable) (more : List Preset) : PresetTable :=
  ⟨table.presets ++ more⟩

/-- A table is extended by further presets at its end. -/
lemma isExtendedBy_append (table : PresetTable) (more : List Preset) :
    table.resolver.IsExtendedBy (table.append more).resolver := by
  intro phrase meaning h
  obtain ⟨p, hfind, hp⟩ := Option.map_eq_some_iff.mp h
  have hfind' : (table.append more).find? phrase = some p := by
    have hearlier : table.presets.find? (fun q => q.isNamed phrase) = some p := hfind
    rw [find?, append, List.find?_append, hearlier, Option.some_or]
  exact Option.map_eq_some_iff.mpr ⟨p, hfind', hp⟩

/-- Further presets at the end of a table change no document.  What is assembled with the table is
assembled with the larger table too, as the same document and so as the same text; and where
assembling fails with the larger table, it fails with the smaller one. -/
theorem assemble_append_presets (table : PresetTable) (more : List Preset) (config : Config)
    (search : String) (comment : Option String) (parsed : ParsedSearch) :
    (∀ d, Document.assemble table.resolver config search comment parsed = .ok d →
      Document.assemble (table.append more).resolver config search comment parsed = .ok d) ∧
    ∀ e, Document.assemble (table.append more).resolver config search comment parsed = .error e →
      ∃ e', Document.assemble table.resolver config search comment parsed = .error e' := by
  have hkept : ∀ d, Document.assemble table.resolver config search comment parsed = .ok d →
      Document.assemble (table.append more).resolver config search comment parsed = .ok d :=
    fun _ => Document.assemble_of_isExtendedBy (isExtendedBy_append table more)
  refine ⟨hkept, ?_⟩
  intro e herror
  cases hsmall : Document.assemble table.resolver config search comment parsed with
  | error e' => exact ⟨e', rfl⟩
  | ok d =>
    rw [hkept d hsmall] at herror
    cases herror

/-- A bar that is known as a term for a pub stays a pub when a preset of this name is added, and a
museum stays unknown. -/
theorem assemble_append_presets_bar :
    let table : PresetTable := ⟨[⟨"Pub", ["Bar"], .ofList [("amenity", "pub")], none⟩]⟩
    let more : List Preset := [⟨"Bar", [], .ofList [("amenity", "bar")], some [.node]⟩]
    let pubs : Document := .ofParts {} "bar" none .bbox
      [⟨["bar"], .all, [Condition.tagClause [("k", "amenity"), ("v", "pub")]]⟩]
    Document.assemble table.resolver {} "bar" none ⟨.leaf (.phrase "bar"), .bbox⟩ = .ok pubs ∧
      Document.assemble (table.append more).resolver {} "bar" none ⟨.leaf (.phrase "bar"), .bbox⟩ =
        .ok pubs ∧
      Document.assemble (table.append more).resolver {} "Museum" none
        ⟨.leaf (.phrase "Museum"), .bbox⟩ = .error (.unresolved "Museum") ∧
      ∃ e, Document.assemble table.resolver {} "Museum" none ⟨.leaf (.phrase "Museum"), .bbox⟩ =
        .error e := by
  intro table more pubs
  have hsmall : Document.assemble table.resolver {} "bar" none ⟨.leaf (.phrase "bar"), .bbox⟩ =
      .ok pubs := by
    decide +kernel
  have hlarge : Document.assemble (table.append more).resolver {} "Museum" none
      ⟨.leaf (.phrase "Museum"), .bbox⟩ = .error (.unresolved "Museum") := by
    decide +kernel
  exact ⟨hsmall, (assemble_append_presets table more _ _ _ _).1 pubs hsmall, hlarge,
    (assemble_append_presets table more _ _ _ _).2 _ hlarge⟩

end PresetTable

end TagSearch
