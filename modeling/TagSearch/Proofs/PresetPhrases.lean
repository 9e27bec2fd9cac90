import Mathlib.Tactic.Common
import TagSearch.Preset.Table
import TagSearch.Proofs.AssemblyFaults
import TagSearch.Proofs.RepairAccount

/-!
# Phrases that mean presets

With a table of presets as its resolver, a search can go wrong in one way only: a phrase is no name
of any preset.  The conditions of presets ask for tags and always have clauses, so what a known
phrase means never stands in the way.  A document is therefore assembled exactly when each phrase
of the tree is a name of a preset, and the error is an unknown phrase of the tree otherwise.

A table suggests names of its own presets, which are known to it.  This ties the two lookups of a
table together: when each unknown phrase of a tree is replaced by what is suggested for it, the
only phrases that stay unknown are those without a suggestion.
-/

namespace TagSearch

/-! ### Names and conditions of a preset -/

namespace Preset

/-- A phrase names a preset when it is equal to one of its names in lower case. -/
lemma isNamed_iff {p : Preset} {phrase : String} :
    p.isNamed phrase = true ↔
      ∃ name ∈ p.names, Text.lowercase name = Text.lowercase phrase := by
  simp [isNamed]

/-- A preset is named by its name. -/
lemma isNamed_name (p : Preset) : p.isNamed p.name = true :=
  isNamed_iff.mpr ⟨p.name, List.mem_cons_self, rfl⟩

/-- The conditions of a preset have clauses of their own. -/
lemma isPlain_of_mem_resolution {p : Preset} {c : Condition} (h : c ∈ p.resolution.conditions) :
    c.isPlain = true := by
  obtain ⟨⟨key, value⟩, _, rfl⟩ := List.mem_map.mp h
  simp only [tagCondition]
  split <;> rfl

end Preset

/-! ### The two lookups of a table -/

namespace PresetTable

variable {table : PresetTable} {phrase name : String}

/-- A phrase is unknown to a table when it names none of its presets. -/
lemma resolve_eq_none_iff :
    table.resolve phrase = none ↔
      ∀ p ∈ table.presets, ∀ name ∈ p.names, Text.lowercase name ≠ Text.lowercase phrase := by
  rw [resolve, Option.map_eq_none_iff, find?, List.find?_eq_none]
  simp only [Preset.isNamed_iff, not_exists, not_and, ne_eq]

/-- What a known phrase means is the meaning of a preset. -/
lemma exists_preset_of_resolve {meaning : Resolution} (h : table.resolve phrase = some meaning) :
    ∃ p : Preset, meaning = p.resolution := by
  obtain ⟨p, _, rfl⟩ := Option.map_eq_some_iff.mp h
  exact ⟨p, rfl⟩

/-- The name of a preset of a table is known to the table, if not necessarily for this preset. -/
lemma isSome_resolve_name {p : Preset} (h : p ∈ table.presets) :
    (table.resolve p.name).isSome = true := by
  rw [resolve, Option.isSome_map, find?, List.find?_isSome]
  exact ⟨p, h, p.isNamed_name⟩

/-- The better of two candidates is one of them. -/
lemma eq_or_eq_of_nearer {limit : Nat} {best : Option (Nat × Preset)}
    {candidate : String × Preset} {d : Nat} {p : Preset}
    (h : nearer phrase limit best candidate = some (d, p)) :
    best = some (d, p) ∨ candidate.2 = p := by
  simp only [nearer] at h
  split at h
  · exact .inl h
  · split at h
    · split at h
      · exact .inr (Prod.mk.inj (Option.some.inj h)).2
      · exact .inl h
    · exact .inr (Prod.mk.inj (Option.some.inj h)).2

/-- The best of the candidates is one of them, unless it was there before. -/
lemma eq_or_mem_of_foldl_nearer {limit : Nat} {candidates : List (String × Preset)}
    {best : Option (Nat × Preset)} {d : Nat} {p : Preset}
    (h : candidates.foldl (nearer phrase limit) best = some (d, p)) :
    best = some (d, p) ∨ ∃ candidate ∈ candidates, candidate.2 = p := by
  induction candidates generalizing best with
  | nil => exact .inl h
  | cons candidate candidates ih =>
    rw [List.foldl_cons] at h
    rcases ih h with hbest | ⟨later, hmem, hp⟩
    · rcases eq_or_eq_of_nearer hbest with hbest | hp
      · exact .inl hbest
      · exact .inr ⟨candidate, List.mem_cons_self, hp⟩
    · exact .inr ⟨later, List.mem_cons_of_mem _ hmem, hp⟩

/-- The nearest preset is a preset of the table. -/
lemma mem_presets_of_nearest? {d : Nat} {p : Preset} (h : table.nearest? phrase = some (d, p)) :
    p ∈ table.presets := by
  rcases eq_or_mem_of_foldl_nearer h with hnone | ⟨candidate, hmem, rfl⟩
  · cases hnone
  · obtain ⟨p, hp, hname⟩ := List.mem_flatMap.mp hmem
    obtain ⟨name, _, rfl⟩ := List.mem_map.mp hname
    exact hp

/-- A table knows the phrases that it suggests. -/
lemma isSome_resolve_of_suggest (h : table.suggest phrase = some name) :
    (table.resolve name).isSome = true := by
  obtain ⟨⟨d, p⟩, hnearest, rfl⟩ := Option.map_eq_some_iff.mp h
  exact isSome_resolve_name (mem_presets_of_nearest? hnearest)

/-! ### Assembling with a table -/

/-- The only fault of a condition is to be an unknown phrase. -/
lemma fault?_eq_some_iff {c : Condition} {e : ClauseError} :
    c.fault? table.resolver = some e ↔
      ∃ phrase, c = .phrase phrase ∧ table.resolve phrase = none ∧ e = .unresolved phrase := by
  cases c with
  | phrase text =>
    have hresolve : table.resolver.resolve text = table.resolve text := rfl
    rw [Condition.fault?, hresolve]
    cases hmeaning : table.resolve text with
    | none => simp [hmeaning, eq_comm]
    | some meaning =>
      obtain ⟨p, rfl⟩ := exists_preset_of_resolve hmeaning
      have hplain : (p.resolution.conditions.find? fun c => !c.isPlain) = none := by
        rw [List.find?_eq_none]
        intro c hc
        simp [Preset.isPlain_of_mem_resolution hc]
      simp [hplain, hmeaning]
  | _ => simp [Condition.fault?]

variable {config : Config} {search : String} {comment : Option String} {parsed : ParsedSearch}

/-- Assembling fails with a phrase of the tree that is unknown. -/
lemma unresolved_of_assemble {e : ClauseError}
    (h : Document.assemble table.resolver config search comment parsed = .error e) :
    ∃ phrase, Condition.phrase phrase ∈ parsed.query.leaves ∧ table.resolve phrase = none ∧
      e = .unresolved phrase := by
  rw [← errorOf?_eq_some_iff, Document.errorOf?_assemble] at h
  obtain ⟨c, hc, hfault⟩ := List.exists_of_findSome?_eq_some h
  obtain ⟨phrase, rfl, hunknown, he⟩ := fault?_eq_some_iff.mp hfault
  exact ⟨phrase, SearchTree.mem_termConditions_iff.mp hc, hunknown, he⟩

/-- A document is assembled exactly when all phrases of the tree are known. -/
lemma exists_assemble_eq_ok_iff :
    (∃ d, Document.assemble table.resolver config search comment parsed = .ok d) ↔
      ∀ phrase, Condition.phrase phrase ∈ parsed.query.leaves →
        (table.resolve phrase).isSome = true := by
  rw [← errorOf?_eq_none_iff, Document.errorOf?_assemble, List.findSome?_eq_none_iff]
  simp only [SearchTree.mem_termConditions_iff]
  constructor
  · intro hnone phrase hphrase
    by_contra hunknown
    have hfault : (Condition.phrase phrase).fault? table.resolver = some (.unresolved phrase) :=
      fault?_eq_some_iff.mpr ⟨phrase, rfl, by simpa using hunknown, rfl⟩
    rw [hnone _ hphrase] at hfault
    cases hfault
  · intro hknown c hc
    rw [Option.eq_none_iff_forall_ne_some]
    intro e hfault
    obtain ⟨phrase, rfl, hunknown, _⟩ := fault?_eq_some_iff.mp hfault
    have hsome := hknown phrase hc
    rw [hunknown] at hsome
    cases hsome

end PresetTable

/-! ### Following suggestions -/

/-- A condition in which an unknown phrase is replaced by what the resolver suggests for it. -/
def Condition.corrected (resolver : Resolver) : Condition → Condition
  | .phrase text => .phrase ((Repair.correction resolver text).getD text)
  | c => c

/-- A tree in which unknown phrases are replaced by what the resolver suggests for them. -/
def SearchTree.corrected (resolver : Resolver) : SearchTree → SearchTree
  | leaf c => leaf (c.corrected resolver)
  | and l r => and (l.corrected resolver) (r.corrected resolver)
  | or l r => or (l.corrected resolver) (r.corrected resolver)

/-- Correcting a tree is correcting its leaves. -/
lemma SearchTree.leaves_corrected (resolver : Resolver) (t : SearchTree) :
    (t.corrected resolver).leaves = t.leaves.map (Condition.corrected resolver) := by
  induction t with
  | leaf c => rfl
  | and l r ihl ihr => rw [corrected, leaves, leaves, ihl, ihr, List.map_append]
  | or l r ihl ihr => rw [corrected, leaves, leaves, ihl, ihr, List.map_append]

/-- The phrases of a corrected tree come from its phrases. -/
lemma SearchTree.phrase_mem_leaves_corrected {resolver : Resolver} {t : SearchTree}
    {phrase : String} :
    Condition.phrase phrase ∈ (t.corrected resolver).leaves ↔
      ∃ text, Condition.phrase text ∈ t.leaves ∧
        (Repair.correction resolver text).getD text = phrase := by
  rw [leaves_corrected, List.mem_map]
  constructor
  · rintro ⟨c, hc, hphrase⟩
    cases c with
    | phrase text => exact ⟨text, hc, Condition.phrase.inj hphrase⟩
    | _ => cases hphrase
  · rintro ⟨text, htext, rfl⟩
    exact ⟨.phrase text, htext, rfl⟩

namespace PresetTable

/-- A phrase is corrected to what the table suggests for it, if the table does not know it. -/
lemma correction_of_resolve_eq_none {table : PresetTable} {text : String}
    (h : table.resolve text = none) :
    Repair.correction table.resolver text = table.suggest text := by
  have hresolve : table.resolver.resolve text = none := h
  rw [Repair.correction, hresolve]
  rfl

/-- What becomes of a phrase by correcting it is unknown only if the phrase is unknown and has no
suggestion. -/
lemma resolve_correction_eq_none_iff {table : PresetTable} {text : String} :
    table.resolve ((Repair.correction table.resolver text).getD text) = none ↔
      table.resolve text = none ∧ table.suggest text = none := by
  cases hmeaning : table.resolve text with
  | some meaning =>
    have hresolve : table.resolver.resolve text = some meaning := hmeaning
    simp [Repair.correction, hresolve, hmeaning]
  | none =>
    rw [correction_of_resolve_eq_none hmeaning]
    cases hname : table.suggest text with
    | none => simp [hmeaning]
    | some name =>
      have hknown : (table.resolve name).isSome = true := isSome_resolve_of_suggest hname
      simp [Option.isSome_iff_ne_none.mp hknown]

/-- Following the suggestions of a table makes a search compile, as far as there are any.  What a
table suggests is known to it; and with the unknown phrases of a tree replaced by what is suggested
for them, a document is assembled exactly when each phrase of the tree was known or had a
suggestion, and assembling fails with a phrase of the tree that was neither known nor had one
otherwise. -/
theorem assemble_corrected_iff_known_or_suggested (table : PresetTable) (config : Config)
    (search : String) (comment : Option String) (bounds : Bounds) (t : SearchTree) :
    (∀ phrase name, table.suggest phrase = some name → (table.resolve name).isSome = true) ∧
    ((∃ d, Document.assemble table.resolver config search comment
        ⟨t.corrected table.resolver, bounds⟩ = .ok d) ↔
      ∀ phrase, Condition.phrase phrase ∈ t.leaves →
        (table.resolve phrase).isSome = true ∨ (table.suggest phrase).isSome = true) ∧
    ((¬ ∀ phrase, Condition.phrase phrase ∈ t.leaves →
        (table.resolve phrase).isSome = true ∨ (table.suggest phrase).isSome = true) →
      ∃ phrase, Condition.phrase phrase ∈ t.leaves ∧ table.resolve phrase = none ∧
        table.suggest phrase = none ∧
        Document.assemble table.resolver config search comment
          ⟨t.corrected table.resolver, bounds⟩ = .error (.unresolved phrase)) := by
  have hok : (∃ d, Document.assemble table.resolver config search comment
        ⟨t.corrected table.resolver, bounds⟩ = .ok d) ↔
      ∀ phrase, Condition.phrase phrase ∈ t.leaves →
        (table.resolve phrase).isSome = true ∨ (table.suggest phrase).isSome = true := by
    rw [exists_assemble_eq_ok_iff]
    constructor
    · intro hknown phrase hphrase
      have hcorrected :=
        hknown _ (SearchTree.phrase_mem_leaves_corrected.mpr ⟨phrase, hphrase, rfl⟩)
      rw [Option.isSome_iff_ne_none, ne_eq, resolve_correction_eq_none_iff] at hcorrected
      rw [Option.isSome_iff_ne_none, Option.isSome_iff_ne_none]
      exact not_and_or.mp hcorrected
    · intro hknown phrase hphrase
      obtain ⟨text, htext, rfl⟩ := SearchTree.phrase_mem_leaves_corrected.mp hphrase
      have hcorrected := hknown text htext
      rw [Option.isSome_iff_ne_none, Option.isSome_iff_ne_none] at hcorrected
      rw [Option.isSome_iff_ne_none, ne_eq, resolve_correction_eq_none_iff]
      exact not_and_or.mpr hcorrected
  refine ⟨fun phrase name => isSome_resolve_of_suggest, hok, fun hnot => ?_⟩
  cases hassemble : Document.assemble table.resolver config search comment
      ⟨t.corrected table.resolver, bounds⟩ with
  | ok d => exact absurd (hok.mp ⟨d, hassemble⟩) hnot
  | error e =>
    obtain ⟨phrase, hphrase, hunknown, rfl⟩ := unresolved_of_assemble hassemble
    obtain ⟨text, htext, rfl⟩ := SearchTree.phrase_mem_leaves_corrected.mp hphrase
    obtain ⟨hresolve, hsuggest⟩ := resolve_correction_eq_none_iff.mp hunknown
    refine ⟨text, htext, hresolve, hsuggest, ?_⟩
    rw [correction_of_resolve_eq_none hresolve, hsuggest, Option.getD_none]

/-- A table with one preset. -/
def pubTable : PresetTable :=
  ⟨[⟨"Pub", ["Bar"], .ofList [("amenity", "pub")], none⟩]⟩

/-- A misspelled term is replaced by the name of its preset, which is known; beside it, a phrase
without a suggestion is the one that assembling fails with. -/
theorem assemble_corrected_iff_known_or_suggested_barr :
    pubTable.suggest "Barr" = some "Pub" ∧ (pubTable.resolve "Pub").isSome = true ∧
    Document.assemble pubTable.resolver {} "Barr or Library" none
      ⟨(SearchTree.or (.leaf (.phrase "Barr")) (.leaf (.phrase "Library"))).corrected
        pubTable.resolver, .global⟩ = .error (.unresolved "Library") := by
  obtain ⟨hknown, _, hfails⟩ := assemble_corrected_iff_known_or_suggested pubTable {}
    "Barr or Library" none .global (.or (.leaf (.phrase "Barr")) (.leaf (.phrase "Library")))
  have hbarr : pubTable.suggest "Barr" = some "Pub" := by
    decide +kernel
  have hlibrary : pubTable.resolve "Library" = none ∧ pubTable.suggest "Library" = none := by
    decide +kernel
  have hnot : ¬ ∀ phrase, Condition.phrase phrase ∈
      (SearchTree.or (.leaf (.phrase "Barr")) (.leaf (.phrase "Library"))).leaves →
        (pubTable.resolve phrase).isSome = true ∨ (pubTable.suggest phrase).isSome = true := by
    intro h
    simpa [hlibrary] using h "Library" (by simp [SearchTree.leaves])
  obtain ⟨phrase, hphrase, _, hsuggest, herror⟩ := hfails hnot
  have hcases : phrase = "Barr" ∨ phrase = "Library" := by
    simpa [SearchTree.leaves] using hphrase
  rcases hcases with rfl | rfl
  · simp [hbarr] at hsuggest
  · exact ⟨hbarr, hknown _ _ hbarr, herror⟩

end PresetTable

end TagSearch
