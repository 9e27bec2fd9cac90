import Mathlib.Data.List.Infix
import Mathlib.Tactic.Common
import TagSearch.Proofs.Occurrence
import TagSearch.Repair

/-!
# A repair accounts for the whole search

Repairing a search neither loses nor invents text.  This is said by an *account*: a list of
attempts, one for each unknown phrase that has a suggestion, in the order in which they are looked
for.  An attempt records the text that was passed over and the piece that was taken for the phrase,
or that the phrase was not found.  The pieces, the texts between them and the remaining text make up
the search; the fragments are the same texts with the suggestions in place of the pieces.

`Accounts` is the invariant of the loop, stated for the remaining text and the phrases still to be
looked for; `accounts_of_find?_eq_none` and `accounts_of_find?_eq_some` are its two steps.
-/

namespace TagSearch.Repair

open Text

/-! ### Unknown phrases with a suggestion -/

/-- Whether a phrase is unknown to a resolver that has a suggestion for it. -/
def isCorrectable (resolver : Resolver) (phrase : String) : Bool :=
  (resolver.resolve phrase).isNone && (resolver.suggest phrase).isSome

/-- The suggestion for a phrase, if it is unknown. -/
def correction (resolver : Resolver) (phrase : String) : Option String :=
  match resolver.resolve phrase with
  | some _ => none
  | none => resolver.suggest phrase

/-- The unknown phrases that have a suggestion, each with its suggestion. -/
def corrections (resolver : Resolver) (phrases : List String) : List (String × String) :=
  phrases.filterMap fun phrase => (correction resolver phrase).map (phrase, ·)

/-- A phrase has a correction exactly when it is unknown and has a suggestion. -/
lemma isSome_correction (resolver : Resolver) (phrase : String) :
    (correction resolver phrase).isSome = isCorrectable resolver phrase := by
  unfold correction isCorrectable
  cases resolver.resolve phrase <;> simp

/-- A correction is the suggestion of the resolver. -/
lemma suggest_of_correction {resolver : Resolver} {phrase suggestion : String}
    (h : correction resolver phrase = some suggestion) :
    resolver.suggest phrase = some suggestion := by
  unfold correction at h
  split at h
  · cases h
  · exact h

/-- Collecting corrections without effects. -/
lemma correctionsWith_pure (resolver : Resolver) (phrases : List String) :
    Id.run (correctionsWith (fun phrase => pure (resolver.resolve phrase))
      (fun phrase => pure (resolver.suggest phrase)) phrases) = corrections resolver phrases := by
  induction phrases with
  | nil => rfl
  | cons phrase phrases ih =>
    have hone : Id.run (correctionWith (fun phrase => pure (resolver.resolve phrase))
        (fun phrase => pure (resolver.suggest phrase)) phrase) = correction resolver phrase := by
      unfold correctionWith correction
      rw [pure_bind]
      cases resolver.resolve phrase <;> rfl
    simp only [correctionsWith, Id.run_bind, Id.run_pure, ih, hone]
    unfold corrections
    rw [List.filterMap_cons]
    cases correction resolver phrase <;> rfl

/-- The phrases with corrections are the unknown ones that have a suggestion. -/
lemma map_fst_corrections (resolver : Resolver) (phrases : List String) :
    (corrections resolver phrases).map Prod.fst = phrases.filter (isCorrectable resolver) := by
  induction phrases with
  | nil => rfl
  | cons phrase phrases ih =>
    rw [corrections, List.filterMap_cons, List.filter_cons, ← isSome_correction, ← ih]
    cases correction resolver phrase <;> rfl

/-- The second component of a correction is the suggestion for the first. -/
lemma suggest_of_mem_corrections {resolver : Resolver} {phrases : List String}
    {c : String × String} (h : c ∈ corrections resolver phrases) :
    resolver.suggest c.1 = some c.2 := by
  obtain ⟨phrase, _, hc⟩ := List.mem_filterMap.mp h
  obtain ⟨suggestion, hs, rfl⟩ := Option.map_eq_some_iff.mp hc
  exact suggest_of_correction hs

/-! ### Attempts -/

/-- A piece of a search that was taken for a phrase, and the text that was passed over before it. -/
structure Match where
  skipped : List Char
  piece : List Char

/-- A phrase that was looked for, what is suggested for it, and where it was found, if it was. -/
structure Attempt where
  phrase : String
  suggestion : String
  found : Option Match

namespace Attempt

/-- The part of the search that an attempt uses up. -/
def consumed (a : Attempt) : List Char :=
  match a.found with
  | some m => m.skipped ++ m.piece
  | none => []

/-- The fragments that an attempt gives. -/
def fragments (a : Attempt) : List Fragment :=
  match a.found with
  | some m => [.text (String.ofList m.skipped), .replacement (quoteToken a.suggestion)]
  | none => []

end Attempt

/-- The phrase of an attempt, with at most one quote on either side, is the piece it has found. -/
def IsQuoted (phrase : String) (piece : List Char) : Prop :=
  ∃ opening closing, IsOptionalQuote opening ∧ IsOptionalQuote closing ∧
    piece = opening ++ phrase.toList ++ closing

/-- Attempts that account for a text: they are made for the given corrections in order, the text is
what they use up followed by the tail, each found piece is its phrase up to quotes, and each phrase
that was not found does not stand in the text that was left when it was looked for. -/
structure Accounts (corrections : List (String × String)) (text : List Char)
    (attempts : List Attempt) (tail : List Char) : Prop where
  tried : attempts.map (fun a => (a.phrase, a.suggestion)) = corrections
  text_eq : text = attempts.flatMap Attempt.consumed ++ tail
  found : ∀ a ∈ attempts, ∀ m, a.found = some m → IsQuoted a.phrase m.piece
  missed : ∀ earlier a later rest, attempts = earlier ++ a :: later → a.found = none →
    text = earlier.flatMap Attempt.consumed ++ rest → ¬ a.phrase.toList <:+: rest

/-! ### The loop -/

/-- With nothing to correct, the whole text is left. -/
lemma accounts_nil (text : List Char) : Accounts [] text [] text where
  tried := rfl
  text_eq := rfl
  found := by
    intro a ha
    cases ha
  missed := by
    intro earlier a later rest h
    simp at h

variable {phrase suggestion : String} {cs : List (String × String)} {text tail : List Char}
  {attempts : List Attempt}

/-- A phrase that is not found leaves the text as it is. -/
lemma accounts_of_find?_eq_none (h : Occurrence.find? phrase.toList text = none)
    (hrest : Accounts cs text attempts tail) :
    Accounts ((phrase, suggestion) :: cs) text (⟨phrase, suggestion, none⟩ :: attempts) tail where
  tried := by rw [List.map_cons, hrest.tried]
  text_eq := hrest.text_eq
  found := by
    intro a ha m hm
    rcases List.mem_cons.mp ha with rfl | ha
    · cases hm
    · exact hrest.found a ha m hm
  missed := by
    intro earlier a later rest hsplit hnone htext
    cases earlier with
    | nil =>
      obtain ⟨rfl, _⟩ := List.cons.inj hsplit
      rw [List.flatMap_nil, List.nil_append] at htext
      exact htext ▸ Occurrence.find?_eq_none_iff.mp h
    | cons first earlier =>
      obtain ⟨rfl, hlater⟩ := List.cons.inj hsplit
      exact hrest.missed earlier a later rest hlater hnone htext

/-- A phrase that is found uses the text up to the end of its piece. -/
lemma accounts_of_find?_eq_some {o : Occurrence}
    (h : Occurrence.find? phrase.toList text = some o)
    (hrest : Accounts cs o.after attempts tail) :
    Accounts ((phrase, suggestion) :: cs) text
      (⟨phrase, suggestion, some ⟨o.before, o.piece⟩⟩ :: attempts) tail where
  tried := by rw [List.map_cons, hrest.tried]
  text_eq := by
    rw [(Occurrence.isOf_of_find? h).1, hrest.text_eq]
    simp [Attempt.consumed]
  found := by
    intro a ha m hm
    rcases List.mem_cons.mp ha with rfl | ha
    · cases hm
      exact (Occurrence.isOf_of_find? h).2
    · exact hrest.found a ha m hm
  missed := by
    intro earlier a later rest hsplit hnone htext
    cases earlier with
    | nil =>
      obtain ⟨rfl, _⟩ := List.cons.inj hsplit
      cases hnone
    | cons first earlier =>
      obtain ⟨rfl, hlater⟩ := List.cons.inj hsplit
      -- what the first attempt has used up is the same on both sides
      have hcancel : o.before ++ o.piece ++ o.after =
          o.before ++ o.piece ++ (earlier.flatMap Attempt.consumed ++ rest) := by
        rw [← (Occurrence.isOf_of_find? h).1, htext, List.flatMap_cons, List.append_assoc]
        rfl
      exact hrest.missed earlier a later rest hlater hnone (List.append_cancel_left hcancel)

/-- The loop has an account of its text, and its fragments are those of the account. -/
lemma exists_accounts_splice (cs : List (String × String)) (text : List Char) :
    ∃ attempts tail, Accounts cs text attempts tail ∧
      splice cs text = attempts.flatMap Attempt.fragments ++ [.text (String.ofList tail)] := by
  induction cs generalizing text with
  | nil => exact ⟨[], text, accounts_nil text, rfl⟩
  | cons c cs ih =>
    obtain ⟨phrase, suggestion⟩ := c
    cases h : Occurrence.find? phrase.toList text with
    | none =>
      obtain ⟨attempts, tail, hrest, hsplice⟩ := ih text
      refine ⟨_, tail, accounts_of_find?_eq_none h hrest, ?_⟩
      rw [splice, h]
      exact hsplice
    | some o =>
      obtain ⟨attempts, tail, hrest, hsplice⟩ := ih o.after
      refine ⟨_, tail, accounts_of_find?_eq_some h hrest, ?_⟩
      rw [splice, h, List.flatMap_cons]
      simp [Attempt.fragments, hsplice]

/-! ### The repaired search -/

/-- Fragments that alternate between kept text and replacements, with kept text at both ends. -/
inductive Alternate : List Fragment → Prop
  | last (s : String) : Alternate [.text s]
  | more (s r : String) {fragments : List Fragment} (rest : Alternate fragments) :
    Alternate (.text s :: .replacement r :: fragments)

/-- The fragments of attempts, followed by the text that is left, alternate. -/
lemma alternate_flatMap_fragments (attempts : List Attempt) (s : String) :
    Alternate (attempts.flatMap Attempt.fragments ++ [.text s]) := by
  induction attempts with
  | nil => exact .last s
  | cons a attempts ih =>
    obtain ⟨phrase, suggestion, found⟩ := a
    cases found with
    | none => exact ih
    | some m => exact .more _ _ ih

/-- A search is repaired when it can be parsed and a suggestion was put in somewhere. -/
lemma repairParsedBy_eq_some_iff {ε : Type} {resolver : Resolver}
    {parse : String → Except ε ParsedSearch} {search : String} {fragments : List Fragment} :
    repairParsedBy resolver parse search = some fragments ↔
      ∃ parsed, parse search = .ok parsed ∧
        fragments = splice (corrections resolver (phrases parsed.query)) search.toList ∧
        fragments.any Fragment.isReplacement = true := by
  unfold repairParsedBy repairWith
  cases hparse : parse search with
  | error e => simp
  | ok parsed =>
    simp only [Id.run_bind, Id.run_pure, correctionsWith_pure, fragments?,
      Except.ok.injEq, exists_eq_left']
    constructor
    · intro h
      split at h
      next hany =>
        obtain rfl := Option.some.inj h
        exact ⟨rfl, hany⟩
      next => cases h
    · rintro ⟨rfl, hany⟩
      exact if_pos hany

/-- A repair loses and invents no text.  Its fragments alternate and hold a replacement; there are
attempts for the unknown phrases with a suggestion, in the order of the terms, such that the search
is the texts kept with the found pieces between them, the fragments are these texts with the quoted
suggestions between them, each found piece is its phrase with at most one quote on either side, and
each phrase that was not found does not stand in the part of the search that was left for it. -/
theorem repair_accounts_for_search {ε : Type} {resolver : Resolver}
    {parse : String → Except ε ParsedSearch} {search : String} {fragments : List Fragment}
    (h : repairParsedBy resolver parse search = some fragments) :
    Alternate fragments ∧ (∃ s, Fragment.replacement s ∈ fragments) ∧
    ∃ parsed attempts tail, parse search = .ok parsed ∧
      attempts.map Attempt.phrase = (phrases parsed.query).filter (isCorrectable resolver) ∧
      List.Sublist ((attempts.filter fun a => a.found.isSome).map Attempt.phrase)
        ((phrases parsed.query).filter (isCorrectable resolver)) ∧
      (∀ a ∈ attempts, resolver.suggest a.phrase = some a.suggestion) ∧
      fragments = attempts.flatMap Attempt.fragments ++ [.text (String.ofList tail)] ∧
      search.toList = attempts.flatMap Attempt.consumed ++ tail ∧
      (∀ a ∈ attempts, ∀ m, a.found = some m → IsQuoted a.phrase m.piece) ∧
      ∀ earlier a later rest, attempts = earlier ++ a :: later → a.found = none →
        search.toList = earlier.flatMap Attempt.consumed ++ rest →
        ¬ a.phrase.toList <:+: rest := by
  obtain ⟨parsed, hparse, hsplice, hany⟩ := repairParsedBy_eq_some_iff.mp h
  obtain ⟨attempts, tail, hacc, hfragments⟩ :=
    exists_accounts_splice (corrections resolver (phrases parsed.query)) search.toList
  rw [← hsplice] at hfragments
  have hphrases : attempts.map Attempt.phrase =
      (phrases parsed.query).filter (isCorrectable resolver) := by
    rw [← map_fst_corrections, ← hacc.tried, List.map_map]
    rfl
  have hreplacement : ∃ s, Fragment.replacement s ∈ fragments := by
    obtain ⟨f, hf, hrep⟩ := List.any_eq_true.mp hany
    cases f with
    | text s => cases hrep
    | replacement s => exact ⟨s, hf⟩
  have hsuggest : ∀ a ∈ attempts, resolver.suggest a.phrase = some a.suggestion := by
    intro a ha
    have hmem : (a.phrase, a.suggestion) ∈ corrections resolver (phrases parsed.query) := by
      rw [← hacc.tried]
      exact List.mem_map_of_mem ha
    exact suggest_of_mem_corrections hmem
  refine ⟨hfragments ▸ alternate_flatMap_fragments attempts _, hreplacement, parsed, attempts, tail,
    hparse, hphrases, ?_, hsuggest, hfragments, hacc.text_eq, hacc.found, hacc.missed⟩
  rw [← hphrases]
  exact List.filter_sublist.map Attempt.phrase

/-- A search with a phrase that is known, a misspelled phrase in quotes, and one that stands before
the place where it is looked for. -/
theorem repair_accounts_for_search_drinkngWater :
    ∃ fragments, repairParsedBy
        (.ofLists [("Bar", ⟨[.equals "amenity" "bar"], .all⟩)]
          [("Bar", "Pub"), ("Cafee", "Cafe"), ("Drinkng Water", "Drinking Water")])
        (fun _ => (.ok ⟨.or (.leaf (.phrase "Bar")) (.or (.leaf (.phrase "Drinkng Water"))
          (.leaf (.phrase "Cafee"))), .global⟩ : Except Unit ParsedSearch))
        "Cafee or Bar or 'Drinkng Water\"" = some fragments ∧
      Alternate fragments ∧ (∃ s, Fragment.replacement s ∈ fragments) ∧
      ∃ (attempts : List Attempt) (tail : List Char),
        attempts.map Attempt.phrase = ["Drinkng Water", "Cafee"] ∧
        fragments = attempts.flatMap Attempt.fragments ++ [.text (String.ofList tail)] ∧
        "Cafee or Bar or 'Drinkng Water\"".toList = attempts.flatMap Attempt.consumed ++ tail := by
  generalize h : repairParsedBy _ _ _ = result
  have hresult : result = some [.text "Cafee or Bar or ", .replacement "\"Drinking Water\"",
      .text ""] := by
    rw [← h]
    decide +kernel
  subst hresult
  obtain ⟨halternate, hreplacement, parsed, attempts, tail, hparse, hphrases, _, _, hfragments,
    htext, _, _⟩ := repair_accounts_for_search h
  cases hparse
  exact ⟨_, rfl, halternate, hreplacement, attempts, tail, hphrases.trans (by decide +kernel),
    hfragments, htext⟩

end TagSearch.Repair
