import Mathlib.Data.List.Infix
import Mathlib.Tactic.Common
import TagSearch.Proofs.LeafCopies
import TagSearch.Proofs.RepairAccount

/-!
# How many phrases a repair replaces

A repair looks for the phrases of a search in the order of its terms, each one behind the one found
before.  The terms hold a phrase once for each copy that `and` makes of its leaf, and in an order
that need not be the one of the text.  So the number of replacements is bounded by the number of
phrases in the terms and not by the number of phrases in the tree, and a phrase that stands in the
text where the order of the terms has gone past is left as it is.

Both effects need a copied leaf.  A tree has at most as many phrases replaced as it has leaves with
phrases, for all texts and resolvers, exactly when it copies none of these leaves; and when the
leaves to be corrected are not copied, and their phrases stand in the text in their order, each of
them is replaced once.

The loop is followed by what one step does to the text that is left: behind a phrase that was found,
the phrases that stand in order behind some place of it still do (`InOrder.exists_find?`).
-/

namespace TagSearch

namespace Text

/-! ### Phrases that stand in a text in order -/

/-- Phrases that stand in a text one behind the other, with any text before, between and behind
them. -/
inductive InOrder : List (List Char) → List Char → Prop
  | nil (text : List Char) : InOrder [] text
  | cons (before phrase : List Char) {phrases : List (List Char)} {after : List Char}
    (rest : InOrder phrases after) : InOrder (phrase :: phrases) (before ++ phrase ++ after)

/-- A phrase without quote characters. -/
def IsQuoteFree (phrase : List Char) : Prop :=
  ∀ c ∈ phrase, isQuote c = false

instance (phrase : List Char) : Decidable (IsQuoteFree phrase) :=
  List.decidableBAll (fun c => isQuote c = false) phrase

namespace InOrder

variable {phrases : List (List Char)} {phrase text : List Char}

/-- More text in front does not change the order. -/
lemma append_left (h : InOrder phrases text) (more : List Char) :
    InOrder phrases (more ++ text) := by
  cases h with
  | nil => exact .nil _
  | cons before phrase rest =>
    rw [← List.append_assoc, ← List.append_assoc]
    exact .cons (more ++ before) phrase rest

/-- A quote in front of the text belongs to no phrase without quotes. -/
lemma of_cons_quote {c : Char} (hc : isQuote c = true)
    (hfree : ∀ phrase ∈ phrases, IsQuoteFree phrase) (h : InOrder phrases (c :: text)) :
    InOrder phrases text := by
  induction phrases with
  | nil => exact .nil text
  | cons phrase phrases ih =>
    obtain ⟨hphrase, hphrases⟩ := List.forall_mem_cons.mp hfree
    generalize htext : c :: text = full at h
    cases h with
    | cons before _ rest =>
      cases before with
      | cons b before =>
        obtain ⟨_, rfl⟩ := List.cons.inj htext
        exact .cons before phrase rest
      | nil =>
        cases phrase with
        | cons p phrase =>
          obtain ⟨rfl, _⟩ := List.cons.inj htext
          exact absurd hc (Bool.eq_false_iff.mp (hphrase c List.mem_cons_self))
        | nil =>
          -- an empty phrase leaves the quote to the phrases behind it
          subst htext
          exact .cons [] [] (ih hphrases rest)

/-- Quotes in front of the text belong to no phrase without quotes. -/
lemma of_append_quotes {quotes : List Char} (hquotes : ∀ c ∈ quotes, isQuote c = true)
    (hfree : ∀ phrase ∈ phrases, IsQuoteFree phrase) (h : InOrder phrases (quotes ++ text)) :
    InOrder phrases text := by
  induction quotes with
  | nil => exact h
  | cons c quotes ih =>
    obtain ⟨hc, hquotes⟩ := List.forall_mem_cons.mp hquotes
    exact ih hquotes (of_cons_quote hc hfree h)

/-- Each of the phrases stands in the text. -/
lemma singleton_of_mem (h : InOrder phrases text) (hphrase : phrase ∈ phrases) :
    InOrder [phrase] text := by
  induction h with
  | nil => cases hphrase
  | @cons before first _ after rest ih =>
    rcases List.mem_cons.mp hphrase with rfl | hphrase
    · exact .cons before phrase (.nil after)
    · exact (ih hphrase).append_left (before ++ first)

end InOrder

/-- Behind the first occurrence of a phrase without quotes, nothing is missing of what follows any
place of the phrase, quotes in front of it apart. -/
lemma Occurrence.IsOf.suffix_or_eq_append {phrase before after : List Char} {o : Occurrence}
    (h : o.IsOf phrase (before ++ phrase ++ after)) (hbefore : o.before.length ≤ before.length)
    (hfree : IsQuoteFree phrase) :
    after <:+ o.after ∨ ∃ quotes, (∀ c ∈ quotes, isQuote c = true) ∧ after = quotes ++ o.after := by
  obtain ⟨htext, opening, closing, hopening, hclosing, hpiece⟩ := h
  rw [hpiece] at htext
  -- the place of the phrase lies behind what was skipped
  have hskipped : o.before <+: before ++ phrase ++ after :=
    ⟨opening ++ phrase ++ closing ++ o.after, by simp [htext]⟩
  have hplace : before <+: before ++ phrase ++ after :=
    ⟨phrase ++ after, (List.append_assoc before phrase after).symm⟩
  obtain ⟨gap, rfl⟩ := List.prefix_of_prefix_length_le hskipped hplace hbefore
  have hrest : gap ++ (phrase ++ after) = opening ++ (phrase ++ (closing ++ o.after)) := by
    simpa using htext
  by_cases hgap : opening.length + closing.length ≤ gap.length
  · left
    have hafter : after <:+ gap ++ (phrase ++ after) :=
      ⟨gap ++ phrase, List.append_assoc gap phrase after⟩
    have hleft : o.after <:+ gap ++ (phrase ++ after) :=
      ⟨opening ++ phrase ++ closing, by simp [hrest]⟩
    have hlength := congrArg List.length hrest
    simp only [List.length_append] at hlength
    exact List.suffix_of_suffix_length_le hafter hleft (by omega)
  · right
    rcases hopening with rfl | ⟨q, hq, rfl⟩
    · -- without a quote in front, the phrase was found just at its place
      have hclose := hclosing.length_le
      obtain rfl : gap = [] := List.length_eq_zero_iff.mp (by simp at hgap; omega)
      exact ⟨closing, hclosing.forall_mem, List.append_cancel_left hrest⟩
    · cases gap with
      | cons b gap =>
        have hclose := hclosing.length_le
        obtain rfl : gap = [] := List.length_eq_zero_iff.mp (by simp at hgap; omega)
        obtain ⟨_, hrest⟩ := List.cons.inj hrest
        exact ⟨closing, hclosing.forall_mem, List.append_cancel_left hrest⟩
      | nil =>
        -- a phrase that starts with the quote in front of it would hold a quote
        cases phrase with
        | cons p phrase =>
          obtain ⟨rfl, _⟩ := List.cons.inj hrest
          exact absurd hq (Bool.eq_false_iff.mp (hfree p List.mem_cons_self))
        | nil =>
          refine ⟨q :: closing, List.forall_mem_cons.mpr ⟨hq, hclosing.forall_mem⟩, ?_⟩
          simpa using hrest

/-- A phrase without quotes is found, and the phrases that stand in order behind it still do so in
the text behind the piece that was found. -/
lemma InOrder.exists_find? {phrase text : List Char} {phrases : List (List Char)}
    (h : InOrder (phrase :: phrases) text)
    (hfree : ∀ p ∈ phrase :: phrases, IsQuoteFree p) :
    ∃ o, Occurrence.find? phrase text = some o ∧ InOrder phrases o.after := by
  obtain ⟨hphrase, hfree⟩ := List.forall_mem_cons.mp hfree
  cases h with
  | @cons before _ _ after rest =>
    obtain ⟨o, ho, hof, hbefore⟩ := Occurrence.exists_find?_append before phrase after
    refine ⟨o, ho, ?_⟩
    rcases hof.suffix_or_eq_append hbefore hphrase with ⟨more, hmore⟩ | ⟨quotes, hquotes, rfl⟩
    · exact hmore ▸ rest.append_left more
    · exact rest.of_append_quotes hquotes hfree

end Text

namespace Repair

open Text

/-! ### The phrases that are to be replaced -/

/-- Whether a condition is an unknown phrase that has a suggestion. -/
def isCorrectableLeaf (resolver : Resolver) (c : Condition) : Bool :=
  c.phrase?.any (isCorrectable resolver)

/-- The unknown phrases at the leaves of a tree that have a suggestion, from left to right. -/
def correctablePhrases (resolver : Resolver) (t : SearchTree) : List String :=
  (t.leaves.filterMap Condition.phrase?).filter (isCorrectable resolver)

variable {resolver : Resolver}

/-- The unknown phrases with a suggestion are those of the conditions that are to be corrected. -/
lemma filter_isCorrectable_phrases (resolver : Resolver) (cs : List Condition) :
    (cs.filterMap Condition.phrase?).filter (isCorrectable resolver) =
      (cs.filter (isCorrectableLeaf resolver)).filterMap Condition.phrase? := by
  induction cs with
  | nil => rfl
  | cons c cs ih =>
    cases hc : c.phrase? with
    | none => simp [hc, isCorrectableLeaf, ih]
    | some phrase =>
      by_cases hphrase : isCorrectable resolver phrase = true
      · simp [hc, isCorrectableLeaf, ih, hphrase]
      · simp [hc, isCorrectableLeaf, ih, hphrase]

/-- There are as many corrections as conditions that are to be corrected. -/
lemma length_corrections_phrases (resolver : Resolver) (t : SearchTree) :
    (corrections resolver (phrases t)).length =
      t.termConditions.countP (isCorrectableLeaf resolver) := by
  have hphrases : (corrections resolver (phrases t)).length =
      ((phrases t).filter (isCorrectable resolver)).length := by
    rw [← map_fst_corrections, List.length_map]
  rw [hphrases, phrases, List.filter_filterMap, List.length_filterMap_eq_countP]
  refine List.countP_congr fun c _ => ?_
  rw [isCorrectableLeaf, Option.isSome_filter]

/-- Phrases to be corrected that are not copied stand in the terms as in the tree. -/
lemma filter_phrases_of_isUncopied {t : SearchTree}
    (h : t.IsUncopied (isCorrectableLeaf resolver)) :
    (phrases t).filter (isCorrectable resolver) = correctablePhrases resolver t := by
  rw [phrases, correctablePhrases, filter_isCorrectable_phrases, filter_isCorrectable_phrases,
    h.filter_termConditions]

/-! ### Counting replacements -/

/-- The number of phrases that were replaced. -/
def replacementCount (fragments : List Fragment) : Nat :=
  fragments.countP Fragment.isReplacement

variable {phrase suggestion : String} {cs : List (String × String)} {text : List Char}

/-- A phrase that is not found adds no replacement. -/
lemma replacementCount_splice_of_eq_none (h : Occurrence.find? phrase.toList text = none) :
    replacementCount (splice ((phrase, suggestion) :: cs) text) =
      replacementCount (splice cs text) := by
  rw [splice, h]

/-- A phrase that is found adds one replacement to those in the text behind it. -/
lemma replacementCount_splice_of_eq_some {o : Occurrence}
    (h : Occurrence.find? phrase.toList text = some o) :
    replacementCount (splice ((phrase, suggestion) :: cs) text) =
      replacementCount (splice cs o.after) + 1 := by
  rw [splice, h, replacementCount, List.countP_cons_of_neg (by simp [Fragment.isReplacement]),
    List.countP_cons_of_pos rfl]
  rfl

/-- There is at most one replacement for each correction. -/
lemma replacementCount_splice_le (cs : List (String × String)) (text : List Char) :
    replacementCount (splice cs text) ≤ cs.length := by
  induction cs generalizing text with
  | nil => exact Nat.le_refl 0
  | cons c cs ih =>
    obtain ⟨phrase, suggestion⟩ := c
    cases h : Occurrence.find? phrase.toList text with
    | none =>
      rw [replacementCount_splice_of_eq_none h]
      exact Nat.le_succ_of_le (ih text)
    | some o =>
      rw [replacementCount_splice_of_eq_some h]
      exact Nat.succ_le_succ (ih o.after)

/-- Corrections of phrases that stand in the text in order are all made. -/
lemma length_le_replacementCount_splice (more : List (String × String))
    (horder : InOrder (cs.map fun c => c.1.toList) text)
    (hfree : ∀ c ∈ cs, IsQuoteFree c.1.toList) :
    cs.length ≤ replacementCount (splice (cs ++ more) text) := by
  induction cs generalizing text with
  | nil => exact Nat.zero_le _
  | cons c cs ih =>
    obtain ⟨phrase, suggestion⟩ := c
    obtain ⟨o, ho, hrest⟩ := horder.exists_find? (List.forall_mem_map.mpr hfree)
    rw [List.cons_append, replacementCount_splice_of_eq_some ho]
    exact Nat.succ_le_succ (ih hrest fun c hc => hfree c (List.mem_cons_of_mem _ hc))

/-- A text in which phrases stand one behind the other with two blanks behind each, as many as there
are quotes that the search for a phrase may take with it. -/
def spacedOut (phrases : List String) : List Char :=
  phrases.flatMap fun phrase => phrase.toList ++ [' ', ' ']

/-- In a text that ends with the spaced out phrases, all corrections are made. -/
lemma replacementCount_splice_of_spacedOut_suffix
    (h : spacedOut (cs.map Prod.fst) <:+ text) :
    replacementCount (splice cs text) = cs.length := by
  induction cs generalizing text with
  | nil => rfl
  | cons c cs ih =>
    obtain ⟨phrase, suggestion⟩ := c
    obtain ⟨before, rfl⟩ := h
    have htext : before ++ spacedOut (((phrase, suggestion) :: cs).map Prod.fst) =
        before ++ phrase.toList ++ ([' ', ' '] ++ spacedOut (cs.map Prod.fst)) := by
      simp [spacedOut]
    obtain ⟨o, ho, hof, hbefore⟩ := Occurrence.exists_find?_append before phrase.toList
      ([' ', ' '] ++ spacedOut (cs.map Prod.fst))
    rw [htext, replacementCount_splice_of_eq_some ho, List.length_cons]
    refine congrArg Nat.succ (ih ?_)
    -- the piece that was found ends before the phrases that follow
    have hpiece := hof.length_piece_le
    have hsplit := hof.1
    have hlength := congrArg List.length hsplit
    simp only [List.length_append, List.length_cons, List.length_nil] at hlength
    have hrest : spacedOut (cs.map Prod.fst) <:+
        before ++ phrase.toList ++ ([' ', ' '] ++ spacedOut (cs.map Prod.fst)) :=
      ⟨before ++ phrase.toList ++ [' ', ' '], by simp⟩
    have hafter : o.after <:+
        before ++ phrase.toList ++ ([' ', ' '] ++ spacedOut (cs.map Prod.fst)) :=
      ⟨o.before ++ o.piece, hsplit.symm⟩
    exact List.suffix_of_suffix_length_le hrest hafter (by omega)

/-! ### Replacements and leaves -/

/-- The fragments come out of a repair of some search that was parsed to the tree `t`. -/
def IsRepairOf (t : SearchTree) (resolver : Resolver) (fragments : List Fragment) : Prop :=
  ∃ (ε : Type) (parse : String → Except ε ParsedSearch) (search : String) (bounds : Bounds),
    parse search = .ok ⟨t, bounds⟩ ∧ repairParsedBy resolver parse search = some fragments

/-- A repair replaces at most the phrases to be corrected that the terms hold. -/
lemma IsRepairOf.replacementCount_le {t : SearchTree} {fragments : List Fragment}
    (h : IsRepairOf t resolver fragments) :
    replacementCount fragments ≤ t.termConditions.countP (isCorrectableLeaf resolver) := by
  obtain ⟨ε, parse, search, bounds, hparse, hrepair⟩ := h
  obtain ⟨parsed, hparsed, rfl, _⟩ := repairParsedBy_eq_some_iff.mp hrepair
  obtain rfl : ⟨t, bounds⟩ = parsed := Except.ok.inj (hparse.symm.trans hparsed)
  rw [← length_corrections_phrases]
  exact replacementCount_splice_le _ _

/-- The resolver that knows no phrase and suggests each one for itself. -/
def suggestSame : Resolver where
  resolve _ := none
  suggest := some

/-- For every tree with a phrase there is a text in which all phrases of the terms are replaced. -/
lemma exists_isRepairOf_suggestSame {t : SearchTree}
    (h : 0 < t.termConditions.countP Condition.isPhrase) :
    ∃ fragments, IsRepairOf t suggestSame fragments ∧
      replacementCount fragments = t.termConditions.countP Condition.isPhrase := by
  have hleaf : isCorrectableLeaf suggestSame = Condition.isPhrase := by
    funext c
    unfold isCorrectableLeaf Condition.isPhrase
    cases c.phrase? <;> rfl
  have hcorrections : (corrections suggestSame (phrases t)).map Prod.fst = phrases t := by
    rw [map_fst_corrections]
    exact List.filter_eq_self.mpr fun _ _ => rfl
  have hcount : replacementCount
      (splice (corrections suggestSame (phrases t)) (spacedOut (phrases t))) =
        t.termConditions.countP Condition.isPhrase := by
    rw [replacementCount_splice_of_spacedOut_suffix (by rw [hcorrections]),
      length_corrections_phrases, hleaf]
  refine ⟨_, ⟨Unit, fun _ => .ok ⟨t, .global⟩, String.ofList (spacedOut (phrases t)), .global, rfl,
    repairParsedBy_eq_some_iff.mpr ⟨_, rfl, rfl, ?_⟩⟩, ?_⟩
  · rw [List.any_eq_true, ← List.countP_pos_iff, String.toList_ofList]
    exact h.trans_eq hcount.symm
  · rw [String.toList_ofList]
    exact hcount

/-- A repair replaces at most the phrases to be corrected that the terms of the search hold.  That
it replaces no more phrases than the tree has at its leaves, whatever the text and the resolver, is
so exactly when the tree copies none of these leaves. -/
theorem forall_replacementCount_le_iff_isUncopied (t : SearchTree) :
    (∀ resolver fragments, IsRepairOf t resolver fragments →
      replacementCount fragments ≤ t.termConditions.countP (isCorrectableLeaf resolver)) ∧
    ((∀ resolver fragments, IsRepairOf t resolver fragments →
      replacementCount fragments ≤ t.leaves.countP Condition.isPhrase) ↔
        t.IsUncopied Condition.isPhrase) := by
  refine ⟨fun resolver fragments h => h.replacementCount_le, ?_⟩
  rw [SearchTree.isUncopied_iff_countP_eq]
  constructor
  · intro h
    refine Nat.le_antisymm ?_ (SearchTree.countP_leaves_le _ t)
    rcases Nat.eq_zero_or_pos (t.termConditions.countP Condition.isPhrase) with hzero | hpos
    · rw [hzero]
      exact Nat.zero_le _
    · obtain ⟨fragments, hrepair, hcount⟩ := exists_isRepairOf_suggestSame hpos
      exact hcount ▸ h suggestSame fragments hrepair
  · intro h resolver fragments hrepair
    have hleaf : ∀ c ∈ t.termConditions, isCorrectableLeaf resolver c = true →
        Condition.isPhrase c = true := by
      intro c _ hc
      unfold isCorrectableLeaf at hc
      unfold Condition.isPhrase
      cases hphrase : c.phrase? with
      | none => simp [hphrase] at hc
      | some phrase => rfl
    calc replacementCount fragments
        ≤ t.termConditions.countP (isCorrectableLeaf resolver) := hrepair.replacementCount_le
      _ ≤ t.termConditions.countP Condition.isPhrase := List.countP_mono_left hleaf
      _ = t.leaves.countP Condition.isPhrase := h

/-- A phrase that was searched for once, together with either of two other conditions, is replaced
twice: once more in the value of a tag, which is no phrase. -/
theorem not_forall_replacementCount_le :
    ¬ ∀ (t : SearchTree) (resolver : Resolver) (fragments : List Fragment),
      IsRepairOf t resolver fragments →
        replacementCount fragments ≤ t.leaves.countP Condition.isPhrase := by
  intro h
  have hrepair : repairParsedBy (.ofLists [] [("Cafee", "Cafe")])
      (fun _ => (.ok ⟨.and (.leaf (.phrase "Cafee"))
        (.or (.leaf (.equals "name" "Cafee")) (.leaf (.hasKey "shop"))), .global⟩ :
          Except Unit ParsedSearch))
      "Cafee and (name=Cafee or shop=*)" =
        some [.text "", .replacement "Cafe", .text " and (name=", .replacement "Cafe",
          .text " or shop=*)"] := by
    decide +kernel
  have hle := h _ _ _ ⟨Unit, _, _, .global, rfl, hrepair⟩
  exact absurd hle (by decide)

/-! ### Phrases in the order of the text -/

/-- The phrases to be corrected are the same in the terms and at the leaves, apart from copies. -/
lemma mem_filter_phrases_iff {t : SearchTree} {phrase : String} :
    phrase ∈ (phrases t).filter (isCorrectable resolver) ↔
      phrase ∈ correctablePhrases resolver t := by
  simp only [phrases, correctablePhrases, List.mem_filter, List.mem_filterMap,
    SearchTree.mem_termConditions_iff]

/-- The phrases that come first in the order of the terms are all replaced, if they stand in the
text in this order. -/
lemma length_le_replacementCount_of_inOrder {first phrases : List String}
    (hfirst : first <+: phrases.filter (isCorrectable resolver))
    (horder : InOrder (first.map String.toList) text)
    (hfree : ∀ phrase ∈ first, IsQuoteFree phrase.toList) :
    first.length ≤ replacementCount (splice (corrections resolver phrases) text) := by
  rw [← map_fst_corrections] at hfirst
  obtain ⟨cs, ⟨more, hmore⟩, rfl⟩ := List.prefix_map_iff.mp hfirst
  rw [← hmore, List.length_map]
  refine length_le_replacementCount_splice more ?_ fun c hc => hfree c.1 (List.mem_map_of_mem hc)
  rwa [List.map_map] at horder

/-- The phrases of a search are all repaired when they stand in its text in their order and their
leaves are not copied; each of them is then replaced once.  Without any condition on the leaves, a
search with a phrase to be corrected is repaired, and those phrases that come first in the order of
the terms are all replaced if they stand in the text in this order. -/
theorem exists_repair_of_inOrder {ε : Type} {parse : String → Except ε ParsedSearch}
    {search : String} {parsed : ParsedSearch} (hparse : parse search = .ok parsed)
    (hne : correctablePhrases resolver parsed.query ≠ [])
    (hfree : ∀ phrase ∈ correctablePhrases resolver parsed.query, IsQuoteFree phrase.toList)
    (horder : InOrder ((correctablePhrases resolver parsed.query).map String.toList)
      search.toList) :
    ∃ fragments, repairParsedBy resolver parse search = some fragments ∧
      (∀ first, first <+: (phrases parsed.query).filter (isCorrectable resolver) →
        InOrder (first.map String.toList) search.toList →
          first.length ≤ replacementCount fragments) ∧
      (parsed.query.IsUncopied (isCorrectableLeaf resolver) →
        replacementCount fragments = (correctablePhrases resolver parsed.query).length) := by
  have hreplaced : ∀ first, first <+: (phrases parsed.query).filter (isCorrectable resolver) →
      InOrder (first.map String.toList) search.toList →
        first.length ≤ replacementCount
          (splice (corrections resolver (phrases parsed.query)) search.toList) := by
    intro first hfirst hstand
    refine length_le_replacementCount_of_inOrder hfirst hstand fun phrase hphrase => ?_
    exact hfree phrase (mem_filter_phrases_iff.mp (hfirst.subset hphrase))
  -- the very first phrase that is looked for stands somewhere in the text
  have hpos : 0 < replacementCount
      (splice (corrections resolver (phrases parsed.query)) search.toList) := by
    obtain ⟨phrase, hphrase⟩ := List.exists_mem_of_ne_nil _ hne
    obtain ⟨first, rest, hterms⟩ := List.exists_cons_of_ne_nil
      (List.ne_nil_of_mem (mem_filter_phrases_iff.mpr hphrase))
    have hmem : first ∈ correctablePhrases resolver parsed.query :=
      mem_filter_phrases_iff.mp (hterms ▸ List.mem_cons_self)
    exact hreplaced [first] (hterms ▸ ⟨rest, rfl⟩)
      (horder.singleton_of_mem (List.mem_map_of_mem hmem))
  refine ⟨_, repairParsedBy_eq_some_iff.mpr ⟨parsed, hparse, rfl, ?_⟩, hreplaced,
    fun huncopied => ?_⟩
  · rw [List.any_eq_true, ← List.countP_pos_iff]
    exact hpos
  · have hphrases := filter_phrases_of_isUncopied huncopied
    refine Nat.le_antisymm ?_ (hreplaced _ (hphrases ▸ List.prefix_refl _) horder)
    calc replacementCount (splice (corrections resolver (phrases parsed.query)) search.toList)
        ≤ (corrections resolver (phrases parsed.query)).length := replacementCount_splice_le _ _
      _ = (correctablePhrases resolver parsed.query).length := by
        rw [← hphrases, ← map_fst_corrections, List.length_map]

/-- Two misspelled phrases in quotes, with a known phrase between them, one of them joined with a
condition that has a single term. -/
theorem exists_repair_of_inOrder_drinkngWater :
    ∃ fragments, repairParsedBy
        (.ofLists [("Bar", ⟨[.equals "amenity" "bar"], .all⟩)]
          [("Bar", "Pub"), ("Cafee", "Cafe"), ("Drinkng Water", "Drinking Water")])
        (fun _ => (.ok ⟨.or (.leaf (.phrase "Cafee")) (.or (.leaf (.phrase "Bar"))
          (.and (.leaf (.phrase "Drinkng Water")) (.leaf (.hasKey "fee")))), .global⟩ :
            Except Unit ParsedSearch))
        "'Cafee' or Bar or \"Drinkng Water\" and fee=*" = some fragments ∧
      replacementCount fragments = 2 := by
  have htext : "'Cafee' or Bar or \"Drinkng Water\" and fee=*".toList =
      "'".toList ++ "Cafee".toList ++
        ("' or Bar or \"".toList ++ "Drinkng Water".toList ++ "\" and fee=*".toList) := by
    decide +kernel
  have huncopied : SearchTree.IsUncopied
      (isCorrectableLeaf (.ofLists [("Bar", ⟨[.equals "amenity" "bar"], .all⟩)]
        [("Bar", "Pub"), ("Cafee", "Cafe"), ("Drinkng Water", "Drinking Water")]))
      (.or (.leaf (.phrase "Cafee")) (.or (.leaf (.phrase "Bar"))
        (.and (.leaf (.phrase "Drinkng Water")) (.leaf (.hasKey "fee"))))) := by
    decide +kernel
  refine Exists.imp (fun fragments h => ⟨h.1, (h.2.2 huncopied).trans (by decide +kernel)⟩)
    (exists_repair_of_inOrder rfl (by decide +kernel) (by decide +kernel) ?_)
  rw [htext]
  exact .cons _ _ (.cons _ _ (.nil _))

/-- Of three misspelled phrases that stand in the text in their order, the second one is left as it
is: it belongs to the second term, and the phrase behind it to the first one too. -/
theorem not_forall_length_le_replacementCount :
    ¬ ∀ (resolver : Resolver) (parse : String → Except Unit ParsedSearch) (search : String)
      (parsed : ParsedSearch), parse search = .ok parsed →
      correctablePhrases resolver parsed.query ≠ [] →
      (∀ phrase ∈ correctablePhrases resolver parsed.query, IsQuoteFree phrase.toList) →
      InOrder ((correctablePhrases resolver parsed.query).map String.toList) search.toList →
      ∃ fragments, repairParsedBy resolver parse search = some fragments ∧
        (correctablePhrases resolver parsed.query).length ≤ replacementCount fragments := by
  intro h
  have htext : "(Cafee or Bra) and Pubb".toList = "(".toList ++ "Cafee".toList ++
      (" or ".toList ++ "Bra".toList ++ (") and ".toList ++ "Pubb".toList ++ [])) := by
    decide +kernel
  obtain ⟨fragments, hrepair, hcount⟩ := h
    (.ofLists [] [("Cafee", "Cafe"), ("Bra", "Bar"), ("Pubb", "Pub")])
    (fun _ => .ok ⟨.and (.or (.leaf (.phrase "Cafee")) (.leaf (.phrase "Bra")))
      (.leaf (.phrase "Pubb")), .global⟩)
    "(Cafee or Bra) and Pubb" _ rfl (by decide +kernel) (by decide +kernel)
    (by rw [htext]; exact .cons _ _ (.cons _ _ (.cons _ _ (.nil _))))
  have hfragments : some fragments = some [.text "(", .replacement "Cafe",
      .text " or Bra) and ", .replacement "Pub", .text ""] :=
    hrepair.symm.trans (by decide +kernel)
  obtain rfl := Option.some.inj hfragments
  exact absurd hcount (by decide +kernel)

end Repair

end TagSearch
