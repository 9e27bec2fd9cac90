import Mathlib.Data.List.Infix
import Mathlib.Tactic.Common
import TagSearch.Text.Occurrence

/-!
# What the search for a phrase finds

A *reading* of a text is a way to see a phrase in it, with at most one quote character on either
side of the phrase (`Reading`).  A text may have many readings of one phrase: the phrase may stand
in it several times and overlap itself, it may begin or end with quotes of its own, and an empty
phrase stands everywhere.

Nothing is found exactly when the phrase does not stand in the text at all
(`Occurrence.find?_eq_none_iff`): the optional quotes never hide a phrase.  What is found belongs to
a reading that starts as early as any and takes the quotes it can (`Reading.IsLeftmost`,
`Reading.IsGreedy`), and there is only one such reading (`Reading.IsGreedy.unique`).
-/

namespace TagSearch.Text

/-! ### Parts of a text -/

/-- A text starts with a phrase when it is the phrase and what follows. -/
lemma afterStart?_eq_some_iff {phrase text rest : List Char} :
    afterStart? phrase text = some rest ↔ text = phrase ++ rest := by
  induction phrase generalizing text with
  | nil => simp [afterStart?]
  | cons p phrase ih =>
    cases text with
    | nil => simp [afterStart?]
    | cons c text =>
      rw [afterStart?, List.cons_append, List.cons.injEq]
      by_cases h : p = c
      · rw [if_pos h, ih]
        exact ⟨fun ht => ⟨h.symm, ht⟩, fun ht => ht.2⟩
      · rw [if_neg h]
        constructor
        · intro ht
          cases ht
        · intro ht
          exact absurd ht.1.symm h

/-- Nothing follows a phrase that the text does not start with. -/
lemma afterStart?_eq_none_iff {phrase text : List Char} :
    afterStart? phrase text = none ↔ ¬ phrase <+: text := by
  rw [Option.eq_none_iff_forall_ne_some]
  constructor
  · rintro h ⟨rest, hrest⟩
    exact h rest (afterStart?_eq_some_iff.mpr hrest.symm)
  · intro h rest hrest
    exact h ⟨rest, (afterStart?_eq_some_iff.mp hrest).symm⟩

/-- At most one quote character. -/
def IsOptionalQuote (q : List Char) : Prop :=
  q = [] ∨ ∃ c, isQuote c = true ∧ q = [c]

/-- At most one quote character consists of quote characters. -/
lemma IsOptionalQuote.forall_mem {q : List Char} (h : IsOptionalQuote q) :
    ∀ c ∈ q, isQuote c = true := by
  rcases h with rfl | ⟨c, hc, rfl⟩
  · simp
  · simpa using hc

/-- At most one quote character is at most one character. -/
lemma IsOptionalQuote.length_le {q : List Char} (h : IsOptionalQuote q) : q.length ≤ 1 := by
  rcases h with rfl | ⟨c, _, rfl⟩
  · exact Nat.zero_le 1
  · exact Nat.le_refl 1

/-- Splitting a quote off loses nothing. -/
lemma splitQuote_append (text : List Char) : (splitQuote text).1 ++ (splitQuote text).2 = text := by
  cases text with
  | nil => rfl
  | cons c text =>
    rw [splitQuote]
    split <;> rfl

/-- What is split off is at most one quote character. -/
lemma isOptionalQuote_splitQuote (text : List Char) : IsOptionalQuote (splitQuote text).1 := by
  cases text with
  | nil => exact .inl rfl
  | cons c text =>
    rw [splitQuote]
    by_cases h : isQuote c = true
    · rw [if_pos h]
      exact .inr ⟨c, h, rfl⟩
    · rw [if_neg h]
      exact .inl rfl

/-- Where no quote is split off, the text begins with none. -/
lemma not_isQuote_of_splitQuote {text : List Char} (h : (splitQuote text).1 = []) :
    ∀ c rest, (splitQuote text).2 = c :: rest → isQuote c = false := by
  cases text with
  | nil =>
    intro c rest hrest
    cases hrest
  | cons a text =>
    rw [splitQuote] at h ⊢
    by_cases ha : isQuote a = true
    · rw [if_pos ha] at h
      cases h
    · rw [if_neg ha]
      rintro c rest ⟨rfl, rfl⟩
      exact Bool.eq_false_iff.mpr ha

/-- A quote in front is split off again, and nothing is split off a text that begins with none. -/
lemma splitQuote_append_eq {q text : List Char} (hq : IsOptionalQuote q)
    (htext : q = [] → ∀ c rest, text = c :: rest → isQuote c = false) :
    splitQuote (q ++ text) = (q, text) := by
  rcases hq with rfl | ⟨c, hc, rfl⟩
  · cases text with
    | nil => rfl
    | cons c text =>
      have hc : isQuote c = false := htext rfl c text rfl
      simp [splitQuote, hc]
  · simp [splitQuote, hc]

/-! ### Readings -/

/-- A way to see a phrase in a text: what precedes it, at most one quote character on either side of
it, and what follows. -/
@[ext]
structure Reading (phrase text : List Char) where
  before : List Char
  opening : List Char
  closing : List Char
  after : List Char
  isOptionalQuote_opening : IsOptionalQuote opening
  isOptionalQuote_closing : IsOptionalQuote closing
  text_eq : text = before ++ opening ++ phrase ++ closing ++ after

namespace Reading

variable {phrase text : List Char}

/-- A reading starts as early as any when none has less in front. -/
def IsLeftmost (r : Reading phrase text) : Prop :=
  ∀ r' : Reading phrase text, r.before.length ≤ r'.before.length

/-- A reading takes the quotes it can: one in front of the phrase, if a reading that starts at the
same place has one there, and one behind the phrase, if what follows begins with one. -/
structure IsGreedy (r : Reading phrase text) : Prop where
  opening_ne_nil : ∀ r' : Reading phrase text, r'.before = r.before → r'.opening ≠ [] →
    r.opening ≠ []
  not_isQuote : r.closing = [] → ∀ c rest, r.after = c :: rest → isQuote c = false

/-- The occurrence that a reading describes. -/
def occurrence (r : Reading phrase text) : Occurrence where
  before := r.before
  piece := r.opening ++ phrase ++ r.closing
  after := r.after

/-- The reading of a phrase without quotes. -/
def bare (before phrase after : List Char) : Reading phrase (before ++ phrase ++ after) where
  before := before
  opening := []
  closing := []
  after := after
  isOptionalQuote_opening := .inl rfl
  isOptionalQuote_closing := .inl rfl
  text_eq := by simp

/-- The reading that starts with the text and takes the quote behind the phrase, if there is one. -/
def atStart {opening : List Char} (h : IsOptionalQuote opening) (phrase rest : List Char) :
    Reading phrase (opening ++ (phrase ++ rest)) where
  before := []
  opening := opening
  closing := (splitQuote rest).1
  after := (splitQuote rest).2
  isOptionalQuote_opening := h
  isOptionalQuote_closing := isOptionalQuote_splitQuote rest
  text_eq := by simp [splitQuote_append rest]

/-- A reading with one more character in front. -/
def cons (c : Char) (r : Reading phrase text) : Reading phrase (c :: text) where
  before := c :: r.before
  opening := r.opening
  closing := r.closing
  after := r.after
  isOptionalQuote_opening := r.isOptionalQuote_opening
  isOptionalQuote_closing := r.isOptionalQuote_closing
  text_eq := congrArg (List.cons c) r.text_eq

/-- A reading that does not start with the text is a reading of the text behind its first
character. -/
lemma exists_eq_cons {c : Char} (r : Reading phrase (c :: text)) (h : r.before ≠ []) :
    ∃ r' : Reading phrase text, r = r'.cons c := by
  obtain ⟨before, opening, closing, after, hopening, hclosing, htext⟩ := r
  cases before with
  | nil => exact absurd rfl h
  | cons a before =>
    obtain ⟨rfl, rfl⟩ := List.cons.inj htext
    exact ⟨⟨before, opening, closing, after, hopening, hclosing, rfl⟩, rfl⟩

/-- The quote in front of a phrase is the one that the text starts with. -/
lemma splitQuote_eq (r : Reading phrase text) (hbefore : r.before = [])
    (hopening : r.opening ≠ []) :
    splitQuote text = (r.opening, phrase ++ (r.closing ++ r.after)) := by
  have htext : text = r.opening ++ (phrase ++ (r.closing ++ r.after)) := by
    simpa [hbefore] using r.text_eq
  calc splitQuote text
      = splitQuote (r.opening ++ (phrase ++ (r.closing ++ r.after))) := congrArg splitQuote htext
    _ = (r.opening, phrase ++ (r.closing ++ r.after)) :=
        splitQuote_append_eq r.isOptionalQuote_opening fun h => absurd h hopening

/-- Two greedy readings that start as early as any are the same: the places in front are equal, then
the quotes there, and then the quotes behind the phrase. -/
lemma IsGreedy.unique {r r' : Reading phrase text} (hr : r.IsGreedy) (hr' : r'.IsGreedy)
    (hleft : r.IsLeftmost) (hleft' : r'.IsLeftmost) : r = r' := by
  have htext : r.before ++ (r.opening ++ (phrase ++ (r.closing ++ r.after))) =
      r'.before ++ (r'.opening ++ (phrase ++ (r'.closing ++ r'.after))) := by
    simpa using r.text_eq.symm.trans r'.text_eq
  obtain ⟨hbefore, hrest⟩ := List.append_inj htext (Nat.le_antisymm (hleft r') (hleft' r))
  have hnil : r.opening = [] ↔ r'.opening = [] :=
    not_iff_not.mp ⟨hr'.opening_ne_nil r hbefore, hr.opening_ne_nil r' hbefore.symm⟩
  have hlength : r.opening.length = r'.opening.length := by
    have hle := r.isOptionalQuote_opening.length_le
    have hle' := r'.isOptionalQuote_opening.length_le
    rw [← List.length_eq_zero_iff, ← List.length_eq_zero_iff] at hnil
    omega
  obtain ⟨hopening, hphrase⟩ := List.append_inj hrest hlength
  have hclosing : (r.closing, r.after) = (r'.closing, r'.after) := by
    rw [← splitQuote_append_eq r.isOptionalQuote_closing hr.not_isQuote,
      ← splitQuote_append_eq r'.isOptionalQuote_closing hr'.not_isQuote,
      List.append_cancel_left hphrase]
  exact Reading.ext hbefore hopening (congrArg Prod.fst hclosing) (congrArg Prod.snd hclosing)

end Reading

namespace Occurrence

/-- An occurrence of a phrase in a text: the text falls apart as the occurrence says, and the piece
is the phrase with at most one quote character on either side. -/
def IsOf (o : Occurrence) (phrase text : List Char) : Prop :=
  text = o.before ++ o.piece ++ o.after ∧
    ∃ opening closing, IsOptionalQuote opening ∧ IsOptionalQuote closing ∧
      o.piece = opening ++ phrase ++ closing

variable {phrase text : List Char} {o : Occurrence}

/-- A reading describes an occurrence of its phrase. -/
lemma isOf_occurrence (r : Reading phrase text) : r.occurrence.IsOf phrase text := by
  refine ⟨?_, r.opening, r.closing, r.isOptionalQuote_opening, r.isOptionalQuote_closing, rfl⟩
  simpa [Reading.occurrence] using r.text_eq

/-- The phrase of an occurrence stands in the text. -/
lemma IsOf.isInfix (h : o.IsOf phrase text) : phrase <:+: text := by
  obtain ⟨htext, opening, closing, _, _, hpiece⟩ := h
  rw [htext, hpiece]
  exact ⟨o.before ++ opening, closing ++ o.after, by simp⟩

/-- A found piece is longer than its phrase by at most two quotes. -/
lemma IsOf.length_piece_le (h : o.IsOf phrase text) : o.piece.length ≤ phrase.length + 2 := by
  obtain ⟨_, opening, closing, hopening, hclosing, hpiece⟩ := h
  have h1 := hopening.length_le
  have h2 := hclosing.length_le
  rw [hpiece, List.length_append, List.length_append]
  omega

/-! ### At one place -/

/-- What is found behind an opening quote, or behind none, takes the closing quote if there is
one. -/
lemma exists_eq_of_atStart? {opening : List Char} (hopening : IsOptionalQuote opening)
    (h : atStart? phrase opening text = some o) :
    ∃ rest, text = phrase ++ rest ∧ (Reading.atStart hopening phrase rest).occurrence = o := by
  obtain ⟨rest, hrest, rfl⟩ := Option.map_eq_some_iff.mp h
  exact ⟨rest, afterStart?_eq_some_iff.mp hrest, rfl⟩

/-- Nothing is found behind an opening quote, or behind none, when the phrase does not follow. -/
lemma atStart?_eq_none_iff {opening : List Char} :
    atStart? phrase opening text = none ↔ ¬ phrase <+: text := by
  rw [atStart?, Option.map_eq_none_iff, afterStart?_eq_none_iff]

/-- What is found at the start of a text belongs to a greedy reading that starts there. -/
lemma exists_reading_of_here? (h : here? phrase text = some o) :
    ∃ r : Reading phrase text, r.occurrence = o ∧ r.before = [] ∧ r.IsGreedy := by
  rw [here?] at h
  split at h
  next hsplit =>
    obtain ⟨rest, rfl, rfl⟩ := exists_eq_of_atStart? (.inl rfl) h
    refine ⟨Reading.atStart (.inl rfl) phrase rest, rfl, rfl, ?_, not_isQuote_of_splitQuote⟩
    intro r' hbefore hquote
    -- a quote in front would be the one that the text does not start with
    have hnil : r'.opening = [] :=
      congrArg Prod.fst ((r'.splitQuote_eq hbefore hquote).symm.trans hsplit)
    exact absurd hnil hquote
  next opening rest hne hsplit =>
    have hopening := isOptionalQuote_splitQuote text
    have happend := splitQuote_append text
    rw [hsplit] at hopening happend
    rcases Option.or_eq_some_iff.mp h with h | ⟨hnone, h⟩
    · obtain ⟨rest, rfl, rfl⟩ := exists_eq_of_atStart? hopening h
      subst happend
      exact ⟨Reading.atStart hopening phrase rest, rfl, rfl, fun _ _ _ => hne,
        not_isQuote_of_splitQuote⟩
    · obtain ⟨rest', rfl, rfl⟩ := exists_eq_of_atStart? (.inl rfl) h
      refine ⟨Reading.atStart (.inl rfl) phrase rest', rfl, rfl, ?_, not_isQuote_of_splitQuote⟩
      intro r' hbefore hquote
      -- the phrase would follow the quote that the text starts with
      have hrest : rest = phrase ++ (r'.closing ++ r'.after) :=
        congrArg Prod.snd (hsplit.symm.trans (r'.splitQuote_eq hbefore hquote))
      exact absurd ⟨_, hrest.symm⟩ (atStart?_eq_none_iff.mp hnone)

/-- Where nothing is found, no reading starts. -/
lemma before_ne_nil_of_here? (h : here? phrase text = none) (r : Reading phrase text) :
    r.before ≠ [] := by
  intro hbefore
  by_cases hopening : r.opening = []
  · have hprefix : phrase <+: text := ⟨r.closing ++ r.after, by simp [r.text_eq, hbefore, hopening]⟩
    have hnone : atStart? phrase [] text = none := by
      rw [here?] at h
      split at h
      next => exact h
      next => exact (Option.or_eq_none_iff.mp h).2
    exact atStart?_eq_none_iff.mp hnone hprefix
  · rw [here?, r.splitQuote_eq hbefore hopening] at h
    split at h
    next hnil => exact hopening (congrArg Prod.fst hnil)
    next hsplit =>
      obtain ⟨rfl, rfl⟩ := Prod.mk.inj hsplit
      exact atStart?_eq_none_iff.mp (Option.or_eq_none_iff.mp h).1 ⟨_, rfl⟩

/-! ### Through the text -/

/-- Where nothing is found in the whole text, it has no reading. -/
lemma isEmpty_reading_of_find? (h : find? phrase text = none) : IsEmpty (Reading phrase text) := by
  refine ⟨fun r => ?_⟩
  induction text with
  | nil =>
    have htext := r.text_eq.symm
    simp only [List.append_eq_nil_iff] at htext
    exact before_ne_nil_of_here? h r htext.1.1.1.1
  | cons c text ih =>
    obtain ⟨hhere, hrest⟩ := Option.or_eq_none_iff.mp h
    obtain ⟨r', rfl⟩ := r.exists_eq_cons (before_ne_nil_of_here? hhere r)
    exact ih (Option.map_eq_none_iff.mp hrest) r'

/-- What is found in a text belongs to a greedy reading that starts as early as any. -/
lemma exists_reading_of_find? (h : find? phrase text = some o) :
    ∃ r : Reading phrase text, r.occurrence = o ∧ r.IsLeftmost ∧ r.IsGreedy := by
  have hstart {text : List Char} {o : Occurrence} (h : here? phrase text = some o) :
      ∃ r : Reading phrase text, r.occurrence = o ∧ r.IsLeftmost ∧ r.IsGreedy := by
    obtain ⟨r, rfl, hbefore, hgreedy⟩ := exists_reading_of_here? h
    exact ⟨r, rfl, fun r' => by simp [hbefore], hgreedy⟩
  induction text generalizing o with
  | nil => exact hstart h
  | cons c text ih =>
    rcases Option.or_eq_some_iff.mp h with h | ⟨hnone, h⟩
    · exact hstart h
    · obtain ⟨_, ho, rfl⟩ := Option.map_eq_some_iff.mp h
      obtain ⟨r, rfl, hleft, hgreedy⟩ := ih ho
      -- no reading starts with the first character, so each one is a reading of the rest
      have hcons (s : Reading phrase (c :: text)) : ∃ s' : Reading phrase text, s = s'.cons c :=
        s.exists_eq_cons (before_ne_nil_of_here? hnone s)
      refine ⟨r.cons c, rfl, ?_, ?_, hgreedy.not_isQuote⟩
      · intro s
        obtain ⟨s, rfl⟩ := hcons s
        exact Nat.succ_le_succ (hleft s)
      · intro s hbefore hopening
        obtain ⟨s, rfl⟩ := hcons s
        exact hgreedy.opening_ne_nil s (List.cons.inj hbefore).2 hopening

/-- What is found in a text is an occurrence of the phrase. -/
lemma isOf_of_find? (h : find? phrase text = some o) : o.IsOf phrase text := by
  obtain ⟨r, rfl, _⟩ := exists_reading_of_find? h
  exact isOf_occurrence r

/-- Nothing is found exactly when the phrase does not stand in the text. -/
lemma find?_eq_none_iff : find? phrase text = none ↔ ¬ phrase <:+: text := by
  constructor
  · rintro h ⟨before, after, rfl⟩
    exact (isEmpty_reading_of_find? h).false (.bare before phrase after)
  · intro h
    rw [Option.eq_none_iff_forall_ne_some]
    exact fun o ho => h (isOf_of_find? ho).isInfix

/-- A phrase that stands in a text is found, and not later than where it stands. -/
lemma exists_find?_append (before phrase after : List Char) :
    ∃ o, find? phrase (before ++ phrase ++ after) = some o ∧
      o.IsOf phrase (before ++ phrase ++ after) ∧ o.before.length ≤ before.length := by
  cases h : find? phrase (before ++ phrase ++ after) with
  | none => exact absurd (List.infix_append before phrase after) (find?_eq_none_iff.mp h)
  | some o =>
    obtain ⟨r, rfl, hleft, _⟩ := exists_reading_of_find? h
    exact ⟨_, rfl, isOf_occurrence r, hleft (.bare before phrase after)⟩

/-- The search for a phrase fails exactly when the phrase does not stand in the text.  Otherwise its
result is determined: it comes from the one reading that starts as early as any and takes the quotes
it can. -/
theorem find?_leftmost_greedy (phrase text : List Char) :
    (find? phrase text = none ↔ ¬ phrase <:+: text) ∧
    ∀ o, find? phrase text = some o ↔
      ∃ r : Reading phrase text, r.occurrence = o ∧ r.IsLeftmost ∧ r.IsGreedy := by
  refine ⟨find?_eq_none_iff, fun o => ⟨exists_reading_of_find?, ?_⟩⟩
  rintro ⟨r, rfl, hleft, hgreedy⟩
  cases h : find? phrase text with
  | none => exact absurd (isOf_occurrence r).isInfix (find?_eq_none_iff.mp h)
  | some o =>
    obtain ⟨r', rfl, hleft', hgreedy'⟩ := exists_reading_of_find? h
    rw [hgreedy.unique hgreedy' hleft hleft']

/-- Of two quotes in a row, a search for a quote takes the first as the one in front. -/
example : find? "'".toList "a''b".toList = some ⟨"a".toList, "''".toList, "b".toList⟩ := rfl

end Occurrence

end TagSearch.Text
