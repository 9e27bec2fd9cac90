import Mathlib.Logic.Function.Basic
import Mathlib.Tactic.Common
import TagSearch.Condition.Display
import TagSearch.Condition.Wire

/-!
# Conditions are told apart by how they are shown

A condition is shown as a token, an operator and an operand, with a further `~` in front when the
token is a pattern for keys.  Tokens in quotes may hold operators, slashes and quotes themselves,
and a backslash is not doubled inside of quotes, so a quote behind a backslash may be a part of the
token or its end: where a token ends does not show in the token alone.

It shows in what follows.  A quote inside of a token stands behind a backslash, and so does a slash
inside of a pattern, while the quote or slash that begins an operand stands behind an operator.  If
a token could be read in a longer way, the longer token would swallow such a beginning, or leave an
operand over that does not end as operands do (`Ending.text_ne_append_quote`).

This rests on modifiers without quotes and slashes, as the example at the end shows.  Apart from
that only type filters and conditions on metadata are not told apart from other conditions: they are
shown like conditions on what a value contains.
-/

namespace TagSearch

namespace Text

/-! ### Texts with guarded marks -/

/-- A character of a text in which each `mark` has a backslash in front of it. -/
def guardChar (mark c : Char) : List Char :=
  if c = mark then ['\\', mark] else [c]

/-- A text in which each `mark` has got a backslash in front of it.  Other backslashes stay as they
are. -/
def guarded (mark : Char) (text : List Char) : List Char :=
  text.flatMap (guardChar mark)

section Guarded

variable {mark : Char} {text : List Char}

@[simp] lemma guarded_nil : guarded mark [] = [] := rfl

@[simp] lemma guarded_cons_self :
    guarded mark (mark :: text) = '\\' :: mark :: guarded mark text := by
  simp [guarded, guardChar]

lemma guarded_cons_of_ne {c : Char} (h : c ≠ mark) :
    guarded mark (c :: text) = c :: guarded mark text := by
  simp [guarded, guardChar, h]

/-- A guarded text does not begin with a mark. -/
lemma guarded_ne_cons (hmark : mark ≠ '\\') (after : List Char) :
    guarded mark text ≠ mark :: after := by
  intro h
  cases text with
  | nil => simp at h
  | cons c text =>
    by_cases hc : c = mark
    · subst hc
      rw [guarded_cons_self] at h
      exact hmark (List.cons.inj h).1.symm
    · rw [guarded_cons_of_ne hc] at h
      exact hc (List.cons.inj h).1

/-- Texts are told apart by their guarded forms, although a backslash of a text may look like the
guard of a mark: the mark itself would be missing behind it. -/
lemma guarded_injective (hmark : mark ≠ '\\') : Function.Injective (guarded mark) := by
  intro xs
  induction xs with
  | nil =>
    intro ys h
    cases ys with
    | nil => rfl
    | cons y ys =>
      by_cases hy : y = mark
      · subst hy
        simp at h
      · simp [guarded_cons_of_ne hy] at h
  | cons x xs ih =>
    intro ys h
    cases ys with
    | nil =>
      by_cases hx : x = mark
      · subst hx
        simp at h
      · simp [guarded_cons_of_ne hx] at h
    | cons y ys =>
      by_cases hx : x = mark <;> by_cases hy : y = mark
      · subst hx hy
        simp only [guarded_cons_self, List.cons.injEq, true_and] at h
        rw [ih h]
      · subst hx
        rw [guarded_cons_self, guarded_cons_of_ne hy] at h
        exact absurd (List.cons.inj h).2.symm (guarded_ne_cons hmark _)
      · subst hy
        rw [guarded_cons_self, guarded_cons_of_ne hx] at h
        exact absurd (List.cons.inj h).2 (guarded_ne_cons hmark _)
      · rw [guarded_cons_of_ne hx, guarded_cons_of_ne hy] at h
        obtain ⟨rfl, hrest⟩ := List.cons.inj h
        rw [ih hrest]

/-- In a guarded text a mark stands behind a backslash. -/
lemma eq_backslash_of_guarded_eq (hmark : mark ≠ '\\') {c : Char} {before after : List Char}
    (h : guarded mark text = before ++ c :: mark :: after) : c = '\\' := by
  induction text generalizing before with
  | nil => simp at h
  | cons x text ih =>
    by_cases hx : x = mark
    · subst hx
      rw [guarded_cons_self] at h
      match before, h with
      | [], h => exact (List.cons.inj h).1.symm
      | [_], h =>
        have hrest := (List.cons.inj (List.cons.inj h).2).2
        exact absurd hrest (guarded_ne_cons hmark _)
      | _ :: _ :: before, h => exact ih (List.cons.inj (List.cons.inj h).2).2
    · rw [guarded_cons_of_ne hx] at h
      cases before with
      | nil => exact absurd (List.cons.inj h).2 (guarded_ne_cons hmark _)
      | cons b before => exact ih (List.cons.inj h).2

/-- In a guarded text no mark stands behind anything that is without backslashes. -/
lemma guarded_ne_append (hmark : mark ≠ '\\') {sign : List Char} (hne : sign ≠ [])
    (hsign : '\\' ∉ sign) (before after : List Char) :
    guarded mark text ≠ before ++ (sign ++ mark :: after) := by
  intro h
  rcases List.eq_nil_or_concat sign with hnil | ⟨init, last, hconcat⟩
  · exact hne hnil
  · have hbehind : guarded mark text = (before ++ init) ++ last :: mark :: after := by
      rw [h, hconcat]
      simp
    have hlast : last = '\\' := eq_backslash_of_guarded_eq hmark hbehind
    apply hsign
    rw [hconcat, hlast]
    simp

end Guarded

/-! ### Where texts are split -/

/-- Beginnings whose characters have a property are told apart, when what follows them does not go
on with such a character. -/
lemma append_inj_of_forall {p : Char → Bool} {ds es xs ys : List Char}
    (hds : ∀ c ∈ ds, p c = true) (hes : ∀ c ∈ es, p c = true)
    (hxs : ∀ c ∈ xs.head?, p c = false) (hys : ∀ c ∈ ys.head?, p c = false)
    (h : ds ++ xs = es ++ ys) : ds = es ∧ xs = ys := by
  have htake {as bs : List Char} (has : ∀ c ∈ as, p c = true)
      (hbs : ∀ c ∈ bs.head?, p c = false) : (as ++ bs).takeWhile p = as := by
    rw [List.takeWhile_append_of_pos has]
    cases bs with
    | nil => simp
    | cons b bs => simp [hbs b rfl]
  have hbegin : ds = es := by
    rw [← htake hds hxs, h, htake hes hys]
  subst hbegin
  exact ⟨rfl, List.append_cancel_left h⟩

/-- A mark that is not in the first of two parts stands in the second. -/
lemma exists_eq_append_of_notMem_left {mark : Char} {as bs xs ys : List Char} (has : mark ∉ as)
    (h : as ++ bs = xs ++ mark :: ys) : ∃ rest, xs = as ++ rest ∧ bs = rest ++ mark :: ys := by
  rcases List.append_eq_append_iff.mp h with hright | ⟨rest, hleft, hrest⟩
  · exact hright
  · cases rest with
    | nil => exact ⟨[], by simpa using hleft.symm, hrest.symm⟩
    | cons r rest =>
      obtain ⟨rfl, _⟩ := List.cons.inj hrest
      exact absurd (by simp [hleft]) has

/-- A mark that is not in the second of two parts stands in the first. -/
lemma exists_eq_append_of_notMem_right {mark : Char} {as bs xs ys : List Char} (hbs : mark ∉ bs)
    (h : as ++ bs = xs ++ mark :: ys) : ∃ rest, as = xs ++ mark :: rest ∧ ys = rest ++ bs := by
  rcases List.append_eq_append_iff.mp h with ⟨rest, _, hright⟩ | ⟨rest, hleft, hrest⟩
  · exact absurd (by simp [hright]) hbs
  · cases rest with
    | nil => exact absurd (by simp [← show mark :: ys = bs from hrest]) hbs
    | cons r rest =>
      obtain ⟨rfl, hys⟩ := List.cons.inj hrest
      exact ⟨rest, hleft, hys⟩

/-- Texts are told apart up to the last mark, and so is what follows it. -/
lemma append_cons_inj_of_notMem_right {mark : Char} {as bs xs ys : List Char} (hxs : mark ∉ xs)
    (hys : mark ∉ ys) (h : as ++ mark :: xs = bs ++ mark :: ys) : as = bs ∧ xs = ys := by
  obtain ⟨rest, hmarked, rfl⟩ := exists_eq_append_of_notMem_right hxs
    (show (as ++ [mark]) ++ xs = bs ++ mark :: ys by simpa using h)
  rcases List.eq_nil_or_concat rest with rfl | ⟨init, last, rfl⟩
  · exact ⟨List.append_cancel_right hmarked, rfl⟩
  · -- the last mark would stand behind another one
    have hlast : mark = last := by
      have hlists : as ++ [mark] = (bs ++ mark :: init) ++ [last] := by simpa using hmarked
      exact List.singleton_inj.mp (List.append_inj_right' hlists rfl)
    exact absurd (by simp [hlast]) hys

/-- The last character of a text stands in any end of it. -/
lemma mem_of_append_eq_concat {as bs xs : List Char} {b c : Char}
    (h : as ++ b :: bs = xs ++ [c]) : c ∈ b :: bs := by
  have hlast := congrArg List.getLast? h
  rw [List.getLast?_append, List.getLast?_concat, List.getLast?_cons, Option.some_or] at hlast
  exact List.mem_of_getLast? (List.getLast?_cons.trans hlast)

/-! ### Tokens -/

/-- A bare token holds bare characters, at least one. -/
lemma isBareToken_iff {s : String} :
    isBareToken s = true ↔ s.toList ≠ [] ∧ ∀ c ∈ s.toList, isBareChar c = true := by
  simp [isBareToken]

/-- A bare token is shown as it is. -/
lemma quoteToken_of_isBareToken {s : String} (h : isBareToken s = true) : quoteToken s = s :=
  if_pos h

/-- Other tokens are shown in quotes, with the quotes inside guarded. -/
lemma toList_quoteToken {s : String} (h : isBareToken s = false) :
    (quoteToken s).toList = '"' :: (guarded '"' s.toList ++ ['"']) := by
  rw [quoteToken, h, if_neg Bool.false_ne_true, String.toList_ofList]
  rfl

/-! ### What follows the first token -/

/-- Whether operators are made of a character. -/
def isSignChar (c : Char) : Bool :=
  ['=', '!', '~', ':', '*'].contains c

/-- Bare characters are no signs. -/
lemma isBareChar_of_isSignChar {c : Char} (h : isSignChar c = true) : isBareChar c = false := by
  have hsigns : (['=', '!', '~', ':', '*'].all fun c => !isBareChar c) = true := by
    decide
  simpa using List.all_eq_true.mp hsigns c (List.contains_iff_mem.mp h)

/-- The ways in which an operand is written: bare, which it is also when it is left out, in quotes,
or between slashes and with a modifier. -/
inductive IsOperand : List Char → Prop where
  | bare {text : List Char} (h : ∀ c ∈ text, isBareChar c = true) : IsOperand text
  | quoted (text : List Char) : IsOperand ('"' :: (guarded '"' text ++ ['"']))
  | slashed (regex : List Char) {modifier : List Char} (hquote : '"' ∉ modifier)
      (hslash : '/' ∉ modifier) : IsOperand ('/' :: (guarded '/' regex ++ '/' :: modifier))

/-- An operand does not begin with a sign. -/
lemma IsOperand.isSignChar_head {operand : List Char} (h : IsOperand operand) :
    ∀ c ∈ operand.head?, isSignChar c = false := by
  intro c hc
  cases h with
  | bare hbare =>
    have hc' : isBareChar c = true := hbare c (List.mem_of_mem_head? hc)
    rw [← Bool.not_eq_true]
    intro hsign
    rw [isBareChar_of_isSignChar hsign] at hc'
    cases hc'
  | quoted text =>
    obtain rfl : '"' = c := by simpa using hc
    decide
  | slashed regex hquote hslash =>
    obtain rfl : '/' = c := by simpa using hc
    decide

/-- What follows the first token of a condition: an operator and an operand, which is left out where
there is no operator. -/
structure Ending where
  sign : List Char
  operand : List Char
  isSign : ∀ c ∈ sign, isSignChar c = true
  isOperand : IsOperand operand
  operand_eq_nil : sign = [] → operand = []

namespace Ending

/-- An operator and its operand as they are written. -/
def text (e : Ending) : List Char :=
  e.sign ++ e.operand

variable {e e' : Ending}

/-- Operators hold neither quotes nor slashes nor backslashes, nor anything else that is no sign. -/
lemma notMem_sign (e : Ending) {c : Char} (hc : isSignChar c = false) : c ∉ e.sign := by
  intro hmem
  rw [e.isSign c hmem] at hc
  cases hc

/-- The ways in which an operator and its operand are written. -/
lemma text_cases (e : Ending) :
    (∀ c ∈ e.text, c ≠ '"' ∧ c ≠ '/') ∨
    (e.sign ≠ [] ∧ ∃ text, e.text = e.sign ++ '"' :: (guarded '"' text ++ ['"'])) ∨
    (e.sign ≠ [] ∧ ∃ regex modifier, '"' ∉ modifier ∧ '/' ∉ modifier ∧
      e.text = e.sign ++ '/' :: (guarded '/' regex ++ '/' :: modifier)) := by
  obtain ⟨sign, operand, hsign, hoperand, hnil⟩ := e
  have hne {c : Char} {rest : List Char} (h : operand = c :: rest) : sign ≠ [] := by
    intro hempty
    rw [hnil hempty] at h
    cases h
  cases hoperand with
  | bare hbare =>
    refine .inl fun c hc => ⟨?_, ?_⟩ <;> rintro rfl
    all_goals
      rcases List.mem_append.mp hc with hc | hc
      · exact absurd (hsign _ hc) (by decide)
      · exact absurd (hbare _ hc) (by decide)
  | quoted text => exact .inr (.inl ⟨hne rfl, text, rfl⟩)
  | slashed regex hquote hslash =>
    exact .inr (.inr ⟨hne rfl, regex, _, hquote, hslash, rfl⟩)

/-- A first token does not go on with an operator. -/
lemma isBareChar_head (e : Ending) : ∀ c ∈ e.text.head?, isBareChar c = false := by
  intro c hc
  cases hsign : e.sign with
  | nil => simp [text, hsign, e.operand_eq_nil hsign] at hc
  | cons d sign =>
    have hd : d = c := by simpa [text, hsign] using hc
    have hmem : c ∈ e.sign := by simp [hsign, hd]
    exact isBareChar_of_isSignChar (e.isSign c hmem)

/-- Operators and operands are told apart. -/
lemma sign_eq_and_operand_eq (h : e.text = e'.text) :
    e.sign = e'.sign ∧ e.operand = e'.operand :=
  append_inj_of_forall e.isSign e'.isSign e.isOperand.isSignChar_head e'.isOperand.isSignChar_head h

/-- What ends in a quote has an operand in quotes. -/
lemma exists_text_eq_quoted {xs : List Char} (h : e.text = xs ++ ['"']) :
    e.sign ≠ [] ∧ ∃ text, e.text = e.sign ++ '"' :: (guarded '"' text ++ ['"']) := by
  rcases e.text_cases with hplain | hquoted | ⟨_, regex, modifier, hquote, _, htext⟩
  · exact absurd rfl (hplain '"' (by simp [h])).1
  · exact hquoted
  · have hmem : '"' ∈ '/' :: modifier := by
      rw [htext, ← List.cons_append, ← List.append_assoc] at h
      exact mem_of_append_eq_concat h
    simp [hquote] at hmem

/-- What ends in a slash and a modifier has an operand between slashes, with this modifier. -/
lemma exists_text_eq_slashed {xs modifier : List Char} (h : e.text = xs ++ '/' :: modifier)
    (hquote : '"' ∉ modifier) (hslash : '/' ∉ modifier) :
    e.sign ≠ [] ∧ ∃ regex, xs = e.sign ++ '/' :: guarded '/' regex := by
  rcases e.text_cases with hplain | ⟨_, text, htext⟩ | ⟨hne, regex, modifier', _, hslash', htext⟩
  · exact absurd rfl (hplain '/' (by simp [h])).2
  · have hmem : '"' ∈ '/' :: modifier := by
      rw [htext, ← List.cons_append, ← List.append_assoc] at h
      exact mem_of_append_eq_concat h.symm
    simp [hquote] at hmem
  · rw [htext, ← List.cons_append, ← List.append_assoc] at h
    exact ⟨hne, regex, (append_cons_inj_of_notMem_right hslash' hslash h).1.symm⟩

/-- A first token in quotes cannot be read in a longer way.  If `key` may end at a quote inside of
the longer token `key'`, and `mid` is the part of `key'` behind this quote, then no ending reads as
`mid`, a quote and another ending. -/
lemma text_ne_append_quote {key key' mid : List Char}
    (hkey : guarded '"' key' = guarded '"' key ++ '"' :: mid) :
    e.text ≠ mid ++ '"' :: e'.text := by
  intro h
  rcases e.text_cases with hplain | ⟨hne, text, htext⟩ | ⟨_, regex, modifier, hquote, hslash, htext⟩
  · exact absurd rfl (hplain '"' (by simp [h])).1
  · rw [htext] at h
    obtain ⟨rest, hmid, hrest⟩ := exists_eq_append_of_notMem_left (e.notMem_sign (by decide)) h
    cases rest with
    | nil =>
      -- the longer token ends where the operand begins, so the operand would hold an ending
      have hending : e'.text = guarded '"' text ++ ['"'] := (List.cons.inj hrest).2.symm
      obtain ⟨hne', text', htext'⟩ := exists_text_eq_quoted hending
      have hinside : guarded '"' text = [] ++ (e'.sign ++ '"' :: guarded '"' text') := by
        rw [hending, ← List.cons_append, ← List.append_assoc] at htext'
        exact List.append_cancel_right htext'
      exact guarded_ne_append (by decide) hne' (e'.notMem_sign (by decide)) _ _ hinside
    | cons c rest =>
      -- the longer token holds the quote at which the operand begins
      obtain ⟨rfl, _⟩ := List.cons.inj hrest
      have hinside : guarded '"' key' = (guarded '"' key ++ ['"']) ++ (e.sign ++ '"' :: rest) := by
        rw [hkey, hmid]
        simp
      exact guarded_ne_append (by decide) hne (e.notMem_sign (by decide)) _ _ hinside
  · -- the longer token ends inside of the pattern, so the pattern would hold the slash at which the
    -- operand of the other ending begins
    have hopening : '"' ∉ e.sign ++ ['/'] := by
      simp [e.notMem_sign (by decide : isSignChar '"' = false)]
    obtain ⟨rest, _, hrest⟩ := exists_eq_append_of_notMem_left hopening
      (show (e.sign ++ ['/']) ++ (guarded '/' regex ++ '/' :: modifier) = mid ++ '"' :: e'.text by
        rw [← h, htext]
        simp)
    have hclosing : '"' ∉ '/' :: modifier := by
      simp [hquote]
    obtain ⟨behind, hregex, hending⟩ := exists_eq_append_of_notMem_right hclosing hrest
    obtain ⟨hne', regex', rfl⟩ := exists_text_eq_slashed hending hquote hslash
    have hinside : guarded '/' regex =
        (rest ++ ['"']) ++ (e'.sign ++ '/' :: guarded '/' regex') := by
      rw [hregex]
      simp
    exact guarded_ne_append (by decide) hne' (e'.notMem_sign (by decide)) _ _ hinside

end Ending

/-- Of two readings of a token in quotes, none is longer than the other. -/
lemma eq_of_guarded_eq_append {key key' mid : List Char} {e e' : Ending}
    (hkey : guarded '"' key' = guarded '"' key ++ mid) (h : '"' :: e.text = mid ++ '"' :: e'.text) :
    key = key' ∧ e.text = e'.text := by
  cases mid with
  | nil =>
    have hguarded : guarded '"' key = guarded '"' key' := by simpa using hkey.symm
    exact ⟨guarded_injective (by decide) hguarded, (List.cons.inj h).2⟩
  | cons c mid =>
    obtain ⟨rfl, htext⟩ := List.cons.inj h
    exact absurd htext (Ending.text_ne_append_quote hkey)

/-- A bare token is not shown like one in quotes, whatever follows them. -/
lemma quoteToken_append_ne {s t : String} (hs : isBareToken s = true) (ht : isBareToken t = false)
    (xs ys : List Char) : (quoteToken s).toList ++ xs ≠ (quoteToken t).toList ++ ys := by
  intro h
  rw [quoteToken_of_isBareToken hs, toList_quoteToken ht] at h
  obtain ⟨hne, hbare⟩ := isBareToken_iff.mp hs
  obtain ⟨c, cs, hcs⟩ := List.exists_cons_of_ne_nil hne
  rw [hcs] at h hbare
  have hquote : c = '"' := (List.cons.inj h).1
  rw [hquote] at hbare
  exact absurd (hbare '"' List.mem_cons_self) (by decide)

/-- The first token of a condition is told from what follows it. -/
lemma quoteToken_append_inj {s t : String} {e e' : Ending}
    (h : (quoteToken s).toList ++ e.text = (quoteToken t).toList ++ e'.text) :
    s = t ∧ e.text = e'.text := by
  cases hs : isBareToken s <;> cases ht : isBareToken t
  · rw [toList_quoteToken hs, toList_quoteToken ht] at h
    have hlists :
        guarded '"' s.toList ++ '"' :: e.text = guarded '"' t.toList ++ '"' :: e'.text := by
      simpa using h
    rcases List.append_eq_append_iff.mp hlists with ⟨mid, ht', hrest⟩ | ⟨mid, hs', hrest⟩
    · obtain ⟨htoken, htext⟩ := eq_of_guarded_eq_append ht' hrest
      exact ⟨String.toList_injective htoken, htext⟩
    · obtain ⟨htoken, htext⟩ := eq_of_guarded_eq_append hs' hrest
      exact ⟨String.toList_injective htoken.symm, htext.symm⟩
  · exact absurd h.symm (quoteToken_append_ne ht hs _ _)
  · exact absurd h (quoteToken_append_ne hs ht _ _)
  · rw [quoteToken_of_isBareToken hs, quoteToken_of_isBareToken ht] at h
    obtain ⟨htoken, htext⟩ := append_inj_of_forall (isBareToken_iff.mp hs).2
      (isBareToken_iff.mp ht).2 e.isBareChar_head e'.isBareChar_head h
    exact ⟨String.toList_injective htoken, htext⟩

/-- A token is an operand. -/
lemma isOperand_quoteToken (s : String) : IsOperand (quoteToken s).toList := by
  cases hs : isBareToken s with
  | false =>
    rw [toList_quoteToken hs]
    exact .quoted _
  | true =>
    rw [quoteToken_of_isBareToken hs]
    exact .bare (isBareToken_iff.mp hs).2

/-- A token is not empty. -/
lemma toList_quoteToken_ne_nil (s : String) : (quoteToken s).toList ≠ [] := by
  cases hs : isBareToken s with
  | false => simp [toList_quoteToken hs]
  | true =>
    rw [quoteToken_of_isBareToken hs]
    exact (isBareToken_iff.mp hs).1

/-- A token does not begin with a sign, whatever follows it. -/
lemma isSignChar_head_quoteToken (s : String) (rest : List Char) :
    ∀ c ∈ ((quoteToken s).toList ++ rest).head?, isSignChar c = false := by
  intro c hc
  obtain ⟨first, others, htoken⟩ := List.exists_cons_of_ne_nil (toList_quoteToken_ne_nil s)
  apply (isOperand_quoteToken s).isSignChar_head
  simpa [htoken] using hc

/-- Nothing at all. -/
def Ending.none : Ending where
  sign := []
  operand := []
  isSign := by simp
  isOperand := .bare (by simp)
  operand_eq_nil := fun _ => rfl

/-- Tokens are told apart. -/
lemma quoteToken_injective : Function.Injective quoteToken := by
  intro s t h
  have hlists : (quoteToken s).toList ++ Ending.none.text =
      (quoteToken t).toList ++ Ending.none.text := by
    rw [h]
  exact (quoteToken_append_inj hlists).1

end Text

/-! ### Patterns -/

namespace Pattern

/-- Whether a modifier, if there is one, is not empty and holds neither a slash nor a quote. -/
def HasPlainModifier (p : Pattern) : Prop :=
  ∀ modifier ∈ p.modifier, modifier ≠ "" ∧ '/' ∉ modifier.toList ∧ '"' ∉ modifier.toList

instance (p : Pattern) : Decidable p.HasPlainModifier :=
  inferInstanceAs (Decidable (∀ modifier ∈ p.modifier, _))

/-- A bare pattern without a modifier is shown as it is. -/
lemma display_of_isBareToken {p : Pattern} (hnone : p.modifier = none)
    (hbare : Text.isBareToken p.regex = true) : p.display = p.regex := by
  simp [display, Text.quoteRegex, hnone, hbare]

/-- Other patterns are shown between slashes, with the slashes inside guarded, and with the
modifier. -/
lemma toList_display {p : Pattern} (h : ¬ (p.modifier = none ∧ Text.isBareToken p.regex = true)) :
    p.display.toList = '/' :: (Text.guarded '/' p.regex.toList ++
      '/' :: (p.modifier.getD "").toList) := by
  have hslashes : (p.modifier.isNone && Text.isBareToken p.regex) = false := by
    simpa [← Bool.not_eq_true] using h
  rw [display, Text.quoteRegex, hslashes, if_neg Bool.false_ne_true, String.toList_ofList]
  rfl

/-- What follows the slashes of a pattern with a plain modifier holds neither a slash nor a
quote. -/
lemma HasPlainModifier.notMem {p : Pattern} (h : p.HasPlainModifier) :
    '/' ∉ (p.modifier.getD "").toList ∧ '"' ∉ (p.modifier.getD "").toList := by
  cases hmodifier : p.modifier with
  | none => simp
  | some modifier => exact (h modifier hmodifier).2

/-- A pattern with a plain modifier is an operand. -/
lemma isOperand_display {p : Pattern} (h : p.HasPlainModifier) :
    Text.IsOperand p.display.toList := by
  by_cases hbare : p.modifier = none ∧ Text.isBareToken p.regex = true
  · rw [display_of_isBareToken hbare.1 hbare.2]
    exact .bare (Text.isBareToken_iff.mp hbare.2).2
  · rw [toList_display hbare]
    exact .slashed _ h.notMem.2 h.notMem.1

/-- A plain modifier is told from none. -/
lemma HasPlainModifier.eq_of_getD_eq {p q : Pattern} (hp : p.HasPlainModifier)
    (hq : q.HasPlainModifier) (h : p.modifier.getD "" = q.modifier.getD "") :
    p.modifier = q.modifier := by
  cases hpm : p.modifier with
  | none =>
    cases hqm : q.modifier with
    | none => rfl
    | some modifier =>
      rw [hpm, hqm] at h
      exact absurd h.symm (hq modifier hqm).1
  | some modifier =>
    cases hqm : q.modifier with
    | none =>
      rw [hpm, hqm] at h
      exact absurd h (hp modifier hpm).1
    | some modifier' =>
      rw [hpm, hqm] at h
      exact congrArg some h

/-- A bare pattern is not shown like one between slashes. -/
lemma display_ne_of_isBareToken {p q : Pattern}
    (hp : p.modifier = none ∧ Text.isBareToken p.regex = true)
    (hq : ¬ (q.modifier = none ∧ Text.isBareToken q.regex = true)) : p.display ≠ q.display := by
  intro h
  have hmem : '/' ∈ p.regex.toList := by
    rw [← display_of_isBareToken hp.1 hp.2, h, toList_display hq]
    exact List.mem_cons_self
  exact absurd ((Text.isBareToken_iff.mp hp.2).2 _ hmem) (by decide)

/-- Patterns with plain modifiers are told apart. -/
lemma eq_of_display_eq {p q : Pattern} (hp : p.HasPlainModifier) (hq : q.HasPlainModifier)
    (h : p.display = q.display) : p = q := by
  by_cases hpbare : p.modifier = none ∧ Text.isBareToken p.regex = true
  · by_cases hqbare : q.modifier = none ∧ Text.isBareToken q.regex = true
    · rw [display_of_isBareToken hpbare.1 hpbare.2, display_of_isBareToken hqbare.1 hqbare.2] at h
      exact congrArg₂ Pattern.mk h (hpbare.1.trans hqbare.1.symm)
    · exact absurd h (display_ne_of_isBareToken hpbare hqbare)
  · by_cases hqbare : q.modifier = none ∧ Text.isBareToken q.regex = true
    · exact absurd h.symm (display_ne_of_isBareToken hqbare hpbare)
    · have hlists := congrArg String.toList h
      rw [toList_display hpbare, toList_display hqbare] at hlists
      obtain ⟨hregex, hmodifier⟩ := Text.append_cons_inj_of_notMem_right hp.notMem.1 hq.notMem.1
        (List.cons.inj hlists).2
      have hregex' : p.regex = q.regex :=
        String.toList_injective (Text.guarded_injective (by decide) hregex)
      have hmodifier' : p.modifier = q.modifier :=
        hp.eq_of_getD_eq hq (String.toList_injective hmodifier)
      exact congrArg₂ Pattern.mk hregex' hmodifier'

end Pattern

/-! ### Conditions -/

namespace Condition

namespace Kind

/-- What stands in front of the first token of a condition. -/
def lead : Kind → String
  | likeBoth => "~"
  | _ => ""

/-- The operator of a condition. -/
def sign : Kind → String
  | hasKey => "=*"
  | lacksKey => "!=*"
  | equals => "="
  | differs => "!="
  | like => "~"
  | unlike => "!~"
  | likeBoth => "~"
  | contains => ":"
  | ofType => ":"
  | metadata => ":"
  | phrase => ""

/-- What stands in front of the first token is a sign. -/
lemma isSignChar_of_mem_lead (k : Kind) : ∀ c ∈ k.lead.toList, Text.isSignChar c = true := by
  rw [← List.all_eq_true]
  cases k <;> decide

/-- Operators are made of signs. -/
lemma isSignChar_of_mem_sign (k : Kind) : ∀ c ∈ k.sign.toList, Text.isSignChar c = true := by
  rw [← List.all_eq_true]
  cases k <;> decide

/-- A condition without an operator is a phrase. -/
lemma eq_phrase_of_sign {k : Kind} (h : k.sign.toList = []) : k = phrase := by
  revert h
  cases k <;> decide

/-- Whether conditions of a kind are shown in a form of their own. -/
def hasOwnForm : Kind → Bool
  | ofType => false
  | metadata => false
  | _ => true

/-- The kinds with a form of their own are told apart by what stands in front of the first token and
by their operators. -/
lemma eq_of_sign_eq {k k' : Kind} (hk : k.hasOwnForm = true) (hk' : k'.hasOwnForm = true)
    (hlead : k.lead = k'.lead) (hsign : k.sign = k'.sign) : k = k' := by
  revert hk hk' hlead hsign
  cases k <;> cases k' <;> decide

end Kind

/-- The first token of a condition, before it is quoted. -/
def firstToken : Condition → String
  | hasKey key => key
  | lacksKey key => key
  | equals key _ => key
  | differs key _ => key
  | like key _ => key
  | unlike key _ => key
  | likeBoth keyRegex _ => keyRegex
  | contains key _ => key
  | ofType _ => "type"
  | metadata kind _ => kind.name
  | phrase text => text

/-- The operand of a condition as it is shown. -/
def operand : Condition → String
  | hasKey _ => ""
  | lacksKey _ => ""
  | equals _ value => Text.quoteToken value
  | differs _ value => Text.quoteToken value
  | like _ pattern => pattern.display
  | unlike _ pattern => pattern.display
  | likeBoth _ pattern => pattern.display
  | contains _ text => Text.quoteToken text
  | ofType type => Text.quoteToken type.name
  | metadata _ value => Text.quoteToken value
  | phrase _ => ""

/-- The pattern that the value of a key has to match or not to match. -/
def pattern? : Condition → Option Pattern
  | like _ pattern => some pattern
  | unlike _ pattern => some pattern
  | likeBoth _ pattern => some pattern
  | _ => none

/-- Whether the modifier of a condition, if there is one, is not empty and holds neither a slash nor
a quote. -/
def HasPlainModifier (c : Condition) : Prop :=
  ∀ pattern ∈ c.pattern?, pattern.HasPlainModifier

instance (c : Condition) : Decidable c.HasPlainModifier :=
  inferInstanceAs (Decidable (∀ pattern ∈ c.pattern?, _))

/-- The condition on the contents of a value that a type filter or a condition on metadata is shown
like; other conditions are shown like themselves. -/
def asContains : Condition → Condition
  | ofType type => contains "type" type.name
  | metadata kind value => contains kind.name value
  | c => c

/-- Type filters and conditions on metadata are shown like conditions on the contents of a value. -/
lemma display_asContains (c : Condition) : c.asContains.display = c.display := by
  cases c with
  | ofType type => cases type <;> decide
  | metadata kind value =>
    have hname : Text.quoteToken kind.name = kind.name := by cases kind <;> decide
    rw [asContains, display, display, hname]
  | _ => rfl

/-- A condition as which another one is shown has a form of its own. -/
lemma hasOwnForm_asContains (c : Condition) : c.asContains.kind.hasOwnForm = true := by
  cases c <;> rfl

/-- Showing a condition as another one keeps its modifier. -/
lemma HasPlainModifier.asContains {c : Condition} (h : c.HasPlainModifier) :
    c.asContains.HasPlainModifier := by
  have hpattern : c.asContains.pattern? = c.pattern? := by cases c <;> rfl
  rw [HasPlainModifier, hpattern]
  exact h

/-- A condition with a form of its own is shown as its first token, its operator and its operand. -/
lemma display_eq {c : Condition} (h : c.kind.hasOwnForm = true) :
    c.display = c.kind.lead ++ (Text.quoteToken c.firstToken ++ (c.kind.sign ++ c.operand)) := by
  cases c with
  | ofType type => cases h
  | metadata kind value => cases h
  | _ => simp [display, kind, Kind.lead, Kind.sign, firstToken, operand, String.append_assoc]

/-- What a condition compares with is written as an operand. -/
lemma isOperand_operand {c : Condition} (h : c.HasPlainModifier) :
    Text.IsOperand c.operand.toList := by
  cases c with
  | hasKey _ | lacksKey _ | phrase _ => exact .bare (by simp [operand])
  | equals _ value | differs _ value | metadata _ value => exact Text.isOperand_quoteToken value
  | contains _ text => exact Text.isOperand_quoteToken text
  | ofType type => exact Text.isOperand_quoteToken type.name
  | like _ pattern | unlike _ pattern | likeBoth _ pattern =>
    exact Pattern.isOperand_display (h pattern rfl)

/-- What follows the first token of a condition. -/
def ending (c : Condition) (h : c.HasPlainModifier) : Text.Ending where
  sign := c.kind.sign.toList
  operand := c.operand.toList
  isSign := c.kind.isSignChar_of_mem_sign
  isOperand := isOperand_operand h
  operand_eq_nil := by
    intro hsign
    have hkind : c.kind = .phrase := Kind.eq_phrase_of_sign hsign
    cases c with
    | phrase text => rfl
    | _ => cases hkind

/-- Conditions with forms of their own are told apart by their first tokens and operands, when they
are of one kind. -/
lemma eq_of_operand_eq {c d : Condition} (hc : c.HasPlainModifier) (hd : d.HasPlainModifier)
    (hown : c.kind.hasOwnForm = true) (hkind : c.kind = d.kind)
    (hfirst : c.firstToken = d.firstToken) (hoperand : c.operand = d.operand) : c = d := by
  cases c with
  | ofType _ | metadata _ _ => cases hown
  | hasKey _ | lacksKey _ | phrase _ =>
    cases d <;> cases hkind
    exact congrArg _ hfirst
  | equals _ _ | differs _ _ | contains _ _ =>
    cases d <;> cases hkind
    exact congrArg₂ _ hfirst (Text.quoteToken_injective hoperand)
  | like _ p | unlike _ p | likeBoth _ p =>
    cases d <;> cases hkind
    exact congrArg₂ _ hfirst (Pattern.eq_of_display_eq (hc p rfl) (hd _ rfl) hoperand)

/-- Conditions with forms of their own are told apart by how they are shown. -/
lemma eq_of_display_eq {c d : Condition} (hc : c.HasPlainModifier) (hd : d.HasPlainModifier)
    (hcown : c.kind.hasOwnForm = true) (hdown : d.kind.hasOwnForm = true)
    (h : c.display = d.display) : c = d := by
  have hlists :
      c.kind.lead.toList ++ ((Text.quoteToken c.firstToken).toList ++ (c.ending hc).text) =
        d.kind.lead.toList ++ ((Text.quoteToken d.firstToken).toList ++ (d.ending hd).text) := by
    have htoLists := congrArg String.toList h
    rw [display_eq hcown, display_eq hdown] at htoLists
    simp only [String.toList_append] at htoLists
    exact htoLists
  obtain ⟨hlead, htokens⟩ := Text.append_inj_of_forall c.kind.isSignChar_of_mem_lead
    d.kind.isSignChar_of_mem_lead (Text.isSignChar_head_quoteToken _ _)
    (Text.isSignChar_head_quoteToken _ _) hlists
  obtain ⟨hfirst, htext⟩ := Text.quoteToken_append_inj htokens
  obtain ⟨hsign, hoperand⟩ := Text.Ending.sign_eq_and_operand_eq htext
  have hkind : c.kind = d.kind := Kind.eq_of_sign_eq hcown hdown (String.toList_injective hlead)
    (String.toList_injective hsign)
  exact eq_of_operand_eq hc hd hcown hkind hfirst (String.toList_injective hoperand)

/-- The form in which conditions are shown is unambiguous, if no modifier is empty or holds a slash
or a quote: two conditions are shown in the same way exactly when they are equal, once type filters
and conditions on metadata are taken for the conditions on the contents of a value that they are
shown like. -/
theorem display_eq_iff_asContains_eq {c d : Condition} (hc : c.HasPlainModifier)
    (hd : d.HasPlainModifier) : c.display = d.display ↔ c.asContains = d.asContains := by
  constructor
  · intro h
    rw [← display_asContains c, ← display_asContains d] at h
    exact eq_of_display_eq hc.asContains hd.asContains (hasOwnForm_asContains c)
      (hasOwnForm_asContains d) h
  · intro h
    rw [← display_asContains c, ← display_asContains d, h]

/-- A token that ends in a backslash and a pattern that looks like the rest of a longer token are
told from the longer token; a condition on the date of an element is not told from one on a tag with
this key. -/
theorem display_eq_iff_asContains_eq_backslash :
    let short : Condition := .like "a\\" ⟨"b\"~", some "i"⟩
    let long : Condition := .like "a\"~/b" ⟨"", some "i"⟩
    let date : Condition := .metadata .newer "1 day"
    let key : Condition := .contains "newer" "1 day"
    (short.HasPlainModifier ∧ long.HasPlainModifier ∧ short.display ≠ long.display) ∧
      date.HasPlainModifier ∧ key.HasPlainModifier ∧ date.display = key.display := by
  intro short long date key
  have hshort : short.HasPlainModifier := by decide
  have hlong : long.HasPlainModifier := by decide
  have hdate : date.HasPlainModifier := by decide
  have hkey : key.HasPlainModifier := by decide
  refine ⟨⟨hshort, hlong, ?_⟩, hdate, hkey, ?_⟩
  · rw [ne_eq, display_eq_iff_asContains_eq hshort hlong]
    decide
  · rw [display_eq_iff_asContains_eq hdate hkey]
    decide

/-- With a quote in a modifier, a pattern can be taken for the end of a longer token. -/
example : (like "a\\" ⟨"b", some "\"=*"⟩).display = (hasKey "a\"~/b/").display := by
  decide

end Condition

end TagSearch
