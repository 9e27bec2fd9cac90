import Mathlib.Data.List.Infix
import Mathlib.Tactic.Common
import TagSearch.Condition.Basic
import TagSearch.Text.Token

/-!
# Looking for a pattern

What a pattern matches is decided by the program that runs a query.  Only a little of this is taken
as known here (`PatternEngine`).  A pattern is looked for anywhere in a text.  Twelve characters are
special unless a backslash stands before them, and every other character stands for itself.  Of the
special ones, `^` and `$` stand for the two ends of the text.  What the operators mean, that is all
the other special characters, is left open, except that `.*` matches everything.

A pattern without operators is *plain*.  The two kinds of plain patterns that stand for a given text
are the text with its special characters marked, which is found wherever the text is contained
(`PatternEngine.finds_regexLiteral`), and the same between `^` and `$`, which is found in just this
text (`PatternEngine.finds_anchored`).
-/

namespace TagSearch

/-! ### Tokens -/

/-- What a character of a pattern stands for. -/
inductive PatternToken where
  /-- The character itself. -/
  | literal (c : Char)
  /-- The start of the text. -/
  | start
  /-- The end of the text. -/
  | stop
  /-- Something that is left open. -/
  | operator (c : Char)
  deriving DecidableEq, Repr

namespace PatternToken

/-- The characters that are special unless a backslash stands before them. -/
def specialChars : List Char :=
  ['(', ')', '[', '\x7b', '*', '+', '.', '$', '^', '\\', '|', '?']

/-- What a character stands for that has no backslash before it. -/
def ofChar (c : Char) : PatternToken :=
  if c = '^' then start
  else if c = '$' then stop
  else if c ∈ specialChars then operator c
  else literal c

/-- The tokens of a pattern. -/
def ofPattern : List Char → List PatternToken
  | [] => []
  | [c] => [ofChar c]
  | c :: d :: pattern =>
    if c = '\\' ∧ d ∈ specialChars then literal d :: ofPattern pattern
    else ofChar c :: ofPattern (d :: pattern)

/-- Whether a token is an operator. -/
def isOperator : PatternToken → Bool
  | operator _ => true
  | _ => false

/-- Whether tokens match from a position of a text on, where `atStart` tells whether the position is
the start of the text, and `alike` which characters may stand for a literal one. -/
def matchAt (alike : Char → Char → Bool) : List PatternToken → (atStart : Bool) → List Char → Bool
  | [], _, _ => true
  | literal _ :: _, _, [] => false
  | literal c :: tokens, _, d :: text => alike c d && matchAt alike tokens false text
  | start :: tokens, atStart, text => atStart && matchAt alike tokens atStart text
  | stop :: tokens, atStart, text => text.isEmpty && matchAt alike tokens atStart text
  | operator _ :: _, _, _ => false

/-- Whether tokens match from some position of a text on. -/
def matchAnywhere (alike : Char → Char → Bool) (tokens : List PatternToken) :
    (atStart : Bool) → List Char → Bool
  | atStart, [] => matchAt alike tokens atStart []
  | atStart, c :: text =>
    matchAt alike tokens atStart (c :: text) || matchAnywhere alike tokens false text

end PatternToken

/-- The tokens of a pattern. -/
def Pattern.tokens (p : Pattern) : List PatternToken :=
  PatternToken.ofPattern p.regex.toList

/-- Whether a pattern has no operators. -/
def Pattern.isPlain (p : Pattern) : Bool :=
  p.tokens.all fun token => !token.isOperator

/-- What is known of the program that decides what a pattern matches. -/
structure PatternEngine where
  /-- Whether a pattern is found in a text. -/
  finds : Pattern → String → Bool
  /-- Whether two characters are the same but for their case. -/
  alike : Char → Char → Bool
  /-- The modifier that holds for a pattern on keys, given that of the pattern on values. -/
  keyModifier : Option String → Option String
  /-- A plain pattern is found where its tokens match from some position on. -/
  finds_plain : ∀ (p : Pattern) (text : String), p.isPlain = true →
    finds p text = PatternToken.matchAnywhere (if p.ignoresCase then alike else (· == ·))
      p.tokens true text.toList
  /-- The pattern for anything is found in every text. -/
  finds_anything : ∀ (p : Pattern) (text : String), p.regex = ".*" → finds p text = true

namespace PatternToken

/-! ### The tokens of marked texts -/

/-- The characters that are marked in a pattern are the special ones. -/
lemma isRegexSpecial_iff (c : Char) : Text.isRegexSpecial c = true ↔ c ∈ specialChars := by
  simp only [Text.isRegexSpecial, decide_eq_true_eq, specialChars]

/-- A character that is not special stands for itself. -/
lemma ofChar_of_notMem {c : Char} (h : c ∉ specialChars) : ofChar c = literal c := by
  have hstart : c ≠ '^' := fun heq => h (heq ▸ by decide)
  have hstop : c ≠ '$' := fun heq => h (heq ▸ by decide)
  rw [ofChar, if_neg hstart, if_neg hstop, if_neg h]

/-- Without a backslash, the first character of a pattern is a token of its own. -/
lemma ofPattern_cons_of_ne {c : Char} (h : c ≠ '\\') (pattern : List Char) :
    ofPattern (c :: pattern) = ofChar c :: ofPattern pattern := by
  cases pattern with
  | nil => rfl
  | cons d pattern => rw [ofPattern, if_neg fun hc => h hc.1]

/-- A marked character stands for itself, whatever follows. -/
lemma ofPattern_literalChar_append (c : Char) (pattern : List Char) :
    ofPattern (Text.literalChar c ++ pattern) = literal c :: ofPattern pattern := by
  unfold Text.literalChar
  by_cases hc : c ∈ specialChars
  · rw [if_pos ((isRegexSpecial_iff c).mpr hc)]
    exact if_pos ⟨rfl, hc⟩
  · have hne : c ≠ '\\' := fun heq => hc (heq ▸ by decide)
    rw [if_neg (mt (isRegexSpecial_iff c).mp hc), List.singleton_append,
      ofPattern_cons_of_ne hne, ofChar_of_notMem hc]

/-- A marked text stands for its characters, whatever follows. -/
lemma ofPattern_regexLiteral_append (text : String) (pattern : List Char) :
    ofPattern ((Text.regexLiteral text).toList ++ pattern) =
      text.toList.map literal ++ ofPattern pattern := by
  rw [Text.regexLiteral, String.toList_ofList]
  induction text.toList with
  | nil => rfl
  | cons c cs ih =>
    rw [List.flatMap_cons, List.append_assoc, ofPattern_literalChar_append, ih, List.map_cons,
      List.cons_append]

/-! ### Matching literals -/

variable {alike : Char → Char → Bool}

/-- Literals match where a text starts with them. -/
lemma matchAt_literals_iff {cs text : List Char} {atStart : Bool} :
    matchAt (· == ·) (cs.map literal) atStart text = true ↔ cs <+: text := by
  induction cs generalizing atStart text with
  | nil => simp [matchAt]
  | cons c cs ih =>
    cases text with
    | nil => simp [matchAt]
    | cons d text =>
      rw [List.map_cons, matchAt, Bool.and_eq_true, beq_iff_eq, ih, List.cons_prefix_cons]

/-- Literals match somewhere in a text that contains them. -/
lemma matchAnywhere_literals_iff {cs text : List Char} {atStart : Bool} :
    matchAnywhere (· == ·) (cs.map literal) atStart text = true ↔ cs <:+: text := by
  induction text generalizing atStart with
  | nil => rw [matchAnywhere, matchAt_literals_iff, List.prefix_nil, List.infix_nil]
  | cons d text ih =>
    rw [matchAnywhere, Bool.or_eq_true, matchAt_literals_iff, ih, List.infix_cons_iff]

/-- Literals up to the end match just the text that they make up. -/
lemma matchAt_literals_stop_iff {cs text : List Char} {atStart : Bool} :
    matchAt (· == ·) (cs.map literal ++ [stop]) atStart text = true ↔ text = cs := by
  induction cs generalizing atStart text with
  | nil => simp [matchAt]
  | cons c cs ih =>
    cases text with
    | nil => simp [matchAt]
    | cons d text =>
      rw [List.map_cons, List.cons_append, matchAt, Bool.and_eq_true, beq_iff_eq, ih,
        List.cons.injEq]
      exact and_congr_left fun _ => eq_comm

/-- Behind the start, nothing that begins with the start matches. -/
lemma matchAnywhere_start_false (tokens : List PatternToken) (text : List Char) :
    matchAnywhere alike (start :: tokens) false text = false := by
  induction text with
  | nil => rfl
  | cons c text ih => rw [matchAnywhere, ih]; rfl

/-- What begins with the start is only looked for there. -/
lemma matchAnywhere_start (tokens : List PatternToken) (text : List Char) :
    matchAnywhere alike (start :: tokens) true text = matchAt alike tokens true text := by
  cases text with
  | nil => rfl
  | cons c text => rw [matchAnywhere, matchAnywhere_start_false, Bool.or_false]; rfl

end PatternToken

/-! ### The patterns for a text -/

namespace PatternEngine

open PatternToken

variable (engine : PatternEngine)

/-- A pattern that ignores no case compares characters as they are. -/
lemma finds_of_tokens {p : Pattern} (hcase : p.ignoresCase = false) (hplain : p.isPlain = true)
    (text : String) : engine.finds p text = matchAnywhere (· == ·) p.tokens true text.toList := by
  rw [engine.finds_plain p text hplain, hcase]
  rfl

/-- The pattern for a text is found where the text is contained. -/
lemma finds_regexLiteral (text : String) :
    engine.finds { regex := Text.regexLiteral text } =
      fun value => decide (text.toList <:+: value.toList) := by
  have htokens : Pattern.tokens { regex := Text.regexLiteral text } =
      text.toList.map literal := by
    have happend := ofPattern_regexLiteral_append text []
    rwa [List.append_nil, ofPattern, List.append_nil] at happend
  have hplain : Pattern.isPlain { regex := Text.regexLiteral text } = true := by
    simp [Pattern.isPlain, htokens, isOperator]
  funext value
  rw [Bool.eq_iff_iff, engine.finds_of_tokens rfl hplain, htokens, matchAnywhere_literals_iff,
    decide_eq_true_eq]

/-- The pattern for a text between the two ends is found in just this text. -/
lemma finds_anchored (text : String) :
    engine.finds { regex := "^" ++ Text.regexLiteral text ++ "$" } =
      fun value => decide (value = text) := by
  have htokens : Pattern.tokens { regex := "^" ++ Text.regexLiteral text ++ "$" } =
      start :: (text.toList.map literal ++ [stop]) := by
    have happend := ofPattern_regexLiteral_append text ['$']
    have htext : ("^" ++ Text.regexLiteral text ++ "$").toList =
        '^' :: ((Text.regexLiteral text).toList ++ ['$']) := by simp
    rw [Pattern.tokens, htext, ofPattern_cons_of_ne (by decide), happend]
    rfl
  have hplain : Pattern.isPlain { regex := "^" ++ Text.regexLiteral text ++ "$" } = true := by
    simp [Pattern.isPlain, htokens, isOperator]
  funext value
  rw [Bool.eq_iff_iff, engine.finds_of_tokens rfl hplain, htokens, matchAnywhere_start,
    matchAt_literals_stop_iff, String.toList_inj, decide_eq_true_eq]

/-- The pattern for the empty text is found in just this text, whether case is ignored or not. -/
lemma finds_empty (modifier : Option String) :
    engine.finds { regex := "^$", modifier } = fun value => decide (value = "") := by
  have htokens : Pattern.tokens { regex := "^$", modifier } = [start, stop] := by
    change ofPattern "^$".toList = [start, stop]
    decide
  have hplain : Pattern.isPlain { regex := "^$", modifier } = true := by
    simp [Pattern.isPlain, htokens, isOperator]
  funext value
  rw [Bool.eq_iff_iff, engine.finds_plain _ _ hplain, htokens, matchAnywhere_start]
  simp [matchAt]

/-- A program that finds just plain patterns and the pattern for anything; case is a matter of the
letters from `a` to `z`, and a modifier holds for keys too. -/
def basic : PatternEngine where
  finds p text := p.regex = ".*" || p.isPlain &&
    matchAnywhere (if p.ignoresCase then fun c d => c.toLower == d.toLower else (· == ·))
      p.tokens true text.toList
  alike c d := c.toLower == d.toLower
  keyModifier modifier := modifier
  finds_plain := by
    intro p text hplain
    have hne : p.regex ≠ ".*" := by
      intro heq
      rw [Pattern.isPlain, Pattern.tokens, heq] at hplain
      exact absurd hplain (by decide)
    simp [hne, hplain]
  finds_anything := by
    intro p text hregex
    simp [hregex]

end PatternEngine

end TagSearch
