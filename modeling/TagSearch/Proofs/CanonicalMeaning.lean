import Mathlib.Tactic.Common
import TagSearch.Condition.Canonical
import TagSearch.Preset.Tags
import TagSearch.Proofs.PatternSearch

/-!
# Canonical conditions mean the same

A condition on tags is given its meaning on the tags of an element.  Making a condition canonical
keeps this meaning, for every program that reads plain patterns as described in
`TagSearch.Proofs.PatternSearch`, and removes the conditions that the query language has no form
for.

Each of the three steps keeps the meaning on its own.  The last one, which asks for an empty key by
a pattern on keys, rests on keys being distinct: the pattern for the empty text picks out the one
tag, if any, whose key is empty (`Tags.any_entries_eq`).
-/

namespace TagSearch

/-- The value of a key. -/
def Tags.get? (tags : Tags) (key : String) : Option String :=
  tags.entries.lookup key

namespace Condition

/-- Whether a condition holds on the tags of an element, if it is a condition on tags. -/
def holdsOn? (engine : PatternEngine) (tags : Tags) : Condition → Option Bool
  | hasKey key => some (tags.get? key).isSome
  | lacksKey key => some (tags.get? key).isNone
  | equals key value => some (tags.get? key = some value)
  | differs key value => some (tags.get? key ≠ some value)
  | like key pattern => some ((tags.get? key).any (engine.finds pattern))
  | unlike key pattern => some !(tags.get? key).any (engine.finds pattern)
  | likeBoth keyRegex pattern =>
    let keyPattern : Pattern := ⟨keyRegex, engine.keyModifier pattern.modifier⟩
    some (tags.entries.any fun tag => engine.finds keyPattern tag.1 && engine.finds pattern tag.2)
  | contains key text => some ((tags.get? key).any fun value => text.toList <:+: value.toList)
  | ofType _ => none
  | metadata _ _ => none
  | phrase _ => none

/-- Whether the query language has a form for a condition: it asks for no contained text, for an
empty value by patterns only, and for an empty key by patterns or by a negated condition only. -/
def isExpressible : Condition → Bool
  | hasKey key => key ≠ ""
  | equals key value => key ≠ "" && value ≠ ""
  | differs _ value => value ≠ ""
  | like key _ => key ≠ ""
  | contains _ _ => false
  | _ => true

end Condition

/-! ### The three steps -/

/-- Tags with a certain key are the one tag with this key, as keys are distinct. -/
lemma Tags.any_entries_eq (tags : Tags) (key : String) (holds : String → Bool) :
    (tags.entries.any fun tag => tag.1 = key && holds tag.2) = (tags.get? key).any holds := by
  obtain ⟨entries, hsorted⟩ := tags
  unfold get?
  induction entries with
  | nil => rfl
  | cons tag entries ih =>
    obtain ⟨hhead, hrest⟩ := List.pairwise_cons.mp hsorted
    have hih := ih hrest
    rw [List.any_cons, List.lookup_cons]
    by_cases hkey : tag.1 = key
    · -- no later tag has this key
      have hlater : (entries.any fun tag => tag.1 = key && holds tag.2) = false := by
        rw [List.any_eq_false]
        intro later hmem
        have hlt : tag.1 < later.1 := hhead later hmem
        have hne : later.1 ≠ key := by
          intro heq
          rw [hkey, heq] at hlt
          exact String.lt_irrefl key hlt
        simp [hne]
      simp [hlater, hkey]
    · have hbeq : (key == tag.1) = false := by simp [Ne.symm hkey]
      simp only [hbeq, hkey, decide_false, Bool.false_and, Bool.false_or]
      exact hih

namespace Condition

variable (engine : PatternEngine) (tags : Tags)

/-- Asking for the empty key by a pattern on keys is asking for the value of the empty key. -/
lemma holdsOn?_likeBoth_empty (pattern : Pattern) :
    (likeBoth "^$" pattern).holdsOn? engine tags =
      some ((tags.get? "").any (engine.finds pattern)) := by
  simp only [holdsOn?, engine.finds_empty, tags.any_entries_eq]

/-- Asking for a contained text by a pattern keeps the meaning. -/
lemma holdsOn?_spellOutText (c : Condition) :
    c.spellOutText.holdsOn? engine tags = c.holdsOn? engine tags := by
  cases c with
  | contains key text =>
    simp only [spellOutText, holdsOn?, engine.finds_regexLiteral]
  | _ => rfl

/-- A value matches the pattern for the empty text when it is empty. -/
lemma any_finds_empty (value : Option String) :
    value.any (engine.finds { regex := "^$" }) = decide (value = some "") := by
  rw [engine.finds_empty]
  cases value with
  | none => rfl
  | some value => simp only [Option.any_some, Option.some_inj]

/-- Asking for an empty value by a pattern keeps the meaning. -/
lemma holdsOn?_spellOutEmptyValue (c : Condition) :
    c.spellOutEmptyValue.holdsOn? engine tags = c.holdsOn? engine tags := by
  cases c with
  | equals key value =>
    by_cases hvalue : value = ""
    · subst hvalue
      rw [spellOutEmptyValue, if_pos rfl]
      simp only [holdsOn?, any_finds_empty]
    · simp only [spellOutEmptyValue, if_neg hvalue]
  | differs key value =>
    by_cases hvalue : value = ""
    · subst hvalue
      rw [spellOutEmptyValue, if_pos rfl]
      simp only [holdsOn?, any_finds_empty, ne_eq, decide_not]
    · simp only [spellOutEmptyValue, if_neg hvalue]
  | _ => rfl

/-- Asking for an empty key by a pattern on keys keeps the meaning. -/
lemma holdsOn?_spellOutEmptyKey (c : Condition) :
    c.spellOutEmptyKey.holdsOn? engine tags = c.holdsOn? engine tags := by
  cases c with
  | hasKey key =>
    by_cases hkey : key = ""
    · have hany : engine.finds { regex := ".*" } = fun _ => true :=
        funext fun value => engine.finds_anything _ value rfl
      subst hkey
      rw [spellOutEmptyKey, if_pos rfl, holdsOn?_likeBoth_empty, hany, holdsOn?]
      cases tags.get? "" <;> rfl
    · simp only [spellOutEmptyKey, if_neg hkey]
  | equals key value =>
    by_cases hkey : key = ""
    · subst hkey
      rw [spellOutEmptyKey, if_pos rfl, holdsOn?_likeBoth_empty, engine.finds_anchored, holdsOn?]
      cases tags.get? "" <;> simp
    · simp only [spellOutEmptyKey, if_neg hkey]
  | like key pattern =>
    by_cases hkey : key = ""
    · subst hkey
      rw [spellOutEmptyKey, if_pos rfl, holdsOn?_likeBoth_empty, holdsOn?]
    · simp only [spellOutEmptyKey, if_neg hkey]
  | _ => rfl

/-! ### Canonical conditions -/

/-- After the first step, a condition does not ask for a contained text. -/
lemma spellOutText_ne_contains (c : Condition) (key text : String) :
    c.spellOutText ≠ contains key text := by
  cases c <;> simp [spellOutText]

/-- The second and the third step leave no condition that the query language has no form for, if
none asks for a contained text. -/
lemma isExpressible_spellOut {c : Condition} (h : ∀ key text, c ≠ contains key text) :
    c.spellOutEmptyValue.spellOutEmptyKey.isExpressible = true := by
  cases c with
  | contains key text => exact absurd rfl (h key text)
  | hasKey key =>
    by_cases hkey : key = "" <;> simp [spellOutEmptyValue, spellOutEmptyKey, isExpressible, hkey]
  | equals key value =>
    by_cases hvalue : value = "" <;> by_cases hkey : key = "" <;>
      simp [spellOutEmptyValue, spellOutEmptyKey, isExpressible, hvalue, hkey]
  | differs key value =>
    by_cases hvalue : value = "" <;>
      simp [spellOutEmptyValue, spellOutEmptyKey, isExpressible, hvalue]
  | like key pattern =>
    by_cases hkey : key = "" <;> simp [spellOutEmptyValue, spellOutEmptyKey, isExpressible, hkey]
  | _ => rfl

/-- The canonical form of a condition holds on the same tags as the condition, whichever program
looks for the patterns, and the query language has a form for it. -/
theorem holdsOn?_canonical_and_isExpressible (engine : PatternEngine) (c : Condition) :
    (∀ tags : Tags, c.canonical.holdsOn? engine tags = c.holdsOn? engine tags) ∧
      c.canonical.isExpressible = true := by
  constructor
  · intro tags
    rw [canonical, holdsOn?_spellOutEmptyKey, holdsOn?_spellOutEmptyValue, holdsOn?_spellOutText]
  · exact isExpressible_spellOut c.spellOutText_ne_contains

/-- A point in a text that the value of the empty key has to contain stays a point in the canonical
form, and does not stand for any character there. -/
theorem holdsOn?_canonical_point :
    (contains "" "a.b").canonical = likeBoth "^$" { regex := "a\\.b" } ∧
      (likeBoth "^$" { regex := "a\\.b" }).holdsOn? .basic (.ofList [("", "1a.b2")]) = some true ∧
      (likeBoth "^$" { regex := "a\\.b" }).holdsOn? .basic (.ofList [("", "1axb2")]) =
        some false := by
  have hcanonical : (contains "" "a.b").canonical = likeBoth "^$" { regex := "a\\.b" } := by
    decide +kernel
  have hmeaning := (holdsOn?_canonical_and_isExpressible .basic (contains "" "a.b")).1
  rw [hcanonical] at hmeaning
  refine ⟨hcanonical, ?_, ?_⟩
  · rw [hmeaning]
    decide +kernel
  · rw [hmeaning]
    decide +kernel

end Condition

end TagSearch
