import Mathlib.Data.List.TakeDrop
import Mathlib.Data.List.TakeWhile
import Mathlib.Tactic.Common
import TagSearch.Condition.Clause
import TagSearch.Proofs.AttributeValue

/-!
# Which dates are relative

A relative date has four parts in a fixed order: a sign, digits, a blank and a unit, where all but
the digits may be missing.  The recognizer takes as much as it can for each part and then goes on to
the next.  It never has to come back, because what may follow a part does not begin with a character
that the part could have taken.  So it accepts just the texts that have such parts
(`isRelative_iff`).

No character of a relative date has a reference, so the date stands in its clause as it was given.
-/

namespace TagSearch

namespace RelativeDate

open Text

/-- The units of time in the singular and the plural. -/
def unitWords : List String :=
  ["second", "seconds", "minute", "minutes", "hour", "hours", "day", "days", "week", "weeks",
    "month", "months", "year", "years"]

/-- A date relative to now: an optional minus sign, at least one of the ASCII digits, at most one
blank, and at most one unit; nothing stands before, between or behind them. -/
def IsRelativeDate (date : String) : Prop :=
  ∃ sign digits blank unit : String, date = sign ++ digits ++ blank ++ unit ∧
    (sign = "" ∨ sign = "-") ∧
    (digits ≠ "" ∧ ∀ c ∈ digits.toList, '0' ≤ c ∧ c ≤ '9') ∧
    (blank = "" ∨ blank = " ") ∧
    (unit = "" ∨ unit ∈ unitWords)

/-! ### The parts of a date -/

/-- A part of one character that may be missing, as a text and as a list of characters. -/
lemma optional_iff {part word : String} {c : Char} (hword : word.toList = [c]) :
    (part = "" ∨ part = word) ↔ (part.toList = [] ∨ part.toList = [c]) := by
  rw [← hword, String.toList_inj, String.toList_eq_nil_iff]

/-- A text is the character that was dropped from its front, if any, and what is left. -/
lemma exists_append_dropOne (c : Char) (text : List Char) :
    ∃ first, (first = [] ∨ first = [c]) ∧ first ++ dropOne c text = text := by
  cases text with
  | nil => exact ⟨[], .inl rfl, rfl⟩
  | cons d text =>
    by_cases h : c = d
    · refine ⟨[c], .inr rfl, ?_⟩
      rw [dropOne, if_pos h, h, List.singleton_append]
    · refine ⟨[], .inl rfl, ?_⟩
      rw [dropOne, if_neg h, List.nil_append]

/-- One character is dropped from a text that goes on with another one. -/
lemma dropOne_append {c : Char} {first text : List Char} (hfirst : first = [] ∨ first = [c])
    (htext : text.head? ≠ some c) : dropOne c (first ++ text) = text := by
  rcases hfirst with rfl | rfl
  · cases text with
    | nil => rfl
    | cons d text =>
      have hne : c ≠ d := fun h => htext (congrArg some h.symm)
      rw [List.nil_append, dropOne, if_neg hne]
  · rw [List.singleton_append, dropOne, if_pos rfl]

/-- Digits are split off a text that goes on without a digit. -/
lemma span_isDigit_append {digits text : List Char} (hdigits : ∀ c ∈ digits, c.isDigit = true)
    (htext : ∀ c, text.head? = some c → c.isDigit = false) :
    (digits ++ text).span Char.isDigit = (digits, text) := by
  have hrest : text.takeWhile Char.isDigit = [] ∧ text.dropWhile Char.isDigit = text := by
    cases text with
    | nil => exact ⟨rfl, rfl⟩
    | cons c text =>
      have hc : c.isDigit = false := htext c rfl
      simp [hc]
  rw [List.span_eq_takeWhile_dropWhile, List.takeWhile_append_of_pos hdigits,
    List.dropWhile_append_of_pos hdigits, hrest.1, hrest.2, List.append_nil]

/-- The digits are the ASCII digits. -/
lemma isDigit_iff {c : Char} : c.isDigit = true ↔ '0' ≤ c ∧ c ≤ '9' := by
  simp [Char.isDigit, Char.le_def]

/-- Each unit is accepted in the singular and in the plural, and nothing else but no unit. -/
lemma isUnit_iff {unit : String} : isUnit unit.toList = true ↔ unit = "" ∨ unit ∈ unitWords := by
  have hwords : unitWords = units.flatMap fun word => [word, word ++ "s"] := by decide
  have hword (word : String) : (unit.toList = word.toList ∨ unit.toList = word.toList ++ ['s']) ↔
      unit ∈ [word, word ++ "s"] := by
    have hplural : word.toList ++ ['s'] = (word ++ "s").toList := by simp
    rw [hplural, String.toList_inj, String.toList_inj]
    simp
  rw [hwords, List.mem_flatMap]
  simp only [← hword, isUnit, Bool.or_eq_true, List.any_eq_true, beq_iff_eq, List.isEmpty_iff,
    String.toList_eq_nil_iff]

/-- A unit begins with neither a blank nor a digit. -/
lemma head?_unit {unit : String} (h : unit = "" ∨ unit ∈ unitWords) :
    unit.toList.head? ≠ some ' ' ∧ ∀ c, unit.toList.head? = some c → c.isDigit = false := by
  have hwords : ∀ word ∈ "" :: unitWords, word.toList.head? ≠ some ' ' ∧
      (word.toList.head?.all fun c => !c.isDigit) = true := by decide
  obtain ⟨hblank, hdigit⟩ := hwords unit (List.mem_cons.mpr h)
  refine ⟨hblank, fun c hc => ?_⟩
  rw [hc] at hdigit
  simpa using hdigit

/-! ### The recognizer -/

/-- What is accepted has the parts of a relative date. -/
lemma isRelativeDate_of_isRelative {date : String} (h : isRelative date = true) :
    IsRelativeDate date := by
  obtain ⟨sign, hsign, hdate⟩ := exists_append_dropOne '-' date.toList
  unfold isRelative at h
  generalize dropOne '-' date.toList = text at h hdate
  have htext : text.takeWhile Char.isDigit ++ text.dropWhile Char.isDigit = text :=
    List.takeWhile_append_dropWhile
  have hdigits : ∀ c ∈ text.takeWhile Char.isDigit, c.isDigit = true :=
    fun c hc => List.mem_takeWhile_imp hc
  rw [List.span_eq_takeWhile_dropWhile] at h
  generalize text.takeWhile Char.isDigit = digits at h htext hdigits
  generalize text.dropWhile Char.isDigit = rest at h htext
  cases digits with
  | nil => cases h
  | cons d digits =>
    have hunit : isUnit (dropOne ' ' rest) = true := h
    obtain ⟨blank, hblank, hrest⟩ := exists_append_dropOne ' ' rest
    generalize dropOne ' ' rest = unit at hunit hrest
    refine ⟨String.ofList sign, String.ofList (d :: digits), String.ofList blank,
      String.ofList unit, ?_, ?_, ⟨?_, ?_⟩, ?_, ?_⟩
    · rw [← String.toList_inj, ← hdate, ← htext, ← hrest]
      simp
    · rwa [optional_iff rfl, String.toList_ofList]
    · simp
    · intro c hc
      rw [String.toList_ofList] at hc
      exact isDigit_iff.mp (hdigits c hc)
    · rwa [optional_iff rfl, String.toList_ofList]
    · rwa [← isUnit_iff, String.toList_ofList]

/-- A text with the parts of a relative date is accepted. -/
lemma isRelative_of_isRelativeDate {date : String} (h : IsRelativeDate date) :
    isRelative date = true := by
  obtain ⟨sign, digits, blank, unit, rfl, hsign, ⟨hne, hdigits⟩, hblank, hunit⟩ := h
  obtain ⟨hunitBlank, hunitDigit⟩ := head?_unit hunit
  replace hsign : sign.toList = [] ∨ sign.toList = ['-'] := (optional_iff rfl).mp hsign
  replace hblank : blank.toList = [] ∨ blank.toList = [' '] := (optional_iff rfl).mp hblank
  replace hdigits : ∀ c ∈ digits.toList, c.isDigit = true :=
    fun c hc => isDigit_iff.mpr (hdigits c hc)
  obtain ⟨d, ds, hcons⟩ := List.exists_cons_of_ne_nil (mt String.toList_eq_nil_iff.mp hne)
  -- the digits begin with no sign, and what follows them with no digit
  have hfirst : (digits.toList ++ (blank.toList ++ unit.toList)).head? ≠ some '-' := by
    have hd : d.isDigit = true := hdigits d (hcons ▸ List.mem_cons_self)
    rw [hcons, List.cons_append, List.head?_cons]
    rintro ⟨rfl⟩
    exact absurd hd (by decide)
  have hnext : ∀ c, (blank.toList ++ unit.toList).head? = some c → c.isDigit = false := by
    rcases hblank with hblank | hblank
    · simpa [hblank] using hunitDigit
    · simp [hblank]
  have hspan := span_isDigit_append hdigits hnext
  rw [hcons] at hspan hfirst
  rw [isRelative, String.toList_append, String.toList_append, String.toList_append,
    List.append_assoc, List.append_assoc, hcons, dropOne_append hsign hfirst, hspan]
  exact (congrArg isUnit (dropOne_append hblank hunitBlank)).trans (isUnit_iff.mpr hunit)

/-- Just the relative dates are accepted. -/
lemma isRelative_iff {date : String} : isRelative date = true ↔ IsRelativeDate date :=
  ⟨isRelativeDate_of_isRelative, isRelative_of_isRelativeDate⟩

instance (date : String) : Decidable (IsRelativeDate date) :=
  decidable_of_iff _ isRelative_iff

/-! ### The clause of a date -/

/-- No character of a relative date has a reference. -/
lemma IsRelativeDate.escape_eq_self {date : String} (h : IsRelativeDate date) :
    Attribute.escape date = date := by
  obtain ⟨sign, digits, blank, unit, rfl, hsign, ⟨_, hdigits⟩, hblank, hunit⟩ := h
  have hdigit : ∀ c ∈ '&' :: Attribute.reserved, c.isDigit = false := by
    simp [Attribute.reserved]
  have hparts : ∀ part ∈ ["", "-", " "] ++ unitWords, ∀ c ∈ '&' :: Attribute.reserved,
      c ∉ part.toList := by simp [unitWords, Attribute.reserved]
  refine Attribute.escape_eq_self fun c hc hreference => ?_
  simp only [String.toList_append, List.mem_append] at hc
  rcases hc with ((hc | hc) | hc) | hc
  · exact hparts sign (by rcases hsign with rfl | rfl <;> simp) c hreference hc
  · exact Bool.eq_false_iff.mp (hdigit c hreference) (isDigit_iff.mpr (hdigits c hc))
  · exact hparts blank (by rcases hblank with rfl | rfl <;> simp) c hreference hc
  · exact hparts unit (by rcases hunit with rfl | hunit <;> simp_all) c hreference hc

end RelativeDate

namespace Condition

open Text RelativeDate

/-- A clause on the age of an element holds its date escaped, whatever the entity type. -/
lemma exists_clause_newer (date : String) :
    ∃ clause, (metadata .newer date).clause = .ok clause ∧ ∀ t : EntityType,
      clause.render t =
        "<newer than=\"" ++ Attribute.escape (MetaKind.dateValue date) ++ "\"/>" := by
  refine ⟨_, rfl, fun t => ?_⟩
  rw [← String.toList_inj]
  simp [MetaKind.clause, Clause.render, Clause.element, Element.render, Element.renderAttribute]

/-- A date is written as relative exactly when it is one, and it then stands in the clause just as
it was given; every other date is escaped. -/
theorem newer_clause_recognizes_relative_dates (date : String) :
    ∃ clause, (metadata .newer date).clause = .ok clause ∧ ∀ t : EntityType,
      (IsRelativeDate date → Attribute.escape date = date ∧
        clause.render t = "<newer than=\"\x7b\x7bdate:" ++ date ++ "\x7d\x7d\"/>") ∧
      (¬ IsRelativeDate date →
        clause.render t = "<newer than=\"" ++ Attribute.escape date ++ "\"/>") := by
  obtain ⟨clause, hclause, hrender⟩ := exists_clause_newer date
  refine ⟨clause, hclause, fun t => ⟨fun h => ⟨h.escape_eq_self, ?_⟩, fun h => ?_⟩⟩
  · have hvalue : MetaKind.dateValue date = "\x7b\x7bdate:" ++ date ++ "\x7d\x7d" :=
      if_pos (isRelative_iff.mpr h)
    have hopening : Attribute.escape "\x7b\x7bdate:" = "\x7b\x7bdate:" := by decide
    have hclosing : Attribute.escape "\x7d\x7d" = "\x7d\x7d" := by decide
    rw [hrender, hvalue, Attribute.escape_append, Attribute.escape_append, h.escape_eq_self,
      hopening, hclosing, ← String.toList_inj]
    simp
  · have hvalue : MetaKind.dateValue date = date := if_neg (mt isRelative_iff.mp h)
    rw [hrender, hvalue]

/-- A blank may stand behind the digits without a unit, but a line break may not. -/
theorem newer_clause_recognizes_relative_dates_thirty :
    (∃ clause, (metadata .newer "-30 ").clause = .ok clause ∧
      clause.render .way = "<newer than=\"\x7b\x7bdate:-30 \x7d\x7d\"/>") ∧
    ∃ clause, (metadata .newer "30 days\n").clause = .ok clause ∧
      clause.render .way = "<newer than=\"30 days&#10;\"/>" := by
  have hrelative : IsRelativeDate "-30 " := by decide
  have hother : ¬ IsRelativeDate "30 days\n" := by decide
  obtain ⟨clause, hclause, hrender⟩ := newer_clause_recognizes_relative_dates "-30 "
  obtain ⟨clause', hclause', hrender'⟩ := newer_clause_recognizes_relative_dates "30 days\n"
  exact ⟨⟨clause, hclause, ((hrender .way).1 hrelative).2⟩,
    ⟨clause', hclause', (hrender' .way).2 hother⟩⟩

end Condition

end TagSearch
