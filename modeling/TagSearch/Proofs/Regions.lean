import Mathlib.Data.List.Infix
import Mathlib.Tactic.Common
import TagSearch.Proofs.Occurrence

/-!
# Comments and placeholders in a text

Two kinds of regions of a document are no part of the query: comments, from `<!--` to the first
`-->` behind it, and placeholders, from two opening braces to the first two closing braces behind
them.  `erase` deletes all regions, from left to right; an opening mark that nothing closes is
ordinary text.

A reader of a text is at each place outside all regions, in a comment, or in a placeholder.  Two
texts *agree* up to some inserted texts when this is the difference between what they leave behind,
whether the reader comes to them from outside or in a placeholder.  This is carried over any text
that is written before both of them (`inserted_erase_append`), as long as it closes its regions or
the two texts agree for a reader in these as well.  Text is taken apart at *neutral* characters:
these stand in no mark, so that no mark reaches across them.

A text that is put into a region *leaks* when it closes the region itself: what stands behind the
first closing mark is outside.  What the leak adds to the text is decided by where a reader is
behind it (`endsIn?`): when he is outside, it adds what is left of it and nothing else.
-/

namespace TagSearch.Text

/-- A kind of regions. -/
inductive Region where
  | comment
  | placeholder
  deriving DecidableEq, Repr

namespace Region

/-- All kinds of regions. -/
def all : List Region := [comment, placeholder]

/-- The mark that opens a region. -/
def opening : Region → List Char
  | comment => ['<', '!', '-', '-']
  | placeholder => ['\x7b', '\x7b']

/-- The mark that closes a region. -/
def closing : Region → List Char
  | comment => ['-', '-', '>']
  | placeholder => ['\x7d', '\x7d']

/-- A character that stands in no mark. -/
def IsNeutral (c : Char) : Prop :=
  ∀ r ∈ all, c ∉ r.opening ∧ c ∉ r.closing

instance (c : Char) : Decidable (IsNeutral c) :=
  inferInstanceAs (Decidable (∀ r ∈ all, c ∉ r.opening ∧ c ∉ r.closing))

lemma mem_all (r : Region) : r ∈ all := by
  cases r <;> decide

lemma opening_ne_nil (r : Region) : r.opening ≠ [] := by
  cases r <;> decide

lemma closing_ne_nil (r : Region) : r.closing ≠ [] := by
  cases r <;> decide

lemma IsNeutral.notMem_opening {c : Char} (h : IsNeutral c) (r : Region) : c ∉ r.opening :=
  (h r (mem_all r)).1

lemma IsNeutral.notMem_closing {c : Char} (h : IsNeutral c) (r : Region) : c ∉ r.closing :=
  (h r (mem_all r)).2

variable {mark text inside rest x y z : List Char} {c : Char} {r : Region}

/-! ### The first place of a mark -/

/-- What follows a mark at the start does not depend on what is written behind a character that the
mark does not hold. -/
lemma afterStart?_append_cons (hc : c ∉ mark) :
    afterStart? mark (x ++ c :: y) = (afterStart? mark x).map (· ++ c :: y) := by
  induction mark generalizing x with
  | nil => rfl
  | cons m mark ih =>
    obtain ⟨hm, hmark⟩ := not_or.mp (mt List.mem_cons.mpr hc)
    cases x with
    | nil => exact if_neg (Ne.symm hm)
    | cons a x =>
      rw [List.cons_append, afterStart?, afterStart?]
      split
      next => exact ih hmark
      next => rfl

/-- A text does not start with a mark that does not hold its first character. -/
lemma afterStart?_cons_of_notMem (hmark : mark ≠ []) (hc : c ∉ mark) :
    afterStart? mark (c :: y) = none := by
  rw [← List.nil_append (c :: y), afterStart?_append_cons hc]
  cases mark with
  | nil => exact absurd rfl hmark
  | cons m mark => rfl

/-- The rest of a text behind the first place where a mark stands in it. -/
def after? (mark : List Char) : List Char → Option (List Char)
  | [] => none
  | c :: text => (afterStart? mark (c :: text)).or (after? mark text)

/-- A mark and what stands behind it are the end of the text. -/
lemma suffix_of_after? (h : after? mark text = some rest) : mark ++ rest <:+ text := by
  induction text with
  | nil => cases h
  | cons c text ih =>
    rcases Option.or_eq_some_iff.mp h with h | ⟨_, h⟩
    · rw [afterStart?_eq_some_iff.mp h]
    · exact (ih h).trans (List.suffix_cons c text)

/-- Nothing stands behind a mark exactly when the mark does not stand in the text. -/
lemma after?_eq_none_iff (hmark : mark ≠ []) : after? mark text = none ↔ ¬ mark <:+: text := by
  induction text with
  | nil => simp [after?, hmark]
  | cons c text ih =>
    rw [after?, Option.or_eq_none_iff, afterStart?_eq_none_iff, ih, List.infix_cons_iff, not_or]

/-- The first place of a mark stays the first one when more is written behind. -/
lemma after?_append_of_eq_some (h : after? mark x = some rest) (y : List Char) :
    after? mark (x ++ y) = some (rest ++ y) := by
  induction x with
  | nil => cases h
  | cons a x ih =>
    rw [List.cons_append, after?, Option.or_eq_some_iff, afterStart?_eq_some_iff]
    rcases Option.or_eq_some_iff.mp h with h | ⟨hstart, h⟩
    · left
      rw [← List.cons_append, afterStart?_eq_some_iff.mp h, List.append_assoc]
    · -- the mark fits into `x`, so a mark at the start would lie in `a :: x`
      right
      have hlen : mark.length ≤ (a :: x).length := by
        have hsuffix := (suffix_of_after? h).length_le
        rw [List.length_append] at hsuffix
        rw [List.length_cons]
        omega
      refine ⟨afterStart?_eq_none_iff.mpr fun hstart' => ?_, ih h⟩
      exact afterStart?_eq_none_iff.mp hstart
        (List.prefix_of_prefix_length_le hstart' (List.prefix_append (a :: x) y) hlen)

/-- The first place of a mark that does not reach across the character `c`. -/
lemma after?_append_cons (hmark : mark ≠ []) (hc : c ∉ mark) :
    after? mark (x ++ c :: y) = ((after? mark x).map (· ++ c :: y)).or (after? mark y) := by
  induction x with
  | nil =>
    change (afterStart? mark (c :: y)).or (after? mark y) = _
    rw [afterStart?_cons_of_notMem hmark hc]
    rfl
  | cons a x ih =>
    rw [List.cons_append, after?, after?, ← List.cons_append, afterStart?_append_cons hc, ih]
    cases afterStart? mark (a :: x) <;> rfl

/-- A mark that is not in `x` is looked for behind it. -/
lemma after?_append_cons_of_eq_none (hmark : mark ≠ []) (hc : c ∉ mark)
    (hx : after? mark x = none) : after? mark (x ++ c :: y) = after? mark y := by
  rw [after?_append_cons hmark hc, hx, Option.map_none, Option.none_or]

/-- A mark that is not in `x` but in `x ++ z` leaves less than `z` behind. -/
lemma length_lt_of_after?_append (h : after? mark x = none) (hmark : mark ≠ [])
    (hrest : after? mark (x ++ z) = some rest) : rest.length < z.length := by
  have hlen : 0 < mark.length := List.length_pos_iff.mpr hmark
  obtain ⟨u, hu⟩ := suffix_of_after? hrest
  by_contra hle
  have hstands : mark <:+: x := by
    have hsuffix : z <:+ rest := by
      refine List.suffix_of_suffix_length_le (List.suffix_append x z) ?_ (Nat.le_of_not_lt hle)
      exact ⟨u ++ mark, by rw [List.append_assoc, hu]⟩
    obtain ⟨v, rfl⟩ := hsuffix
    exact ⟨u, v, List.append_cancel_right (by simpa using hu)⟩
  exact (after?_eq_none_iff hmark).mp h hstands

/-! ### Deleting regions -/

/-- The rest of a text behind the region that it starts with. -/
def skip? (r : Region) (text : List Char) : Option (List Char) :=
  (afterStart? r.opening text).bind (after? r.closing)

/-- The rest of a text behind the region of either kind that it starts with. -/
def skipAny? (text : List Char) : Option (List Char) :=
  (comment.skip? text).or (placeholder.skip? text)

/-- Behind a region the text is shorter. -/
lemma length_lt_of_skip? (h : r.skip? text = some rest) : rest.length < text.length := by
  obtain ⟨inside, hinside, hrest⟩ := Option.bind_eq_some_iff.mp h
  have hlen : 0 < r.opening.length := List.length_pos_iff.mpr r.opening_ne_nil
  have hle := (suffix_of_after? hrest).length_le
  rw [List.length_append] at hle
  rw [afterStart?_eq_some_iff.mp hinside, List.length_append]
  omega

/-- Behind a region of either kind the text is shorter. -/
lemma length_lt_of_skipAny? (h : skipAny? text = some rest) : rest.length < text.length := by
  rcases Option.or_eq_some_iff.mp h with h | ⟨_, h⟩
  · exact length_lt_of_skip? h
  · exact length_lt_of_skip? h

/-- What stands behind a region is the end of the text. -/
lemma suffix_of_skip? (h : r.skip? text = some rest) : rest <:+ text := by
  obtain ⟨inside, hinside, hrest⟩ := Option.bind_eq_some_iff.mp h
  rw [afterStart?_eq_some_iff.mp hinside]
  exact ((List.suffix_append _ _).trans (suffix_of_after? hrest)).trans (List.suffix_append _ _)

/-- A text starts with a region of one kind only. -/
lemma skipAny?_of_skip? (h : r.skip? text = some rest) : skipAny? text = some rest := by
  cases r with
  | comment => rw [skipAny?, h, Option.some_or]
  | placeholder =>
    obtain ⟨inside, hinside, _⟩ := Option.bind_eq_some_iff.mp h
    have hcomment : comment.skip? text = none := by
      rw [afterStart?_eq_some_iff.mp hinside]
      rfl
    rw [skipAny?, hcomment, Option.none_or, h]

/-- The region that a text starts with stays the same when more is written behind. -/
lemma skipAny?_append_of_eq_some (h : skipAny? x = some rest) (y : List Char) :
    skipAny? (x ++ y) = some (rest ++ y) := by
  have hskip : ∃ r : Region, r.skip? x = some rest := by
    rcases Option.or_eq_some_iff.mp h with h | ⟨_, h⟩
    · exact ⟨comment, h⟩
    · exact ⟨placeholder, h⟩
  obtain ⟨r, hr⟩ := hskip
  obtain ⟨inside, hinside, hrest⟩ := Option.bind_eq_some_iff.mp hr
  apply skipAny?_of_skip? (r := r)
  rw [afterStart?_eq_some_iff.mp hinside, List.append_assoc, skip?, afterStart?_eq_some_iff.mpr rfl,
    Option.bind_some]
  exact after?_append_of_eq_some hrest y

/-- A text without its comments and placeholders. -/
def erase : List Char → List Char
  | [] => []
  | c :: text =>
    match _h : skipAny? (c :: text) with
    | some rest => erase rest
    | none => c :: erase text
termination_by text => text.length
decreasing_by
  · exact length_lt_of_skipAny? _h
  · exact Nat.lt_succ_self _

/-- Nothing is deleted from the empty text. -/
@[simp] lemma erase_nil : erase [] = [] := by
  rw [erase]

/-- A text starts with a region, which is deleted, or with a character that is kept. -/
lemma erase_cons (c : Char) (text : List Char) :
    erase (c :: text) = ((skipAny? (c :: text)).map erase).getD (c :: erase text) := by
  rw [erase]
  split
  next rest h => rw [h]; rfl
  next h => rw [h]; rfl

/-- A region at the start is deleted. -/
lemma erase_of_skipAny? (h : skipAny? text = some rest) : erase text = erase rest := by
  cases text with
  | nil => cases h
  | cons c text => rw [erase_cons, h, Option.map_some, Option.getD_some]

/-- A region at the start of a text that goes on behind a neutral character ends before it, or else
with the first closing mark behind it. -/
lemma skip?_append_cons (hc : IsNeutral c) :
    r.skip? (x ++ c :: y) = (afterStart? r.opening x).bind fun inside =>
      ((after? r.closing inside).map (· ++ c :: y)).or (after? r.closing y) := by
  rw [skip?, afterStart?_append_cons (hc.notMem_opening r)]
  cases afterStart? r.opening x with
  | none => rfl
  | some inside => exact after?_append_cons r.closing_ne_nil (hc.notMem_closing r)

/-- A neutral character at the start is kept. -/
lemma erase_cons_of_isNeutral (hc : IsNeutral c) (y : List Char) :
    erase (c :: y) = c :: erase y := by
  have hskip : ∀ r : Region, r.skip? (c :: y) = none := by
    intro r
    rw [skip?, afterStart?_cons_of_notMem r.opening_ne_nil (hc.notMem_opening r)]
    rfl
  rw [erase_cons, skipAny?, hskip, hskip]
  rfl

/-! ### Texts that close what they open -/

/-- Whether a text closes all regions of one kind that it opens: behind each opening mark there is a
closing one. -/
def closes (r : Region) : List Char → Bool
  | [] => true
  | c :: text =>
    ((afterStart? r.opening (c :: text)).all fun inside => (after? r.closing inside).isSome) &&
      closes r text

/-- An opening mark at the start is closed. -/
lemma exists_after?_of_closes (h : r.closes x = true) (hx : afterStart? r.opening x = some inside) :
    ∃ rest, after? r.closing inside = some rest := by
  cases x with
  | nil =>
    have hopening := (List.append_eq_nil_iff.mp (afterStart?_eq_some_iff.mp hx).symm).1
    exact absurd hopening r.opening_ne_nil
  | cons c text =>
    rw [closes, hx, Bool.and_eq_true] at h
    exact Option.isSome_iff_exists.mp h.1

/-- The end of a text that closes what it opens does so too. -/
lemma closes_of_suffix (h : r.closes text = true) (hrest : rest <:+ text) :
    r.closes rest = true := by
  induction text with
  | nil => rwa [List.suffix_nil.mp hrest]
  | cons c text ih =>
    rcases List.suffix_cons_iff.mp hrest with rfl | hrest
    · exact h
    · rw [closes, Bool.and_eq_true] at h
      exact ih h.2 hrest

/-- A text that goes on behind a neutral character closes what it opens when both its parts do, or
when the second does and holds a closing mark for the first. -/
lemma closes_append_cons (hc : IsNeutral c)
    (hx : r.closes x = true ∨ (after? r.closing y).isSome = true) (hy : r.closes y = true) :
    r.closes (x ++ c :: y) = true := by
  induction x with
  | nil =>
    rw [List.nil_append, closes,
      afterStart?_cons_of_notMem r.opening_ne_nil (hc.notMem_opening r), hy]
    rfl
  | cons a x ih =>
    have hrest := ih (hx.imp_left fun hx => closes_of_suffix hx (List.suffix_cons a x))
    rw [List.cons_append, closes, hrest, ← List.cons_append,
      afterStart?_append_cons (hc.notMem_opening r), Bool.and_true]
    cases hinside : afterStart? r.opening (a :: x) with
    | none => rfl
    | some inside =>
      change (after? r.closing (inside ++ c :: y)).isSome = true
      rw [after?_append_cons r.closing_ne_nil (hc.notMem_closing r), Option.isSome_or,
        Option.isSome_map, Bool.or_eq_true]
      exact hx.imp_left fun hx => Option.isSome_iff_exists.mpr (exists_after?_of_closes hx hinside)

/-- A region at the start of a text that closes what it opens does not depend on what follows. -/
lemma skip?_append_cons_of_closes (hc : IsNeutral c) (h : r.closes x = true) :
    r.skip? (x ++ c :: y) = (r.skip? x).map (· ++ c :: y) := by
  rw [skip?_append_cons hc, skip?]
  cases hinside : afterStart? r.opening x with
  | none => rfl
  | some inside =>
    obtain ⟨rest, hrest⟩ := exists_after?_of_closes h hinside
    rw [Option.bind_some, Option.bind_some, hrest]
    rfl

/-! ### Texts with insertions -/

/-- The text `l` is the text `l₀` with further texts `ts` written into it, in their order. -/
inductive Inserted : (ts : List (List Char)) → (l l₀ : List Char) → Prop
  | nil : Inserted [] [] []
  | cons (c : Char) {ts : List (List Char)} {l l₀ : List Char} (h : Inserted ts l l₀) :
    Inserted ts (c :: l) (c :: l₀)
  | insert (t : List Char) {ts : List (List Char)} {l l₀ : List Char} (h : Inserted ts l l₀) :
    Inserted (t :: ts) (t ++ l) l₀

variable {ts : List (List Char)} {l l₀ y₀ : List Char}

namespace Inserted

/-- A text is itself with nothing written into it. -/
lemma refl (l : List Char) : Inserted [] l l := by
  induction l with
  | nil => exact nil
  | cons c l ih => exact cons c ih

/-- A text grows by what is written into it. -/
lemma length_eq (h : Inserted ts l l₀) : l.length = l₀.length + ts.flatten.length := by
  induction h with
  | nil => rfl
  | cons c h ih =>
    rw [List.length_cons, List.length_cons, ih]
    omega
  | insert t h ih =>
    rw [List.length_append, List.flatten_cons, List.length_append, ih]
    omega

/-- A text stays the same exactly when all that is written into it is empty. -/
lemma eq_iff (h : Inserted ts l l₀) : l = l₀ ↔ ∀ t ∈ ts, t = [] := by
  constructor
  · intro heq
    have hlen := h.length_eq
    rw [heq] at hlen
    have hzero : ts.flatten.length = 0 := by omega
    exact List.flatten_eq_nil_iff.mp (List.eq_nil_of_length_eq_zero hzero)
  · intro hts
    induction h with
    | nil => rfl
    | cons c h ih => rw [ih hts]
    | insert t h ih =>
      rw [hts t List.mem_cons_self, List.nil_append]
      exact ih fun t' ht' => hts t' (List.mem_cons_of_mem _ ht')

end Inserted

/-- What two texts leave behind for a reader who comes to them in a region is the same up to the
inserted texts `ts`. -/
def AgreeIn (r : Region) (ts : List (List Char)) (y y₀ : List Char) : Prop :=
  Option.Rel (fun rest rest₀ => Inserted ts (erase rest) (erase rest₀)) (after? r.closing y)
    (after? r.closing y₀)

/-- What two texts leave behind for a reader who comes to them from outside or in a placeholder is
the same up to the inserted texts `ts`. -/
structure Agree (ts : List (List Char)) (y y₀ : List Char) : Prop where
  outside : Inserted ts (erase y) (erase y₀)
  inPlaceholder : placeholder.AgreeIn ts y y₀

/-- A text agrees with itself for a reader in a region. -/
lemma AgreeIn.refl (r : Region) (y : List Char) : r.AgreeIn [] y y := by
  rw [AgreeIn]
  cases after? r.closing y with
  | none => exact .none
  | some rest => exact .some (.refl _)

/-- A text agrees with itself. -/
lemma Agree.refl (y : List Char) : Agree [] y y :=
  ⟨.refl _, .refl _ y⟩

/-- Texts that agree for a reader in a region also do so with a text written before both, when they
agree behind each end of the region that it may hold. -/
lemma AgreeIn.append_left (hc : IsNeutral c) (hy : r.AgreeIn ts y y₀)
    (hrests : ∀ rest, rest <:+ x → Inserted ts (erase (rest ++ c :: y)) (erase (rest ++ c :: y₀))) :
    r.AgreeIn ts (x ++ c :: y) (x ++ c :: y₀) := by
  have hmark : c ∉ r.closing := hc.notMem_closing r
  rw [AgreeIn, after?_append_cons r.closing_ne_nil hmark, after?_append_cons r.closing_ne_nil hmark]
  cases h : after? r.closing x with
  | none => exact hy
  | some rest => exact .some (hrests rest ((List.suffix_append _ _).trans (suffix_of_after? h)))

/-- A region that starts in a text written before both is deleted alike from both. -/
lemma rel_skip? (hc : IsNeutral c) (hx : r.closes x = true ∨ r.AgreeIn ts y y₀)
    (hrests : ∀ rest, rest <:+ x → rest.length < x.length →
      Inserted ts (erase (rest ++ c :: y)) (erase (rest ++ c :: y₀))) :
    Option.Rel (fun rest rest₀ => Inserted ts (erase rest) (erase rest₀)) (r.skip? (x ++ c :: y))
      (r.skip? (x ++ c :: y₀)) := by
  rcases hx with hx | hy
  · rw [skip?_append_cons_of_closes hc hx, skip?_append_cons_of_closes hc hx]
    cases hskip : r.skip? x with
    | none => exact .none
    | some rest =>
      exact .some (hrests rest (suffix_of_skip? hskip) (length_lt_of_skip? hskip))
  · rw [skip?, skip?, afterStart?_append_cons (hc.notMem_opening r),
      afterStart?_append_cons (hc.notMem_opening r)]
    cases hinside : afterStart? r.opening x with
    | none => exact .none
    | some inside =>
      have hx : x = r.opening ++ inside := afterStart?_eq_some_iff.mp hinside
      have hlen : 0 < r.opening.length := List.length_pos_iff.mpr r.opening_ne_nil
      refine hy.append_left hc fun rest hrest => ?_
      have hle := hrest.length_le
      rw [hx] at hrests
      refine hrests rest (hrest.trans (List.suffix_append _ _)) ?_
      rw [List.length_append]
      omega

/-- What is deleted from a text that is written before two others does not depend on these, when it
closes its regions or when the two agree for a reader in them. -/
lemma inserted_erase_append (hc : IsNeutral c) (hy : Inserted ts (erase y) (erase y₀))
    (hx : ∀ r : Region, r.closes x = true ∨ r.AgreeIn ts y y₀) :
    Inserted ts (erase (x ++ c :: y)) (erase (x ++ c :: y₀)) := by
  induction hn : x.length using Nat.strong_induction_on generalizing x with
  | _ n ih =>
    have hrests : ∀ rest, rest <:+ x → rest.length < x.length →
        Inserted ts (erase (rest ++ c :: y)) (erase (rest ++ c :: y₀)) := fun rest hrest hlen =>
      ih rest.length (hn ▸ hlen) (fun r => (hx r).imp_left fun h => closes_of_suffix h hrest) rfl
    cases x with
    | nil =>
      rw [List.nil_append, List.nil_append, erase_cons_of_isNeutral hc, erase_cons_of_isNeutral hc]
      exact .cons c hy
    | cons a x =>
      have hrest := hrests x (List.suffix_cons a x) (Nat.lt_succ_self _)
      have hcomment := rel_skip? hc (hx comment) hrests
      have hplaceholder := rel_skip? hc (hx placeholder) hrests
      rw [List.cons_append, List.cons_append, erase_cons, erase_cons, skipAny?, skipAny?,
        ← List.cons_append, ← List.cons_append]
      generalize comment.skip? (a :: x ++ c :: y) = o at hcomment ⊢
      generalize comment.skip? (a :: x ++ c :: y₀) = o₀ at hcomment ⊢
      cases hcomment with
      | some h => exact h
      | none =>
        generalize placeholder.skip? (a :: x ++ c :: y) = o at hplaceholder ⊢
        generalize placeholder.skip? (a :: x ++ c :: y₀) = o₀ at hplaceholder ⊢
        cases hplaceholder with
        | some h => exact h
        | none => exact .cons a hrest

/-- Texts that agree also do so with a text that closes its comments written before both. -/
lemma Agree.append_left (hy : Agree ts y y₀) (hc : IsNeutral c) (hx : comment.closes x = true) :
    Agree ts (x ++ c :: y) (x ++ c :: y₀) := by
  have hsuffix : ∀ rest, rest <:+ x → ∀ r : Region,
      r.closes rest = true ∨ r.AgreeIn ts y y₀ := by
    intro rest hrest r
    cases r with
    | comment => exact .inl (closes_of_suffix hx hrest)
    | placeholder => exact .inr hy.inPlaceholder
  constructor
  · exact inserted_erase_append hc hy.outside (hsuffix x List.suffix_rfl)
  · exact hy.inPlaceholder.append_left hc fun rest hrest =>
      inserted_erase_append hc hy.outside (hsuffix rest hrest)

/-! ### Where a reader is behind a text -/

/-- The region whose opening mark a text starts with. -/
def opens? (text : List Char) : Option Region :=
  all.find? fun r => (afterStart? r.opening text).isSome

/-- The region in which a reader is behind a text to which he came from outside: the first one that
he meets and that is not closed in the text. -/
def endsIn? : List Char → Option Region
  | [] => none
  | c :: text =>
    match _h : skipAny? (c :: text) with
    | some rest => endsIn? rest
    | none => (opens? (c :: text)).or (endsIn? text)
termination_by text => text.length
decreasing_by
  · exact length_lt_of_skipAny? _h
  · exact Nat.lt_succ_self _

/-- No region starts before a neutral character when no mark opens one there. -/
lemma skipAny?_append_cons_of_opens?_eq_none (hc : IsNeutral c) (h : opens? x = none) :
    skipAny? (x ++ c :: y) = none := by
  have hskip : ∀ r : Region, r.skip? (x ++ c :: y) = none := by
    intro r
    have hstart : afterStart? r.opening x = none := by
      simpa using List.find?_eq_none.mp h r (mem_all r)
    rw [skip?_append_cons hc, hstart, Option.bind_none]
  rw [skipAny?, hskip, hskip]
  rfl

/-- A region that is opened at the start of a text, but not closed in it, ends behind it. -/
lemma skipAny?_append_cons_of_opens?_eq_some (hc : IsNeutral c) (h : opens? x = some r)
    (hskip : skipAny? x = none) (hy : after? r.closing y = some rest) :
    skipAny? (x ++ c :: y) = some rest := by
  have hstart : (afterStart? r.opening x).isSome = true :=
    List.find?_some (p := fun r => (afterStart? (opening r) x).isSome) h
  obtain ⟨inside, hinside⟩ := Option.isSome_iff_exists.mp hstart
  have hopen : after? r.closing inside = none := by
    by_contra hclosed
    obtain ⟨rest', hrest'⟩ := Option.ne_none_iff_exists'.mp hclosed
    have hr : r.skip? x = some rest' := by rw [skip?, hinside, Option.bind_some, hrest']
    rw [skipAny?_of_skip? hr] at hskip
    cases hskip
  apply skipAny?_of_skip? (r := r)
  rw [skip?_append_cons hc, hinside, Option.bind_some, hopen, hy]
  rfl

/-- What is deleted from a text does not depend on what follows, when a reader is outside behind
it. -/
lemma erase_append_cons_of_endsIn? (hc : IsNeutral c) (h : endsIn? x = none) :
    erase (x ++ c :: y) = erase x ++ c :: erase y := by
  fun_induction endsIn? x with
  | case1 => rw [List.nil_append, erase_nil, List.nil_append, erase_cons_of_isNeutral hc]
  | case2 a x rest hskip ih =>
    rw [erase_of_skipAny? (skipAny?_append_of_eq_some hskip _), erase_of_skipAny? hskip]
    exact ih h
  | case3 a x hskip ih =>
    obtain ⟨hopens, hends⟩ := Option.or_eq_none_iff.mp h
    have hskip' := skipAny?_append_cons_of_opens?_eq_none (y := y) hc hopens
    rw [List.cons_append] at hskip' ⊢
    rw [erase_cons, erase_cons, hskip, hskip']
    exact congrArg (a :: ·) (ih hends)

/-- Behind a text of which nothing is left a reader is outside. -/
lemma endsIn?_of_erase_eq_nil (h : erase x = []) : endsIn? x = none := by
  fun_induction endsIn? x with
  | case1 => rfl
  | case2 a x rest hskip ih => exact ih (by rwa [erase_of_skipAny? hskip] at h)
  | case3 a x hskip ih =>
    rw [erase_cons, hskip] at h
    cases h

/-- A text behind which a reader is outside inserts what is left of it. -/
lemma inserted_erase_append_cons (hc : IsNeutral c) (hx : endsIn? x = none)
    (hy : Inserted ts (erase y) (erase y₀)) :
    Inserted (erase x :: ts) (erase (x ++ c :: y)) (erase (c :: y₀)) := by
  rw [erase_append_cons_of_endsIn? hc hx, erase_cons_of_isNeutral hc]
  exact .insert _ (.cons c hy)

/-- What is left of two texts below the same text is decided by where a reader is behind this: when
he is outside, it is what is left of the two, and when he is in a region, it is what is left of
them behind the end of the region. -/
lemma inserted_erase_append_of_endsIn? (hc : IsNeutral c)
    (houtside : endsIn? x = none → Inserted ts (erase y) (erase y₀))
    (hinside : ∀ r, endsIn? x = some r → ∃ rest rest₀, after? r.closing y = some rest ∧
      after? r.closing y₀ = some rest₀ ∧ Inserted ts (erase rest) (erase rest₀)) :
    Inserted ts (erase (x ++ c :: y)) (erase (x ++ c :: y₀)) := by
  fun_induction endsIn? x with
  | case1 =>
    rw [List.nil_append, List.nil_append, erase_cons_of_isNeutral hc, erase_cons_of_isNeutral hc]
    exact .cons c (houtside rfl)
  | case2 a x rest hskip ih =>
    rw [erase_of_skipAny? (skipAny?_append_of_eq_some hskip _),
      erase_of_skipAny? (skipAny?_append_of_eq_some hskip _)]
    exact ih houtside hinside
  | case3 a x hskip ih =>
    cases hopens : opens? (a :: x) with
    | none =>
      rw [hopens, Option.none_or] at houtside hinside
      have hskip' := fun y => skipAny?_append_cons_of_opens?_eq_none (y := y) hc hopens
      simp only [List.cons_append] at hskip' ⊢
      rw [erase_cons, erase_cons, hskip', hskip']
      exact .cons a (ih houtside hinside)
    | some r =>
      rw [hopens, Option.some_or] at hinside
      obtain ⟨rest, rest₀, hrest, hrest₀, hinserted⟩ := hinside r rfl
      rw [erase_of_skipAny? (skipAny?_append_cons_of_opens?_eq_some hc hopens hskip hrest),
        erase_of_skipAny? (skipAny?_append_cons_of_opens?_eq_some hc hopens hskip hrest₀)]
      exact hinserted

/-! ### What a text leaks -/

/-- What stands behind the region into which a text is put, where the document goes on with `ending`
to close the region: nothing, unless the text itself closes the region. -/
def leak (r : Region) (ending text : List Char) : List Char :=
  (after? r.closing (text ++ ending)).getD []

variable {ending front text₀ z₀ : List Char} {last c' : Char}

/-- The region of a text ends where its leak begins. -/
lemma after?_append_eq_some_leak (hending : (after? r.closing ending).isSome = true)
    (text : List Char) : after? r.closing (text ++ ending) = some (r.leak ending text) := by
  cases h : after? r.closing (text ++ ending) with
  | some rest => rw [leak, h, Option.getD_some]
  | none =>
    obtain ⟨rest, hrest⟩ := Option.isSome_iff_exists.mp hending
    have hstands : r.closing <:+: ending :=
      List.IsInfix.trans ⟨[], rest, rfl⟩ (suffix_of_after? hrest).isInfix
    have hnot := (after?_eq_none_iff r.closing_ne_nil).mp h
    exact absurd (hstands.trans (List.suffix_append text ending).isInfix) hnot

/-- A text leaks nothing exactly when the closing mark stands in it neither itself nor with the
beginning of what follows. -/
lemma leak_eq_nil_iff (hending : (after? r.closing (front ++ [last])).isSome = true) :
    r.leak (front ++ [last]) text = [] ↔ ¬ r.closing <:+: text ++ front := by
  have hleak : after? r.closing (text ++ front ++ [last]) =
      some (r.leak (front ++ [last]) text) := by
    rw [List.append_assoc]
    exact after?_append_eq_some_leak hending text
  rw [← after?_eq_none_iff r.closing_ne_nil]
  constructor
  · intro hnil
    cases h : after? r.closing (text ++ front) with
    | none => rfl
    | some rest =>
      rw [after?_append_of_eq_some h, hnil] at hleak
      simp at hleak
  · intro h
    have hlen := length_lt_of_after?_append h r.closing_ne_nil hleak
    exact List.eq_nil_of_length_eq_zero (Nat.lt_one_iff.mp hlen)

/-- A text that is set off from the closing mark leaks nothing exactly when the mark does not stand
in it. -/
lemma leak_cons_eq_nil_iff (hc : c ∉ r.closing) (hending : after? r.closing ending = some []) :
    r.leak (c :: ending) text = [] ↔ ¬ r.closing <:+: text := by
  rw [leak, after?_append_cons r.closing_ne_nil hc, hending, ← after?_eq_none_iff r.closing_ne_nil]
  cases after? r.closing text with
  | none => simp
  | some rest => simp

/-- A region that a text opens is deleted up to the closing mark. -/
lemma erase_opening_append (h : after? r.closing inside = some rest) :
    erase (r.opening ++ inside) = erase rest := by
  have hskip : r.skip? (r.opening ++ inside) = some rest := by
    rw [skip?, afterStart?_eq_some_iff.mpr rfl, Option.bind_some, h]
  exact erase_of_skipAny? (skipAny?_of_skip? hskip)

/-- A reader in a region goes on with the leak of a text when nothing closes the region before. -/
lemma after?_append_cons_eq_some_leak (hfront : after? r.closing front = none)
    (hc : c ∉ r.closing) (hending : (after? r.closing ending).isSome = true)
    (text z : List Char) :
    after? r.closing (front ++ c :: (text ++ ending ++ z)) = some (r.leak ending text ++ z) := by
  rw [after?_append_cons_of_eq_none r.closing_ne_nil hc hfront]
  exact after?_append_of_eq_some (after?_append_eq_some_leak hending text) z

/-- A reader who comes from outside to an opening mark goes on with the leak of the text, and so
does one who is in such a region already. -/
lemma erase_region_eq (hfront : after? r.closing (r.opening ++ front) = none) (hc : c ∉ r.closing)
    (hending : (after? r.closing ending).isSome = true) (text z : List Char) :
    erase (r.opening ++ (front ++ c :: (text ++ ending ++ z))) =
        erase (r.leak ending text ++ z) ∧
      after? r.closing (r.opening ++ (front ++ c :: (text ++ ending ++ z))) =
        some (r.leak ending text ++ z) := by
  have hfront' : after? r.closing front = none := by
    rw [after?_eq_none_iff r.closing_ne_nil] at hfront ⊢
    exact fun h => hfront (h.trans (List.suffix_append _ _).isInfix)
  constructor
  · exact erase_opening_append (after?_append_cons_eq_some_leak hfront' hc hending text z)
  · rw [← List.append_assoc]
    exact after?_append_cons_eq_some_leak hfront hc hending text z

/-- Placeholders with a text that leaks and with one that does not agree up to what is left of the
leak, when a reader is outside behind the leak. -/
lemma agree_placeholder (hfront : after? placeholder.closing (placeholder.opening ++ front) = none)
    (hc : c ∉ placeholder.closing) (hending : (after? placeholder.closing ending).isSome = true)
    (hc' : IsNeutral c') (hleak : endsIn? (placeholder.leak ending text) = none)
    (hleak₀ : placeholder.leak ending text₀ = []) (hz : Inserted ts (erase z) (erase z₀)) :
    Agree (erase (placeholder.leak ending text) :: ts)
      (placeholder.opening ++ (front ++ c :: (text ++ ending ++ c' :: z)))
      (placeholder.opening ++ (front ++ c :: (text₀ ++ ending ++ c' :: z₀))) := by
  obtain ⟨houtside, hinside⟩ := erase_region_eq hfront hc hending text (c' :: z)
  obtain ⟨houtside₀, hinside₀⟩ := erase_region_eq hfront hc hending text₀ (c' :: z₀)
  rw [hleak₀, List.nil_append] at houtside₀ hinside₀
  have hinserted := inserted_erase_append_cons hc' hleak hz
  constructor
  · rw [houtside, houtside₀]
    exact hinserted
  · rw [AgreeIn, hinside, hinside₀]
    exact .some hinserted

end Region

end TagSearch.Text
