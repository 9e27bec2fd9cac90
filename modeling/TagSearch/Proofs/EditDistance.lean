import Mathlib.Order.Bounds.Defs
import Mathlib.Tactic.Common
import TagSearch.Text.EditDistance

/-!
# The edit distance is the least number of edits

An edit inserts, deletes or replaces one character, at any place of a text, and edits follow one
another in any order.  The rows of distances know nothing of places and order: they compare two
texts from the front, character by character.  Both come to the same.

A row holds the distances of all endings of a text, so its entries obey a recursion on the two texts
(`distance_cons_cons`).  Read forwards, the recursion says which edits to make (`editsTo_distance`).
Read backwards, it shows that one edit changes the distance to any text by at most one, wherever in
the text it is made (`EditStep.distance_le`); so no sequence of edits is shorter than the distance.
-/

namespace TagSearch.Text

/-! ### Edits -/

/-- One edit of a text, at any place. -/
inductive EditStep : List Char → List Char → Prop where
  /-- A character is inserted. -/
  | insert (before : List Char) (c : Char) (after : List Char) :
      EditStep (before ++ after) (before ++ c :: after)
  /-- A character is deleted. -/
  | delete (before : List Char) (c : Char) (after : List Char) :
      EditStep (before ++ c :: after) (before ++ after)
  /-- A character is replaced by another one. -/
  | substitute (before : List Char) (c d : Char) (after : List Char) :
      EditStep (before ++ c :: after) (before ++ d :: after)

/-- `EditsTo n xs ys` says that `n` edits, one after the other, make `ys` of `xs`. -/
inductive EditsTo : Nat → List Char → List Char → Prop where
  | refl (xs : List Char) : EditsTo 0 xs xs
  | step {n : Nat} {xs ys zs : List Char} (h : EditStep xs ys) (rest : EditsTo n ys zs) :
      EditsTo (n + 1) xs zs

/-- Without edits a text stays as it is. -/
lemma EditsTo.eq_of_zero {xs ys : List Char} (h : EditsTo 0 xs ys) : xs = ys := by
  cases h
  rfl

/-- An edit can be made behind a further character. -/
lemma EditStep.cons (c : Char) {xs ys : List Char} (h : EditStep xs ys) :
    EditStep (c :: xs) (c :: ys) := by
  cases h with
  | insert before d after => exact .insert (c :: before) d after
  | delete before d after => exact .delete (c :: before) d after
  | substitute before d d' after => exact .substitute (c :: before) d d' after

/-- Edits can be made behind a further character. -/
lemma EditsTo.cons (c : Char) {n : Nat} {xs ys : List Char} (h : EditsTo n xs ys) :
    EditsTo n (c :: xs) (c :: ys) := by
  induction h with
  | refl xs => exact .refl (c :: xs)
  | step hstep _ ih => exact .step (hstep.cons c) ih

/-! ### The recursion behind the rows -/

/-- The distance of two texts, given by their characters. -/
def distance (xs ys : List Char) : Nat :=
  (distanceRow xs ys).headD 0

/-- A row goes on with the row of the text without its first character. -/
lemma distanceRow_cons (x : Char) (xs ys : List Char) :
    distanceRow (x :: xs) ys = distance (x :: xs) ys :: distanceRow xs ys := by
  have hrow : ∃ d, distanceRow (x :: xs) ys = d :: distanceRow xs ys := by
    induction ys with
    | nil => exact ⟨_, rfl⟩
    | cons y ys ih =>
      obtain ⟨d, hd⟩ := ih
      rw [distanceRow, hd]
      exact ⟨_, rfl⟩
  obtain ⟨d, hd⟩ := hrow
  rw [distance, hd]
  rfl

/-- To make nothing of a text, all its characters are deleted. -/
lemma distance_nil_right (xs : List Char) : distance xs [] = xs.length := by
  cases xs <;> rfl

/-- To make a text of nothing, all its characters are inserted. -/
lemma distance_nil_left (ys : List Char) : distance [] ys = ys.length := by
  induction ys with
  | nil => rfl
  | cons y ys ih =>
    rw [List.length_cons, ← ih]
    rfl

/-- Two texts are compared at their first characters: these are matched with each other, or the
first one is deleted, or the second one is inserted. -/
lemma distance_cons_cons (x y : Char) (xs ys : List Char) :
    distance (x :: xs) (y :: ys) =
      min (distance xs ys + if x = y then 0 else 1)
        (min (distance xs (y :: ys) + 1) (distance (x :: xs) ys + 1)) := by
  have hrow : distanceRow (x :: xs) (y :: ys) =
      distanceRowStep y (x :: xs) (distance (x :: xs) ys :: distanceRow xs ys) := by
    rw [distanceRow, distanceRow_cons]
  rw [distance, hrow]
  rfl

/-- One of the ways to compare two texts at their first characters gives their distance. -/
lemma distance_cons_cons_cases (x y : Char) (xs ys : List Char) :
    (x = y ∧ distance (x :: xs) (y :: ys) = distance xs ys) ∨
    distance (x :: xs) (y :: ys) = distance xs ys + 1 ∨
    distance (x :: xs) (y :: ys) = distance xs (y :: ys) + 1 ∨
    distance (x :: xs) (y :: ys) = distance (x :: xs) ys + 1 := by
  rw [distance_cons_cons]
  by_cases hxy : x = y
  · rw [if_pos hxy, eq_true hxy, true_and]
    omega
  · rw [if_neg hxy]
    omega

/-! ### Edits along the recursion -/

/-- A distance can be covered by edits. -/
lemma editsTo_distance (xs ys : List Char) : EditsTo (distance xs ys) xs ys := by
  induction xs generalizing ys with
  | nil =>
    rw [distance_nil_left]
    induction ys with
    | nil => exact .refl []
    | cons y ys ih => exact .step (.insert [] y []) (ih.cons y)
  | cons x xs ihx =>
    induction ys with
    | nil =>
      have hrest : EditsTo (distance xs []) xs [] := ihx []
      rw [distance_nil_right] at hrest ⊢
      exact .step (.delete [] x xs) hrest
    | cons y ys ihy =>
      rcases distance_cons_cons_cases x y xs ys with ⟨rfl, hkept⟩ | hreplaced | hdeleted | hinserted
      · rw [hkept]
        exact (ihx ys).cons x
      · rw [hreplaced]
        exact .step (.substitute [] x y xs) ((ihx ys).cons y)
      · rw [hdeleted]
        exact .step (.delete [] x xs) (ihx (y :: ys))
      · rw [hinserted]
        exact .step (.insert [] y (x :: xs)) (ihy.cons y)

/-! ### What one edit changes -/

/-- A character more on the left costs at most one edit. -/
lemma distance_cons_le_left (x : Char) (xs ys : List Char) :
    distance (x :: xs) ys ≤ distance xs ys + 1 := by
  cases ys with
  | nil =>
    have hlength : distance (x :: xs) [] = distance xs [] + 1 := by
      rw [distance_nil_right, distance_nil_right, List.length_cons]
    exact Nat.le_of_eq hlength
  | cons y ys =>
    rw [distance_cons_cons]
    omega

/-- A character more on the right costs at most one edit. -/
lemma distance_cons_le_right (y : Char) (xs ys : List Char) :
    distance xs (y :: ys) ≤ distance xs ys + 1 := by
  cases xs with
  | nil =>
    have hlength : distance [] (y :: ys) = distance [] ys + 1 := by
      rw [distance_nil_left, distance_nil_left, List.length_cons]
    exact Nat.le_of_eq hlength
  | cons x xs =>
    rw [distance_cons_cons]
    omega

/-- A character more on the left saves at most one edit. -/
lemma distance_le_cons (x : Char) (xs ys : List Char) :
    distance xs ys ≤ distance (x :: xs) ys + 1 := by
  induction ys with
  | nil =>
    rw [distance_nil_right, distance_nil_right, List.length_cons]
    omega
  | cons y ys ih =>
    have hright : distance xs (y :: ys) ≤ distance xs ys + 1 := distance_cons_le_right y xs ys
    rw [distance_cons_cons x]
    omega

/-- Another first character saves at most one edit. -/
lemma distance_substitute_le (c d : Char) (xs ys : List Char) :
    distance (c :: xs) ys ≤ distance (d :: xs) ys + 1 := by
  induction ys with
  | nil =>
    rw [distance_nil_right, distance_nil_right, List.length_cons, List.length_cons]
    omega
  | cons y ys ih =>
    rw [distance_cons_cons, distance_cons_cons]
    split <;> split <;> omega

/-- If changing a text saves at most one edit, whatever it is compared with, then so does changing
it behind other characters. -/
lemma distance_append_le {xs ys : List Char} (h : ∀ zs, distance xs zs ≤ distance ys zs + 1)
    (before zs : List Char) : distance (before ++ xs) zs ≤ distance (before ++ ys) zs + 1 := by
  induction before generalizing zs with
  | nil => exact h zs
  | cons b before ihb =>
    rw [List.cons_append, List.cons_append]
    induction zs with
    | nil =>
      have hlength := ihb []
      simp only [distance_nil_right, List.length_cons] at hlength ⊢
      omega
    | cons z zs ihz =>
      have hmatched := ihb zs
      have hdeleted := ihb (z :: zs)
      rw [distance_cons_cons, distance_cons_cons]
      omega

/-- An edit saves at most one edit, whatever the text is compared with. -/
lemma EditStep.distance_le {xs ys : List Char} (h : EditStep xs ys) (zs : List Char) :
    distance xs zs ≤ distance ys zs + 1 := by
  cases h with
  | insert before c after => exact distance_append_le (distance_le_cons c after) before zs
  | delete before c after => exact distance_append_le (distance_cons_le_left c after) before zs
  | substitute before c d after =>
    exact distance_append_le (distance_substitute_le c d after) before zs

/-- A text has no distance to itself. -/
lemma distance_self (xs : List Char) : distance xs xs = 0 := by
  induction xs with
  | nil => rfl
  | cons x xs ih =>
    rw [distance_cons_cons, if_pos rfl]
    omega

/-- No sequence of edits is shorter than the distance that it covers. -/
lemma EditsTo.distance_le {n : Nat} {xs ys : List Char} (h : EditsTo n xs ys) :
    distance xs ys ≤ n := by
  induction h with
  | refl xs => exact Nat.le_of_eq (distance_self xs)
  | step hstep _ ih => exact Nat.le_trans (hstep.distance_le _) (Nat.add_le_add_right ih 1)

/-! ### Distances of texts -/

/-- The edit distance of two texts is the least number of edits that make one of the other. -/
lemma isLeast_editDistance (s t : String) :
    IsLeast {n | EditsTo n s.toList t.toList} (editDistance s t) :=
  ⟨editsTo_distance s.toList t.toList, fun _ h => h.distance_le⟩

/-- Only equal texts have no distance. -/
lemma editDistance_eq_zero_iff {s t : String} : editDistance s t = 0 ↔ s = t := by
  constructor
  · intro h
    have hedits : EditsTo 0 s.toList t.toList := h ▸ (isLeast_editDistance s t).1
    exact String.toList_injective hedits.eq_of_zero
  · rintro rfl
    exact distance_self s.toList

end TagSearch.Text
