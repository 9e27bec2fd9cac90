import Mathlib.Data.List.Forall2
import Mathlib.Tactic.Common
import TagSearch.Json.Basic

/-!
# The order of fields

The fields of a JSON object have no order: a program that keeps a value may hand its fields out in
another order than the one they came in.  Two values are the same in this sense when they are
`Reordered`, that is, when one comes from the other by changing the order of fields at any depth.

What a reader needs to know about such a value is that the named fields still give the same columns,
with values that are reordered in turn (`Reordered.exists_objectColumns?_eq_some` and, for columns
that have nothing to reorder, `Reordered.columns?_eq_some`).
-/

namespace TagSearch.Json

/-! ### Columns of an object -/

section Columns

variable {fields : List (String × Json)} {name : String} {names : List String}

/-- The values for a name, field by field. -/
lemma valuesOf_cons (name : String) (f : String × Json) (fields : List (String × Json)) :
    valuesOf name (f :: fields) =
      if f.1 = name then f.2 :: valuesOf name fields else valuesOf name fields := by
  unfold valuesOf
  rw [List.filterMap_cons]
  by_cases hname : f.1 = name
  · simp [hname]
  · simp [hname]

/-- A name has no values when no field has it. -/
lemma valuesOf_eq_nil_iff : valuesOf name fields = [] ↔ ∀ f ∈ fields, f.1 ≠ name := by
  simp [valuesOf, List.filterMap_eq_nil_iff]

/-- The column of an absent field. -/
lemma objectColumns?_cons_of_eq_nil (h : valuesOf name fields = []) :
    objectColumns? fields (name :: names) = (objectColumns? fields names).map (none :: ·) := by
  rw [objectColumns?, h]
  cases objectColumns? fields names <;> rfl

/-- The column of a field that is given once. -/
lemma objectColumns?_cons_of_eq_singleton {value : Json}
    (h : valuesOf name fields = [value]) :
    objectColumns? fields (name :: names) =
      (objectColumns? fields names).map (some value :: ·) := by
  rw [objectColumns?, h]
  cases objectColumns? fields names <;> rfl

/-- Leaving out the fields with another name keeps the values for a name. -/
lemma valuesOf_filter_ne {other : String} (hne : other ≠ name)
    (fields : List (String × Json)) :
    valuesOf name (fields.filter fun f => f.1 ≠ other) = valuesOf name fields := by
  induction fields with
  | nil => rfl
  | cons f fields ih =>
    by_cases hf : f.1 = other
    · rw [List.filter_cons_of_neg (by simpa using hf), valuesOf_cons, if_neg (hf ▸ hne), ih]
    · rw [List.filter_cons_of_pos (by simpa using hf), valuesOf_cons, valuesOf_cons, ih]

/-- Leaving out the fields with another name keeps the columns. -/
lemma objectColumns?_filter_ne {other : String} (hnames : other ∉ names)
    (fields : List (String × Json)) :
    objectColumns? (fields.filter fun f => f.1 ≠ other) names = objectColumns? fields names := by
  induction names with
  | nil => rfl
  | cons name names ih =>
    obtain ⟨hne, hnames⟩ := not_or.mp (List.mem_cons.not.mp hnames)
    rw [objectColumns?, objectColumns?, valuesOf_filter_ne hne, ih hnames]

end Columns

/-! ### Reordered values -/

/-- The second value is the first one with the fields of its objects in any order, at any depth.
The items of a list keep their order. -/
inductive Reordered : Json → Json → Prop
  | refl (j : Json) : Reordered j j
  | arr {items items' : List Json} (same : List.Forall₂ Reordered items items') :
    Reordered (.arr items) (.arr items')
  /-- The values of the fields are reordered, and then the fields. -/
  | obj {fields between fields' : List (String × Json)}
    (names : fields.map Prod.fst = between.map Prod.fst)
    (values : List.Forall₂ Reordered (fields.map Prod.snd) (between.map Prod.snd))
    (order : between.Perm fields') : Reordered (.obj fields) (.obj fields')

/-- Whether a value has neither items nor fields. -/
def isAtom : Json → Bool
  | .arr _ => false
  | .obj _ => false
  | _ => true

namespace Reordered

variable {j : Json} {items : List Json} {fields fields' : List (String × Json)}

/-- A value without items and fields has nothing to reorder. -/
lemma eq_of_isAtom {atom : Json} (h : Reordered atom j) (hatom : atom.isAtom = true) :
    j = atom := by
  cases h with
  | refl => rfl
  | arr _ => cases hatom
  | obj _ _ _ => cases hatom

/-- A list of values, each of them reordered. -/
lemma exists_eq_arr (h : Reordered (.arr items) j) :
    ∃ items', j = .arr items' ∧ List.Forall₂ Reordered items items' := by
  cases h with
  | refl => exact ⟨items, rfl, List.forall₂_same.mpr fun item _ => .refl item⟩
  | arr same => exact ⟨_, rfl, same⟩

/-- A single reordered value. -/
lemma exists_eq_singleton {value : Json} {values : List Json}
    (h : List.Forall₂ Reordered [value] values) :
    ∃ value', values = [value'] ∧ Reordered value value' := by
  obtain ⟨value', rest, hvalue, hrest, rfl⟩ := List.forall₂_cons_left_iff.mp h
  obtain rfl := List.forall₂_nil_left_iff.mp hrest
  exact ⟨value', rfl, hvalue⟩

/-- Two reordered values. -/
lemma exists_eq_pair {first second : Json} {values : List Json}
    (h : List.Forall₂ Reordered [first, second] values) :
    ∃ first' second', values = [first', second'] ∧ Reordered first first' ∧
      Reordered second second' := by
  obtain ⟨first', rest, hfirst, hrest, rfl⟩ := List.forall₂_cons_left_iff.mp h
  obtain ⟨second', rfl, hsecond⟩ := exists_eq_singleton hrest
  exact ⟨first', second', rfl, hfirst, hsecond⟩

/-- An object is reordered to an object. -/
lemma exists_eq_obj (h : Reordered (.obj fields) j) : ∃ fields', j = .obj fields' := by
  cases h with
  | refl => exact ⟨fields, rfl⟩
  | obj _ _ _ => exact ⟨_, rfl⟩

/-- The fields of a reordered object, before they change their places. -/
lemma exists_perm (h : Reordered (.obj fields) (.obj fields')) :
    ∃ between, List.Forall₂ (fun f g => f.1 = g.1 ∧ Reordered f.2 g.2) fields between ∧
      between.Perm fields' := by
  cases h with
  | refl => exact ⟨fields, List.forall₂_same.mpr fun f _ => ⟨rfl, .refl f.2⟩, .refl fields⟩
  | @obj _ between _ names values order =>
    refine ⟨between, ?_, order⟩
    clear order
    induction fields generalizing between with
    | nil =>
      obtain rfl := List.map_eq_nil_iff.mp names.symm
      exact .nil
    | cons f fields ih =>
      cases between with
      | nil => cases names
      | cons g between =>
        obtain ⟨hname, hnames⟩ := List.cons.inj names
        obtain ⟨hvalue, hvalues⟩ := List.forall₂_cons.mp values
        exact .cons ⟨hname, hvalue⟩ (ih hnames hvalues)

/-! ### Columns of a reordered object -/

/-- The values for a name are reordered, and then change their places. -/
lemma exists_valuesOf_perm (h : Reordered (.obj fields) (.obj fields')) (name : String) :
    ∃ values, List.Forall₂ Reordered (valuesOf name fields) values ∧
      values.Perm (valuesOf name fields') := by
  obtain ⟨between, hbetween, order⟩ := h.exists_perm
  refine ⟨valuesOf name between, ?_, order.filterMap _⟩
  clear order h
  induction hbetween with
  | nil => exact .nil
  | @cons f g fields between hfg _ ih =>
    obtain ⟨hname, hvalue⟩ := hfg
    rw [valuesOf_cons, valuesOf_cons, ← hname]
    by_cases hf : f.1 = name
    · rw [if_pos hf, if_pos hf]
      exact .cons hvalue ih
    · rw [if_neg hf, if_neg hf]
      exact ih

/-- A name without values has none after reordering. -/
lemma valuesOf_eq_nil {name : String} (h : Reordered (.obj fields) (.obj fields'))
    (hname : valuesOf name fields = []) : valuesOf name fields' = [] := by
  obtain ⟨values, hvalues, order⟩ := h.exists_valuesOf_perm name
  rw [hname, List.forall₂_nil_left_iff] at hvalues
  subst hvalues
  exact List.nil_perm.mp order

/-- A name with one value has one after reordering. -/
lemma exists_valuesOf_eq_singleton {name : String} {value : Json}
    (h : Reordered (.obj fields) (.obj fields')) (hname : valuesOf name fields = [value]) :
    ∃ value', valuesOf name fields' = [value'] ∧ Reordered value value' := by
  obtain ⟨values, hvalues, order⟩ := h.exists_valuesOf_perm name
  rw [hname] at hvalues
  obtain ⟨value', rfl, hvalue⟩ := exists_eq_singleton hvalues
  exact ⟨value', (List.singleton_perm.mp order).symm, hvalue⟩

/-- A field that is given exactly once still is. -/
lemma exists_single?_eq_some {name : String} {value : Json}
    (h : Reordered (.obj fields) (.obj fields')) (hname : single? name fields = some value) :
    ∃ value', single? name fields' = some value' ∧ Reordered value value' := by
  unfold single? at hname
  split at hname
  next v hv =>
    obtain ⟨value', hvalue', hvalue⟩ := h.exists_valuesOf_eq_singleton hv
    refine ⟨value', ?_, Option.some.inj hname ▸ hvalue⟩
    rw [single?, hvalue']
  next => cases hname

/-- The named fields give the same columns, with reordered values. -/
lemma exists_objectColumns?_eq_some {names : List String} {columns : List (Option Json)}
    (h : Reordered (.obj fields) (.obj fields'))
    (hcolumns : objectColumns? fields names = some columns) :
    ∃ columns', objectColumns? fields' names = some columns' ∧
      List.Forall₂ (Option.Rel Reordered) columns columns' := by
  induction names generalizing columns with
  | nil =>
    obtain rfl := Option.some.inj hcolumns
    exact ⟨[], rfl, .nil⟩
  | cons name names ih =>
    cases hvalues : valuesOf name fields with
    | nil =>
      rw [objectColumns?_cons_of_eq_nil hvalues] at hcolumns
      obtain ⟨rest, hrest, rfl⟩ := Option.map_eq_some_iff.mp hcolumns
      obtain ⟨rest', hrest', hrel⟩ := ih hrest
      refine ⟨none :: rest', ?_, .cons .none hrel⟩
      rw [objectColumns?_cons_of_eq_nil (h.valuesOf_eq_nil hvalues), hrest']
      rfl
    | cons value values =>
      cases values with
      | nil =>
        rw [objectColumns?_cons_of_eq_singleton hvalues] at hcolumns
        obtain ⟨rest, hrest, rfl⟩ := Option.map_eq_some_iff.mp hcolumns
        obtain ⟨rest', hrest', hrel⟩ := ih hrest
        obtain ⟨value', hvalue', hsame⟩ := h.exists_valuesOf_eq_singleton hvalues
        refine ⟨some value' :: rest', ?_, .cons (.some hsame) hrel⟩
        rw [objectColumns?_cons_of_eq_singleton hvalue', hrest']
        rfl
      | cons _ _ =>
        -- a repeated field gives no columns at all
        rw [objectColumns?, hvalues] at hcolumns
        cases hcolumns

/-- Columns without items and fields stay as they are. -/
lemma columns?_eq_some {names : List String} {columns : List (Option Json)}
    (h : Reordered (.obj fields) j) (hcolumns : objectColumns? fields names = some columns)
    (hatoms : ∀ column ∈ columns, column.all isAtom = true) :
    j.columns? names = some columns := by
  obtain ⟨fields', rfl⟩ := h.exists_eq_obj
  obtain ⟨columns', hcolumns', hrel⟩ := h.exists_objectColumns?_eq_some hcolumns
  have hsame : columns' = columns := by
    clear hcolumns hcolumns'
    induction hrel with
    | nil => rfl
    | cons hcolumn _ ih =>
      obtain ⟨hatom, hatoms⟩ := List.forall_mem_cons.mp hatoms
      rw [ih hatoms]
      cases hcolumn with
      | none => rfl
      | some hvalue => rw [hvalue.eq_of_isAtom hatom]
  exact hsame ▸ hcolumns'

end Reordered

end TagSearch.Json
