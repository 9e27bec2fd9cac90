import Mathlib.Data.List.Forall2
import Mathlib.Data.List.Perm.Basic
import Mathlib.Tactic.Common
import TagSearch.Config
import TagSearch.ParsedSearch
import TagSearch.Preset.Table
import TagSearch.Proofs.FieldOrder

/-!
# What is written can be read back

For trees, bounds, parsed searches, presets, preset tables and configurations, the JSON value that a
value is written as is read back as that value, in whatever order the fields of its objects are
handed out.  So a value that was accepted once, in any of the forms that are only read, is read in
the same way after it has been written.

Each type has one lemma `…_of_reordered` about its reader.
-/

namespace TagSearch

open Json (Reordered)

/-! ### Lists and words -/

namespace Json

/-- A list is read back when its items are. -/
lemma listOf?_of_reordered {α : Type} {write : α → Json} {read : Json → Option α}
    (hread : ∀ x j, Reordered (write x) j → read j = some x) {xs : List α} {j : Json}
    (h : Reordered (.arr (xs.map write)) j) : j.listOf? read = some xs := by
  obtain ⟨items, rfl, hitems⟩ := h.exists_eq_arr
  clear h
  have hmapM : items.mapM read = some xs := by
    induction xs generalizing items with
    | nil =>
      obtain rfl := List.forall₂_nil_left_iff.mp hitems
      rfl
    | cons x xs ih =>
      rw [List.map_cons, List.forall₂_cons_left_iff] at hitems
      obtain ⟨item, items, hitem, hitems, rfl⟩ := hitems
      rw [List.mapM_cons, hread x item hitem, ih _ hitems]
      rfl
  exact hmapM

/-- A text is read back. -/
lemma str?_of_reordered (s : String) (j : Json) (h : Reordered (.str s) j) : j.str? = some s := by
  rw [h.eq_of_isAtom rfl]
  rfl

end Json

/-- An entity type is read back, whatever its object form may hold. -/
lemma EntityType.ofJson?_of_reordered (isNothing : Json → Bool) (t : EntityType) (j : Json)
    (h : Reordered t.toJson j) : EntityType.ofJson? isNothing j = some t := by
  rw [h.eq_of_isAtom rfl, EntityType.ofJson?_toJson]

/-- A kind of metadata is read back. -/
lemma MetaKind.ofJson?_of_reordered (k : MetaKind) (j : Json) (h : Reordered k.toJson j) :
    MetaKind.ofJson? j = some k := by
  rw [h.eq_of_isAtom rfl]
  exact MetaKind.ofName?_name k

/-! ### Conditions -/

/-- A pattern is read back, with no modifier or with an empty one. -/
lemma Pattern.ofJson?_of_reordered (p : Pattern) (j : Json) (h : Reordered p.toJson j) :
    Pattern.ofJson? j = some p := by
  obtain ⟨regex, modifier⟩ := p
  have hcolumns : j.columns? ["regex", "modifier"] =
      some [some (.str regex), modifier.map .str] := by
    refine h.columns?_eq_some ?_ ?_
    · cases modifier <;> simp [Json.objectColumns?, Json.valuesOf]
    · cases modifier <;> simp [Json.isAtom]
  rw [Pattern.ofJson?, hcolumns]
  cases modifier <;> rfl

namespace Condition

/-- The kind of a condition is written once. -/
lemma single?_toJson (c : Condition) :
    Json.single? "query" (("query", .str c.kind.name) :: c.kind.fields.zip c.fieldValues) =
      some (.str c.kind.name) := by
  cases c <;> simp [Json.single?, Json.valuesOf, kind, Kind.fields, fieldValues]

/-- The fields of a condition are written once. -/
lemma objectColumns?_toJson (c : Condition) :
    Json.objectColumns? (("query", .str c.kind.name) :: c.kind.fields.zip c.fieldValues)
      c.kind.fields = some (c.fieldValues.map some) := by
  cases c <;> simp [Json.objectColumns?, Json.valuesOf, kind, Kind.fields, fieldValues]

/-- Columns that are all there give their values. -/
lemma exists_required?_of_forall₂ {values : List Json} {columns : List (Option Json)}
    (h : List.Forall₂ (Option.Rel Reordered) (values.map some) columns) :
    ∃ values', required? columns = some values' ∧ List.Forall₂ Reordered values values' := by
  induction values generalizing columns with
  | nil =>
    obtain rfl := List.forall₂_nil_left_iff.mp h
    exact ⟨[], rfl, .nil⟩
  | cons value values ih =>
    rw [List.map_cons, List.forall₂_cons_left_iff] at h
    obtain ⟨_, rest, hcolumn, hrest, rfl⟩ := h
    obtain ⟨values', hvalues', hrel⟩ := ih hrest
    cases hcolumn with
    | @some _ value' hvalue =>
      refine ⟨value' :: values', ?_, .cons hvalue hrel⟩
      have hmapM : rest.mapM id = some values' := hvalues'
      rw [required?, List.mapM_cons, hmapM]
      rfl

/-- The fields of a condition give it back. -/
lemma ofFields?_of_forall₂ {c : Condition} {values : List Json}
    (h : List.Forall₂ Reordered c.fieldValues values) : ofFields? c.kind values = some c := by
  cases c with
  | hasKey key | lacksKey key | phrase key =>
    obtain ⟨_, rfl, hkey⟩ := Reordered.exists_eq_singleton h
    rw [hkey.eq_of_isAtom rfl]
    rfl
  | equals key value | differs key value | contains key value =>
    obtain ⟨_, _, rfl, hkey, hvalue⟩ := Reordered.exists_eq_pair h
    rw [hkey.eq_of_isAtom rfl, hvalue.eq_of_isAtom rfl]
    rfl
  | like key pattern | unlike key pattern | likeBoth key pattern =>
    obtain ⟨_, _, rfl, hkey, hpattern⟩ := Reordered.exists_eq_pair h
    rw [hkey.eq_of_isAtom rfl, kind, ofFields?, Pattern.ofJson?_of_reordered pattern _ hpattern]
    rfl
  | ofType type =>
    obtain ⟨_, rfl, htype⟩ := Reordered.exists_eq_singleton h
    rw [kind, ofFields?, EntityType.ofJson?_of_reordered _ type _ htype]
    rfl
  | metadata kind value =>
    obtain ⟨_, _, rfl, hkind, hvalue⟩ := Reordered.exists_eq_pair h
    rw [hvalue.eq_of_isAtom rfl, Condition.kind, ofFields?,
      MetaKind.ofJson?_of_reordered kind _ hkind]
    rfl

/-- A condition is read back. -/
lemma ofJson?_of_reordered (numbered : Bool) (c : Condition) (j : Json)
    (h : Reordered c.toJson j) : Condition.ofJson? numbered j = some c := by
  obtain ⟨fields, rfl⟩ := h.exists_eq_obj
  obtain ⟨tag, htag, hname⟩ := h.exists_single?_eq_some (single?_toJson c)
  obtain rfl := hname.eq_of_isAtom rfl
  obtain ⟨columns, hcolumns, hrel⟩ := h.exists_objectColumns?_eq_some (objectColumns?_toJson c)
  obtain ⟨values, hvalues, hrel⟩ := exists_required?_of_forall₂ hrel
  have hkind : Kind.ofJson? numbered (.str c.kind.name) = some c.kind := Kind.ofName?_name c.kind
  simp only [Condition.ofJson?, htag, hkind, hcolumns, hvalues, Option.bind_eq_bind,
    Option.bind_some, ofFields?_of_forall₂ hrel]

end Condition

/-! ### Trees -/

namespace SearchTree

/-- The shape of a tree. -/
def toShape : SearchTree → Shape
  | leaf c => .leaf c
  | and l r => .node "and" [l.toShape, r.toShape]
  | or l r => .node "or" [l.toShape, r.toShape]

/-- The shape of a tree is the shape of this tree only. -/
lemma ofShape_toShape (t : SearchTree) : ofShape t.toShape = .ok t := by
  induction t with
  | leaf c => rfl
  | and l r ihl ihr =>
    simp only [toShape, ofShape, join?, ihl, ihr]
    rfl
  | or l r ihl ihr =>
    simp only [toShape, ofShape, join?, ihl, ihr]
    rfl

namespace Shape

/-- The lists of operands are those of the fields `queries`. -/
lemma operandLists_eq (fields : List (String × Json)) :
    operandLists fields = (Json.valuesOf "queries" fields).map operands? := by
  induction fields with
  | nil => rfl
  | cons f fields ih =>
    rw [operandLists, Json.valuesOf_cons, ih]
    by_cases hname : f.1 = "queries"
    · rw [if_pos hname, if_pos hname, List.map_cons]
    · rw [if_neg hname, if_neg hname]

/-- A node with two operands has their shapes below its own. -/
lemma exists_operands_of_reordered {operator : String} {l r j : Json}
    (h : Reordered (.obj [("logical", .str operator), ("queries", .arr [l, r])]) j) :
    ∃ l' r', Reordered l l' ∧ Reordered r r' ∧ ∀ s t, ofJson? l' = some s → ofJson? r' = some t →
      ofJson? j = some (.node operator [s, t]) := by
  obtain ⟨fields, rfl⟩ := h.exists_eq_obj
  obtain ⟨_, hlogical, hoperator⟩ := h.exists_single?_eq_some
    (show Json.single? "logical" _ = some (.str operator) by simp [Json.single?, Json.valuesOf])
  obtain rfl := hoperator.eq_of_isAtom rfl
  obtain ⟨_, hqueries, hlist⟩ := h.exists_valuesOf_eq_singleton
    (show Json.valuesOf "queries" _ = [.arr [l, r]] by simp [Json.valuesOf])
  obtain ⟨items, rfl, hitems⟩ := hlist.exists_eq_arr
  obtain ⟨l', r', rfl, hl, hr⟩ := Reordered.exists_eq_pair hitems
  refine ⟨l', r', hl, hr, fun s t hs ht => ?_⟩
  have hlists : operandLists fields = [some [s, t]] := by
    rw [operandLists_eq, hqueries]
    simp [operands?, ofItems?, hs, ht]
  rw [ofJson?, hlogical, hlists]

/-- The shape of a tree is read back. -/
lemma ofJson?_of_reordered (t : SearchTree) (j : Json) (h : Reordered t.toJson j) :
    ofJson? j = some t.toShape := by
  induction t generalizing j with
  | leaf c =>
    have hcondition := Condition.ofJson?_of_reordered true c j h
    obtain ⟨fields, rfl⟩ := h.exists_eq_obj
    have hlogical : Json.single? "logical" fields = none := by
      have hnone : Json.valuesOf "logical" fields = [] := by
        refine h.valuesOf_eq_nil ?_
        cases c <;> simp [Json.valuesOf, Condition.kind, Condition.Kind.fields,
          Condition.fieldValues]
      rw [Json.single?, hnone]
    rw [ofJson?, hlogical, hcondition]
    rfl
  | and l r ihl ihr =>
    obtain ⟨l', r', hl, hr, hnode⟩ := exists_operands_of_reordered h
    exact hnode _ _ (ihl l' hl) (ihr r' hr)
  | or l r ihl ihr =>
    obtain ⟨l', r', hl, hr, hnode⟩ := exists_operands_of_reordered h
    exact hnode _ _ (ihl l' hl) (ihr r' hr)

end Shape

/-- A tree is read back. -/
lemma ofJson_of_reordered (t : SearchTree) (j : Json) (h : Reordered t.toJson j) :
    SearchTree.ofJson j = .ok t := by
  rw [SearchTree.ofJson, Shape.ofJson?_of_reordered t j h]
  simp only [ofShape_toShape]
  rfl

end SearchTree

/-! ### Bounds and parsed searches -/

namespace Bounds

/-- Bounds have a known mode, and a place where the mode requires one. -/
lemma ofMode_mode (b : Bounds) : Bounds.ofMode b.mode b.place? = .ok b := by
  cases b <;> rfl

/-- Bounds are read back from their columns. -/
lemma ofJson_of_columns? {b : Bounds} {j : Json}
    (h : j.columns? ["bounds", "area"] = some [some (.str b.mode), b.place?.map .str]) :
    Bounds.ofJson j = .ok b := by
  have hraw : Bounds.rawOfJson? j = some (b.mode, b.place?) := by
    rw [Bounds.rawOfJson?, h]
    cases b <;> rfl
  rw [Bounds.ofJson, hraw]
  simp only [ofMode_mode]
  rfl

/-- The columns of bounds have nothing to reorder. -/
lemma isAtom_columns (b : Bounds) :
    ∀ column ∈ [some (Json.str b.mode), b.place?.map .str], column.all Json.isAtom = true := by
  cases b <;> simp [Bounds.place?, Json.isAtom]

/-- Bounds are read back. -/
lemma ofJson_of_reordered (b : Bounds) (j : Json) (h : Reordered b.toJson j) :
    Bounds.ofJson j = .ok b := by
  refine ofJson_of_columns? (h.columns?_eq_some ?_ b.isAtom_columns)
  cases b <;> simp [Bounds.jsonFields, Bounds.place?, Json.objectColumns?, Json.valuesOf]

end Bounds

namespace ParsedSearch

/-- Takes fields in, one after the other. -/
def Draft.addFields (d : Draft) (fields : List (String × Json)) : Except ReadError Draft :=
  fields.foldlM (fun d (name, value) => d.addField name value) d

/-- An object is read by taking its fields in. -/
lemma ofJson_obj (fields : List (String × Json)) :
    ParsedSearch.ofJson (.obj fields) = Draft.addFields {} fields >>= Draft.finish := rfl

/-- A field beside the tree is put behind the others. -/
lemma Draft.addFields_cons_of_ne {f : String × Json} {fields : List (String × Json)} (d : Draft)
    (hname : f.1 ≠ "query") :
    d.addFields (f :: fields) =
      Draft.addFields { d with others := d.others ++ [f] } fields := by
  have hfirst : d.addField f.1 f.2 = .ok { d with others := d.others ++ [f] } := by
    rw [Draft.addField, if_neg hname]
  rw [addFields, List.foldlM_cons]
  simp only [hfirst]
  rfl

/-- Fields beside the tree are kept in their order. -/
lemma Draft.addFields_of_valuesOf_eq_nil {fields : List (String × Json)} (d : Draft)
    (h : Json.valuesOf "query" fields = []) :
    d.addFields fields = .ok { d with others := d.others ++ fields } := by
  induction fields generalizing d with
  | nil =>
    rw [List.append_nil]
    rfl
  | cons f fields ih =>
    obtain ⟨hname, hnames⟩ := List.forall_mem_cons.mp (Json.valuesOf_eq_nil_iff.mp h)
    rw [addFields_cons_of_ne d hname, ih _ (Json.valuesOf_eq_nil_iff.mpr hnames),
      List.append_assoc, List.singleton_append]

/-- A tree that is given once is taken in, wherever it stands among the other fields. -/
lemma Draft.addFields_of_valuesOf_eq_singleton {fields : List (String × Json)} {value : Json}
    {t : SearchTree} (others : List (String × Json)) (h : Json.valuesOf "query" fields = [value])
    (ht : SearchTree.ofJson value = .ok t) :
    Draft.addFields ⟨none, others⟩ fields =
      .ok ⟨some t, others ++ fields.filter fun f => f.1 ≠ "query"⟩ := by
  induction fields generalizing others with
  | nil => cases h
  | cons f fields ih =>
    rw [Json.valuesOf_cons] at h
    by_cases hname : f.1 = "query"
    · rw [if_pos hname] at h
      obtain ⟨rfl, hnone⟩ := List.cons.inj h
      have hfirst : Draft.addField ⟨none, others⟩ f.1 f.2 = .ok ⟨some t, others⟩ := by
        rw [Draft.addField, if_pos hname, ht]
        rfl
      have hrest : fields.filter (fun g => g.1 ≠ "query") = fields := by
        simpa [List.filter_eq_self] using Json.valuesOf_eq_nil_iff.mp hnone
      rw [List.filter_cons_of_neg (by simpa using hname), hrest, addFields, List.foldlM_cons]
      simp only [hfirst]
      exact addFields_of_valuesOf_eq_nil _ hnone
    · rw [if_neg hname] at h
      rw [addFields_cons_of_ne _ hname, ih _ h, List.filter_cons_of_pos (by simpa using hname),
        List.append_assoc, List.singleton_append]

/-- A parsed search is read back. -/
lemma ofJson_of_reordered (p : ParsedSearch) (j : Json) (h : Reordered p.toJson j) :
    ParsedSearch.ofJson j = .ok p := by
  obtain ⟨query, bounds⟩ := p
  obtain ⟨fields, rfl⟩ := h.exists_eq_obj
  obtain ⟨value, hvalue, hquery⟩ := h.exists_valuesOf_eq_singleton
    (show Json.valuesOf "query" _ = [query.toJson] by
      cases bounds <;> simp [Json.valuesOf, Bounds.jsonFields, Bounds.place?])
  have hcolumns := h.columns?_eq_some
    (show Json.objectColumns? _ ["bounds", "area"] =
        some [some (.str bounds.mode), bounds.place?.map .str] by
      cases bounds <;>
        simp [Json.objectColumns?, Json.valuesOf, Bounds.jsonFields, Bounds.place?])
    bounds.isAtom_columns
  have hbounds : Bounds.ofJson (.obj (fields.filter fun f => f.1 ≠ "query")) = .ok bounds := by
    refine Bounds.ofJson_of_columns? ?_
    rw [Json.columns?, Json.objectColumns?_filter_ne (by decide)]
    exact hcolumns
  have hdraft : Draft.addFields {} fields =
      .ok ⟨some query, fields.filter fun f => f.1 ≠ "query"⟩ :=
    Draft.addFields_of_valuesOf_eq_singleton [] hvalue
      (SearchTree.ofJson_of_reordered query value hquery)
  have hfinish : Draft.finish ⟨some query, fields.filter fun f => f.1 ≠ "query"⟩ =
      .ok ⟨query, bounds⟩ := by
    simp only [Draft.finish, hbounds]
    rfl
  rw [ofJson_obj, hdraft]
  exact hfinish

end ParsedSearch

/-! ### Presets and configurations -/

namespace Tags

/-- Tags with the same entries are the same. -/
lemma eq_of_entries_eq {a b : Tags} (h : a.entries = b.entries) : a = b := by
  obtain ⟨entries, _⟩ := a
  obtain rfl : entries = b.entries := h
  rfl

/-- A key that is not there yet is added. -/
lemma insertEntry_perm {key : String} (value : String) {entries : List (String × String)}
    (h : ∀ e ∈ entries, e.1 ≠ key) :
    (insertEntry key value entries).Perm ((key, value) :: entries) := by
  induction entries with
  | nil => exact .refl _
  | cons e entries ih =>
    obtain ⟨k, v⟩ := e
    obtain ⟨hk, hkeys⟩ := List.forall_mem_cons.mp h
    rw [insertEntry]
    split
    · exact .refl _
    · rw [if_neg (Ne.symm hk)]
      exact ((ih hkeys).cons (k, v)).trans (.swap (key, value) (k, v) entries)

/-- Entries with distinct keys are all there after they have been set. -/
lemma entries_foldl_insert_perm {entries : List (String × String)} (tags : Tags)
    (h : (entries ++ tags.entries).Pairwise fun a b => a.1 ≠ b.1) :
    (entries.foldl (fun tags (key, value) => tags.insert key value) tags).entries.Perm
      (entries ++ tags.entries) := by
  induction entries generalizing tags with
  | nil => exact .refl _
  | cons e entries ih =>
    obtain ⟨key, value⟩ := e
    obtain ⟨hkey, hrest⟩ := List.pairwise_cons.mp h
    have hinsert : (tags.insert key value).entries.Perm ((key, value) :: tags.entries) :=
      insertEntry_perm value fun e he => (hkey e (List.mem_append_right _ he)).symm
    have hall : (entries ++ (tags.insert key value).entries).Perm
        ((key, value) :: (entries ++ tags.entries)) :=
      (hinsert.append_left entries).trans List.perm_middle
    have hpairwise := (hall.pairwise_iff fun h => Ne.symm h).mpr h
    exact (ih _ hpairwise).trans hall

/-- Tags are those of their entries, in whatever order these come. -/
lemma ofList_of_perm {tags : Tags} {entries : List (String × String)}
    (h : tags.entries.Perm entries) : ofList entries = tags := by
  have hdistinct : (entries ++ empty.entries).Pairwise fun a b => a.1 ≠ b.1 := by
    rw [show empty.entries = [] from rfl, List.append_nil, ← h.pairwise_iff fun h => Ne.symm h]
    exact tags.sorted.imp fun hlt => String.ne_of_lt hlt
  have hperm : (ofList entries).entries.Perm tags.entries := by
    have hset := entries_foldl_insert_perm empty hdistinct
    rw [show empty.entries = [] from rfl, List.append_nil] at hset
    exact hset.trans h.symm
  refine eq_of_entries_eq (List.Perm.eq_of_pairwise ?_ (ofList entries).sorted tags.sorted hperm)
  intro a b _ _ hab hba
  exact absurd (String.lt_trans hab hba) (String.lt_irrefl a.1)

/-- The field that a tag is written as. -/
def entryField (e : String × String) : String × Json :=
  (e.1, .str e.2)

/-- The fields of reordered tags are those of the tags in another order. -/
lemma exists_perm_of_reordered {entries : List (String × String)} {fields : List (String × Json)}
    (h : Reordered (.obj (entries.map entryField)) (.obj fields)) :
    ∃ entries' : List (String × String), fields = entries'.map entryField ∧
      entries'.Perm entries := by
  obtain ⟨between, hbetween, order⟩ := h.exists_perm
  have hsame : between = entries.map entryField := by
    clear order h
    rw [List.forall₂_map_left_iff] at hbetween
    induction hbetween with
    | nil => rfl
    | @cons e f _ _ hef _ ih =>
      obtain ⟨hname, hvalue⟩ := hef
      rw [List.map_cons, ih, ← Prod.eta f, ← hname, hvalue.eq_of_isAtom rfl]
  have hperm : fields.Perm (entries.map entryField) := hsame ▸ order.symm
  have hcomp : Relation.Comp (fun x y => x = List.map entryField y) List.Perm fields entries := by
    rw [List.eq_map_comp_perm]
    exact hperm
  exact hcomp

/-- Tags are read back. -/
lemma ofJson?_of_reordered (tags : Tags) (j : Json) (h : Reordered tags.toJson j) :
    Tags.ofJson? j = some tags := by
  obtain ⟨fields, rfl⟩ := h.exists_eq_obj
  obtain ⟨entries, rfl, hperm⟩ := exists_perm_of_reordered h
  have hmapM : (entries.map entryField).mapM
      (fun (key, value) => do return (key, ← value.str?)) = some entries := by
    rw [List.mapM_map]
    exact (List.mapM_pure (m := Option) (f := id)).trans (by simp)
  rw [Tags.ofJson?, hmapM]
  exact congrArg some (ofList_of_perm hperm.symm)

end Tags

namespace Preset

/-- The entity types of a preset are read back, both when none are given and when the list is
empty. -/
lemma typesOfJson?_of_rel {types : Option (List EntityType)} {column : Option Json}
    (h : Option.Rel Reordered (types.map fun types => .arr (types.map EntityType.toJson)) column) :
    typesOfJson? (column.getD .null) = some types := by
  cases types with
  | none =>
    cases h
    rfl
  | some types =>
    cases h with
    | some htypes =>
      obtain ⟨items, rfl, hitems⟩ := htypes.exists_eq_arr
      have hlist := Json.listOf?_of_reordered (EntityType.ofJson?_of_reordered Json.isNull) htypes
      rw [Option.getD_some, typesOfJson?, hlist]
      · rfl
      · simp

/-- A preset is read back. -/
lemma ofJson?_of_reordered (p : Preset) (j : Json) (h : Reordered p.toJson j) :
    Preset.ofJson? j = some p := by
  obtain ⟨name, terms, tags, types⟩ := p
  obtain ⟨fields, rfl⟩ := h.exists_eq_obj
  obtain ⟨columns, hcolumns, hrel⟩ := h.exists_objectColumns?_eq_some
    (show Json.objectColumns? _ fieldNames = some [some (.str name), some (.arr (terms.map .str)),
        some tags.toJson, types.map fun types => .arr (types.map EntityType.toJson)] by
      cases types <;> simp [fieldNames, Json.objectColumns?, Json.valuesOf])
  obtain ⟨_, _, hname, hrest, rfl⟩ := List.forall₂_cons_left_iff.mp hrel
  obtain ⟨_, _, hterms, hrest', rfl⟩ := List.forall₂_cons_left_iff.mp hrest
  obtain ⟨_, _, htags, hlast, rfl⟩ := List.forall₂_cons_left_iff.mp hrest'
  obtain ⟨types', _, htypes, hnil, rfl⟩ := List.forall₂_cons_left_iff.mp hlast
  obtain rfl := List.forall₂_nil_left_iff.mp hnil
  obtain @⟨_, name', hname⟩ := hname
  obtain rfl := hname.eq_of_isAtom rfl
  obtain @⟨_, terms', hterms⟩ := hterms
  obtain @⟨_, tags', htags⟩ := htags
  have hterms' := Json.listOf?_of_reordered Json.str?_of_reordered hterms
  have htags' := Tags.ofJson?_of_reordered tags tags' htags
  have htypes' := typesOfJson?_of_rel htypes
  simp only [Preset.ofJson?, Json.columns?, hcolumns, Option.bind_eq_bind, Option.bind_some,
    Option.elim_some, Json.str?, hterms', htags', htypes']
  rfl

end Preset

/-- A preset table is read back. -/
lemma PresetTable.ofJson?_of_reordered (table : PresetTable) (j : Json)
    (h : Reordered table.toJson j) : PresetTable.ofJson? j = some table := by
  obtain ⟨fields, rfl⟩ := h.exists_eq_obj
  obtain ⟨columns, hcolumns, hrel⟩ := h.exists_objectColumns?_eq_some
    (show Json.objectColumns? _ ["presets"] =
        some [some (.arr (table.presets.map Preset.toJson))] by
      simp [Json.objectColumns?, Json.valuesOf])
  obtain ⟨_, _, hpresets, hnil, rfl⟩ := List.forall₂_cons_left_iff.mp hrel
  obtain rfl := List.forall₂_nil_left_iff.mp hnil
  obtain @⟨_, presets', hpresets⟩ := hpresets
  have hlist := Json.listOf?_of_reordered Preset.ofJson?_of_reordered hpresets
  simp only [PresetTable.ofJson?, Json.columns?, hcolumns, Option.bind_eq_bind, Option.bind_some,
    hlist]
  rfl

/-- A number of 32 bits is read back. -/
lemma Json.uint32?_toNat (n : UInt32) : Json.uint32? (.int n.toNat) = some n := by
  have hlt : (n.toNat : Int) < UInt32.size := by exact_mod_cast n.toNat_lt_size
  rw [Json.uint32?, if_pos ⟨Int.natCast_nonneg _, hlt⟩, Int.toNat_natCast, UInt32.ofNat_toNat]

namespace Config

/-- A configuration is read back from its columns.  The numbers are left general here, as the
limits on them are too large to compute with. -/
lemma ofJson?_of_columns? {c : Config} {j timeout radius : Json}
    (h : j.columns? fieldNames =
      some [some (.str c.outputFormat), some timeout, some radius, some (.str c.attribution)])
    (htimeout : timeout.uint32? = some c.timeout)
    (hradius : radius.uint32? = some c.defaultRadius) : Config.ofJson? j = some c := by
  simp only [Config.ofJson?, h, Option.bind_eq_bind, Option.bind_some, setting?, Json.str?,
    htimeout, hradius]
  rfl

/-- A configuration is read back. -/
lemma ofJson?_of_reordered (c : Config) (j : Json) (h : Reordered c.toJson j) :
    Config.ofJson? j = some c := by
  refine ofJson?_of_columns? (h.columns?_eq_some ?_ ?_) (Json.uint32?_toNat c.timeout)
    (Json.uint32?_toNat c.defaultRadius)
  · simp [fieldNames, Json.objectColumns?, Json.valuesOf]
  · simp [Json.isAtom]

end Config

/-! ### All values -/

/-- The values of a type survive being written and read. -/
structure RoundTrips {m : Type → Type} [Monad m] {α : Type} (write : α → Json)
    (read : Json → m α) : Prop where
  /-- What was written is read back, in whatever order its fields are handed out. -/
  read_write : ∀ x j, Reordered (write x) j → read j = pure x
  /-- What was accepted once, in whatever form, is read in the same way after it has been
  written. -/
  read_write_read : ∀ j x, read j = pure x → ∀ j', Reordered (write x) j' → read j' = read j

/-- A value that is always read back is read back after it has been accepted. -/
lemma RoundTrips.of_reordered {m : Type → Type} [Monad m] {α : Type} {write : α → Json}
    {read : Json → m α} (h : ∀ x j, Reordered (write x) j → read j = pure x) :
    RoundTrips write read where
  read_write := h
  read_write_read _ x hj j' hj' := (h x j' hj').trans hj.symm

/-- Trees, bounds, parsed searches, presets, preset tables and configurations are read back from
what they are written as, and what is accepted as one of them is read in the same way after it has
been written. -/
theorem roundTrips_wireForms :
    RoundTrips SearchTree.toJson SearchTree.ofJson ∧
    RoundTrips Bounds.toJson Bounds.ofJson ∧
    RoundTrips ParsedSearch.toJson ParsedSearch.ofJson ∧
    RoundTrips Preset.toJson Preset.ofJson? ∧
    RoundTrips PresetTable.toJson PresetTable.ofJson? ∧
    RoundTrips Config.toJson Config.ofJson? :=
  ⟨.of_reordered SearchTree.ofJson_of_reordered, .of_reordered Bounds.ofJson_of_reordered,
    .of_reordered ParsedSearch.ofJson_of_reordered, .of_reordered Preset.ofJson?_of_reordered,
    .of_reordered PresetTable.ofJson?_of_reordered, .of_reordered Config.ofJson?_of_reordered⟩

end TagSearch
