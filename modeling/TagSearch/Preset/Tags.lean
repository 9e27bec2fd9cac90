import TagSearch.Json.Basic

/-!
# Tags

The tags of a preset: a map from keys to values, kept in increasing order of the keys by code
points.
-/

namespace TagSearch

/-- Tags with distinct keys in increasing order. -/
structure Tags where
  entries : List (String × String)
  sorted : entries.Pairwise fun a b => a.1 < b.1
  deriving DecidableEq

namespace Tags

/-- No tags. -/
def empty : Tags := ⟨[], .nil⟩

/-- The entries after a value has been set, in place of an earlier one for the same key. -/
def insertEntry (key value : String) : List (String × String) → List (String × String)
  | [] => [(key, value)]
  | (k, v) :: rest =>
    if key < k then (key, value) :: (k, v) :: rest
    else if key = k then (key, value) :: rest
    else (k, v) :: insertEntry key value rest

theorem mem_insertEntry {key value : String} {entries : List (String × String)}
    {e : String × String} (h : e ∈ insertEntry key value entries) :
    e = (key, value) ∨ e ∈ entries := by
  induction entries with
  | nil => simpa [insertEntry] using h
  | cons head rest ih =>
    obtain ⟨k, v⟩ := head
    grind [insertEntry]

theorem sorted_insertEntry (key value : String) {entries : List (String × String)}
    (h : entries.Pairwise fun a b => a.1 < b.1) :
    (insertEntry key value entries).Pairwise fun a b => a.1 < b.1 := by
  induction entries with
  | nil => simp [insertEntry]
  | cons head rest ih =>
    obtain ⟨k, v⟩ := head
    obtain ⟨hhead, hrest⟩ := List.pairwise_cons.1 h
    rw [insertEntry]
    split
    · rename_i hlt
      refine List.pairwise_cons.2 ⟨fun e he => ?_, h⟩
      rcases List.mem_cons.1 he with rfl | he
      · exact hlt
      · exact String.lt_trans hlt (hhead e he)
    · split
      · rename_i heq
        exact List.pairwise_cons.2 ⟨fun e he => heq ▸ hhead e he, hrest⟩
      · rename_i hlt hne
        refine List.pairwise_cons.2 ⟨fun e he => ?_, ih hrest⟩
        rcases mem_insertEntry he with rfl | he
        · grind
        · exact hhead e he

/-- Sets the value of a key. -/
def insert (tags : Tags) (key value : String) : Tags :=
  ⟨insertEntry key value tags.entries, sorted_insertEntry key value tags.sorted⟩

/-- The tags of a list, in which the last value of a key counts. -/
def ofList (entries : List (String × String)) : Tags :=
  entries.foldl (fun tags (key, value) => tags.insert key value) empty

/-- Tags as a JSON object. -/
def toJson (tags : Tags) : Json :=
  .obj (tags.entries.map fun (key, value) => (key, .str value))

/-- Reads tags from a JSON object, in which the last value of a key counts. -/
def ofJson? : Json → Option Tags
  | .obj fields => do
    let entries ← fields.mapM fun (key, value) => do return (key, ← value.str?)
    return ofList entries
  | _ => none

end Tags

end TagSearch
