import Mathlib.Data.List.Forall2
import Mathlib.Order.Bounds.Defs
import Mathlib.Tactic.Common
import TagSearch.Preset.Table
import TagSearch.Proofs.EditDistance

/-!
# The nearest preset

A table suggests the preset that has the name nearest to a phrase, among those within a limit, and
of several such presets the first one.  The search goes through all names in order and keeps the
best candidate so far.  What it keeps is characterised by a look-up: it is the first candidate at
its distance, and no candidate is nearer (`IsBest`).  One step of the search preserves this, and so
it holds of the whole table.

A phrase that is the name of a preset is at distance zero from it, and nothing is nearer than that.
The exact look-up of a table and the search for the nearest preset then look for the same thing and
find the same preset.
-/

namespace TagSearch

namespace PresetTable

/-- The number of edits between a phrase and a name, both in lower case. -/
def nameDistance (phrase name : String) : Nat :=
  Text.editDistance (Text.lowercase phrase) (Text.lowercase name)

/-- `p` is the first preset of a table with a name of a certain kind. -/
def IsFirstWith (table : PresetTable) (P : String → Prop) (p : Preset) : Prop :=
  ∃ earlier later, table.presets = earlier ++ p :: later ∧ (∃ name ∈ p.names, P name) ∧
    ∀ q ∈ earlier, ∀ name ∈ q.names, ¬ P name

/-- The first preset with a name of a certain kind is found by a look-up. -/
lemma isFirstWith_iff_find?_eq_some {table : PresetTable} {P : String → Prop} [DecidablePred P]
    {p : Preset} :
    table.IsFirstWith P p ↔
      (table.presets.find? fun q => q.names.any fun name => P name) = some p := by
  simp only [IsFirstWith, List.find?_eq_some_iff_append, List.any_eq_true, decide_eq_true_eq,
    Bool.not_eq_true', List.any_eq_false]
  constructor
  · rintro ⟨earlier, later, hpresets, hname, hearlier⟩
    exact ⟨hname, earlier, later, hpresets, hearlier⟩
  · rintro ⟨hname, earlier, later, hpresets, hearlier⟩
    exact ⟨earlier, later, hpresets, hname, hearlier⟩

/-- The first preset with a name of a certain kind is a preset of the table. -/
lemma IsFirstWith.mem_presets {table : PresetTable} {P : String → Prop} {p : Preset}
    (h : table.IsFirstWith P p) : p ∈ table.presets := by
  obtain ⟨earlier, later, hpresets, _⟩ := h
  simp [hpresets]

/-- The first preset with a name of a certain kind has such a name. -/
lemma IsFirstWith.exists_name {table : PresetTable} {P : String → Prop} {p : Preset}
    (h : table.IsFirstWith P p) : ∃ name ∈ p.names, P name := by
  obtain ⟨_, _, _, hname, _⟩ := h
  exact hname

/-- There is one first preset with a name of a certain kind at most. -/
lemma IsFirstWith.unique {table : PresetTable} {P : String → Prop} {p q : Preset}
    (hp : table.IsFirstWith P p) (hq : table.IsFirstWith P q) : p = q := by
  classical
  rw [isFirstWith_iff_find?_eq_some] at hp hq
  exact Option.some.inj (hp.symm.trans hq)

/-! ### The search through all names -/

section Search

variable {phrase : String} {limit : Nat}

/-- The distance of a candidate from a phrase in lower case. -/
def candidateDistance (phrase : String) (candidate : String × Preset) : Nat :=
  Text.editDistance phrase (Text.lowercase candidate.1)

/-- What the best of some candidates is. -/
inductive IsBest (phrase : String) (limit : Nat) (candidates : List (String × Preset)) :
    Option (Nat × Preset) → Prop where
  /-- There is none when all candidates are beyond the limit. -/
  | absent (hbeyond : ∀ c ∈ candidates, limit < candidateDistance phrase c) :
      IsBest phrase limit candidates none
  /-- Otherwise it is within the limit, no candidate is nearer, and it is the first one at its
  distance. -/
  | found {d : Nat} {p : Preset} (hlimit : d ≤ limit)
      (hleast : ∀ c ∈ candidates, d ≤ candidateDistance phrase c)
      (hfind : (candidates.find? fun c => candidateDistance phrase c = d).map Prod.snd = some p) :
      IsBest phrase limit candidates (some (d, p))

variable {candidates : List (String × Preset)} {candidate : String × Preset}

/-- A candidate beyond the limit is passed over. -/
lemma nearer_of_lt {best : Option (Nat × Preset)}
    (h : limit < candidateDistance phrase candidate) :
    nearer phrase limit best candidate = best := by
  unfold nearer
  exact if_pos h

/-- The first candidate within the limit is taken. -/
lemma nearer_none (h : candidateDistance phrase candidate ≤ limit) :
    nearer phrase limit none candidate =
      some (candidateDistance phrase candidate, candidate.2) := by
  unfold nearer
  exact if_neg (Nat.not_lt.mpr h)

/-- A later candidate within the limit is taken if it is nearer. -/
lemma nearer_some {d : Nat} {p : Preset} (h : candidateDistance phrase candidate ≤ limit) :
    nearer phrase limit (some (d, p)) candidate =
      if candidateDistance phrase candidate < d then
        some (candidateDistance phrase candidate, candidate.2)
      else some (d, p) := by
  unfold nearer
  exact if_neg (Nat.not_lt.mpr h)

/-- A best candidate stays the best one beside a candidate that is not nearer. -/
lemma IsBest.append_of_le {d : Nat} {p : Preset}
    (h : IsBest phrase limit candidates (some (d, p)))
    (hle : d ≤ candidateDistance phrase candidate) :
    IsBest phrase limit (candidates ++ [candidate]) (some (d, p)) := by
  obtain _ | ⟨hlimit, hleast, hfind⟩ := h
  refine .found hlimit ?_ ?_
  · rw [List.forall_mem_append]
    exact ⟨hleast, List.forall_mem_singleton.mpr hle⟩
  · obtain ⟨c, hc, hp⟩ := Option.map_eq_some_iff.mp hfind
    rw [List.find?_append, hc]
    exact congrArg _ hp

/-- A candidate within the limit is the best one behind candidates that are all farther. -/
lemma isBest_append_of_forall_lt (hlimit : candidateDistance phrase candidate ≤ limit)
    (hlt : ∀ c ∈ candidates, candidateDistance phrase candidate < candidateDistance phrase c) :
    IsBest phrase limit (candidates ++ [candidate])
      (some (candidateDistance phrase candidate, candidate.2)) := by
  refine .found hlimit ?_ ?_
  · rw [List.forall_mem_append]
    exact ⟨fun c hc => Nat.le_of_lt (hlt c hc), List.forall_mem_singleton.mpr (Nat.le_refl _)⟩
  · have hnone : (candidates.find? fun c =>
        candidateDistance phrase c = candidateDistance phrase candidate) = none := by
      rw [List.find?_eq_none]
      intro c hc
      simpa using Nat.ne_of_gt (hlt c hc)
    rw [List.find?_append, hnone]
    simp

/-- One step of the search finds the best of the candidates with one more. -/
lemma IsBest.nearer {best : Option (Nat × Preset)} (h : IsBest phrase limit candidates best)
    (candidate : String × Preset) :
    IsBest phrase limit (candidates ++ [candidate])
      (PresetTable.nearer phrase limit best candidate) := by
  by_cases hlimit : candidateDistance phrase candidate ≤ limit
  · cases h with
    | absent hbeyond =>
      rw [nearer_none hlimit]
      refine isBest_append_of_forall_lt hlimit fun c hc => ?_
      exact Nat.lt_of_le_of_lt hlimit (hbeyond c hc)
    | @found d p hwithin hleast hfind =>
      rw [nearer_some hlimit]
      by_cases hlt : candidateDistance phrase candidate < d
      · rw [if_pos hlt]
        exact isBest_append_of_forall_lt hlimit fun c hc => Nat.lt_of_lt_of_le hlt (hleast c hc)
      · rw [if_neg hlt]
        exact (IsBest.found hwithin hleast hfind).append_of_le (Nat.not_lt.mp hlt)
  · have hfar : limit < candidateDistance phrase candidate := Nat.not_le.mp hlimit
    rw [nearer_of_lt hfar]
    cases h with
    | absent hbeyond =>
      exact .absent (List.forall_mem_append.mpr ⟨hbeyond, List.forall_mem_singleton.mpr hfar⟩)
    | found hwithin hleast hfind =>
      exact (IsBest.found hwithin hleast hfind).append_of_le
        (Nat.le_of_lt (Nat.lt_of_le_of_lt hwithin hfar))

/-- The search through further candidates finds the best of all of them. -/
lemma IsBest.foldl_nearer {seen : List (String × Preset)} {best : Option (Nat × Preset)}
    (h : IsBest phrase limit seen best) (candidates : List (String × Preset)) :
    IsBest phrase limit (seen ++ candidates)
      (candidates.foldl (PresetTable.nearer phrase limit) best) := by
  induction candidates generalizing seen best with
  | nil =>
    rw [List.append_nil]
    exact h
  | cons candidate candidates ih =>
    rw [List.append_cons, List.foldl_cons]
    exact ih (h.nearer candidate)

/-- The nearest preset of a table is the best of all candidates. -/
lemma isBest_nearest? (table : PresetTable) (phrase : String) :
    IsBest phrase (maxDistance phrase.length) table.candidates (table.nearest? phrase) := by
  have hstart : IsBest phrase (maxDistance phrase.length) [] none := .absent (by simp)
  exact hstart.foldl_nearer table.candidates

end Search

/-! ### The nearest preset of a table -/

section Nearest

variable {table : PresetTable} {phrase : String} {d : Nat} {p : Preset}

/-- Names have a property when all candidates have it. -/
lemma forall_mem_candidates_iff {P : String → Prop} :
    (∀ c ∈ table.candidates, P c.1) ↔ ∀ p ∈ table.presets, ∀ name ∈ p.names, P name := by
  simp only [candidates, List.forall_mem_flatMap, List.forall_mem_map]

/-- The preset of the first candidate with a name of a certain kind is the first preset with such a
name. -/
lemma map_find?_candidates (table : PresetTable) (P : String → Bool) :
    (table.candidates.find? fun c => P c.1).map Prod.snd =
      table.presets.find? fun p => p.names.any P := by
  obtain ⟨presets⟩ := table
  unfold candidates
  induction presets with
  | nil => rfl
  | cons p presets ih =>
    have hnames : (p.names.map fun name => (name, p)).find? (fun c => P c.1) =
        (p.names.find? P).map fun name => (name, p) := List.find?_map
    rw [List.flatMap_cons, List.find?_append, List.find?_cons, hnames]
    cases hfind : p.names.find? P with
    | none =>
      have hany : p.names.any P = false := by
        rw [List.any_eq_false]
        exact List.find?_eq_none.mp hfind
      rw [hany]
      exact ih
    | some name =>
      have hany : p.names.any P = true :=
        List.any_eq_true.mpr ⟨name, List.mem_of_find?_eq_some hfind, List.find?_some hfind⟩
      rw [hany]
      rfl

/-- What is said of the nearest preset when it is found. -/
lemma isFirstWith_of_nearest? (h : table.nearest? (Text.lowercase phrase) = some (d, p)) :
    d ≤ maxDistance (Text.lowercase phrase).length ∧
    (∀ q ∈ table.presets, ∀ name ∈ q.names, d ≤ nameDistance phrase name) ∧
    table.IsFirstWith (fun name => nameDistance phrase name = d) p := by
  have hbest := isBest_nearest? table (Text.lowercase phrase)
  rw [h] at hbest
  obtain _ | ⟨hlimit, hleast, hfind⟩ := hbest
  refine ⟨hlimit, forall_mem_candidates_iff.mp hleast, ?_⟩
  rw [isFirstWith_iff_find?_eq_some, ← map_find?_candidates]
  exact hfind

/-- There is no nearest preset when all names are beyond the limit. -/
lemma nearest?_eq_none_iff :
    table.nearest? (Text.lowercase phrase) = none ↔
      ∀ p ∈ table.presets, ∀ name ∈ p.names,
        maxDistance (Text.lowercase phrase).length < nameDistance phrase name := by
  constructor
  · intro h
    have hbest := isBest_nearest? table (Text.lowercase phrase)
    rw [h] at hbest
    obtain ⟨hbeyond⟩ | _ := hbest
    exact forall_mem_candidates_iff.mp hbeyond
  · intro hbeyond
    rw [Option.eq_none_iff_forall_ne_some]
    rintro ⟨d, p⟩ h
    obtain ⟨hlimit, _, earlier, later, hpresets, ⟨name, hname, hd⟩, _⟩ := isFirstWith_of_nearest? h
    have hlt := hbeyond p (by simp [hpresets]) name hname
    omega

/-- The nearest preset is the first one with a name at the least distance, if that is within the
limit. -/
lemma nearest?_eq_some_iff :
    table.nearest? (Text.lowercase phrase) = some (d, p) ↔
      d ≤ maxDistance (Text.lowercase phrase).length ∧
      (∀ q ∈ table.presets, ∀ name ∈ q.names, d ≤ nameDistance phrase name) ∧
      table.IsFirstWith (fun name => nameDistance phrase name = d) p := by
  refine ⟨isFirstWith_of_nearest?, ?_⟩
  rintro ⟨hlimit, hleast, hfirst⟩
  obtain ⟨name, hname, hd⟩ := hfirst.exists_name
  cases hnearest : table.nearest? (Text.lowercase phrase) with
  | none =>
    have hlt := nearest?_eq_none_iff.mp hnearest p hfirst.mem_presets name hname
    omega
  | some found =>
    obtain ⟨d', p'⟩ := found
    obtain ⟨_, hleast', hfirst'⟩ := isFirstWith_of_nearest? hnearest
    obtain ⟨name', hname', hd'⟩ := hfirst'.exists_name
    have hle : d ≤ d' := hd' ▸ hleast p' hfirst'.mem_presets name' hname'
    have hge : d' ≤ d := hd ▸ hleast' p hfirst.mem_presets name hname
    obtain rfl : d = d' := Nat.le_antisymm hle hge
    rw [hfirst.unique hfirst']

end Nearest

/-! ### Suggestions -/

/-- A table suggests the first preset that is nearest to a phrase.  The distance of a name is the
least number of insertions, deletions and substitutions of single characters between phrase and name
in lower case, and the limit goes by the length of the phrase in lower case.  Nothing is suggested
exactly when all names are beyond the limit; otherwise it is the name of the first preset with a
name at the least distance of all. -/
theorem suggest_is_first_nearest (table : PresetTable) (phrase : String) :
    let length := (Text.lowercase phrase).length
    let limit := maxDistance length
    (∀ name, IsLeast
      {n | Text.EditsTo n (Text.lowercase phrase).toList (Text.lowercase name).toList}
      (nameDistance phrase name)) ∧
    ((length ≤ 4 → limit = 1) ∧ (5 ≤ length → length ≤ 10 → limit = 2) ∧
      (11 ≤ length → limit = 3)) ∧
    (table.suggest phrase = none ↔
      ∀ p ∈ table.presets, ∀ name ∈ p.names, limit < nameDistance phrase name) ∧
    ∀ suggestion, table.suggest phrase = some suggestion ↔
      ∃ p least, table.IsFirstWith (fun name => nameDistance phrase name = least) p ∧
        p.name = suggestion ∧ least ≤ limit ∧
        ∀ q ∈ table.presets, ∀ name ∈ q.names, least ≤ nameDistance phrase name := by
  intro length limit
  refine ⟨fun name => Text.isLeast_editDistance _ _, ⟨?_, ?_, ?_⟩, ?_, ?_⟩
  · intro hshort
    exact if_pos hshort
  · intro hlong hshort
    exact (if_neg (by omega)).trans (if_pos hshort)
  · intro hlong
    exact (if_neg (by omega)).trans (if_neg (by omega))
  · rw [suggest, Option.map_eq_none_iff, nearest?_eq_none_iff]
  · intro suggestion
    rw [suggest, Option.map_eq_some_iff]
    constructor
    · rintro ⟨⟨least, p⟩, hnearest, hname⟩
      obtain ⟨hlimit, hleast, hfirst⟩ := nearest?_eq_some_iff.mp hnearest
      exact ⟨p, least, hfirst, hname, hlimit, hleast⟩
    · rintro ⟨p, least, hfirst, hname, hlimit, hleast⟩
      exact ⟨(least, p), nearest?_eq_some_iff.mpr ⟨hlimit, hleast, hfirst⟩, hname⟩

/-- Two presets, the second with a term that is like the name of the first. -/
def snackTable : PresetTable :=
  ⟨[⟨"Cafe", [], .ofList [("amenity", "cafe")], some [.node, .way]⟩,
    ⟨"Canteen", ["Cafes"], .ofList [("amenity", "canteen"), ("cuisine", "*")], none⟩]⟩

/-- Of two presets at the same distance the first one is suggested, and a later one when it has a
nearer term. -/
theorem suggest_is_first_nearest_cafes :
    snackTable.suggest "Cafs" = some "Cafe" ∧ snackTable.suggest "Cafesx" = some "Canteen" ∧
      nameDistance "Cafs" "Cafe" = nameDistance "Cafs" "Cafes" := by
  have hdistance : nameDistance "Cafs" "Cafe" = 1 ∧ nameDistance "Cafs" "Cafes" = 1 := by
    decide +kernel
  refine ⟨?_, ?_, hdistance.1.trans hdistance.2.symm⟩
  · obtain ⟨_, _, _, hsome⟩ := suggest_is_first_nearest snackTable "Cafs"
    refine (hsome "Cafe").mpr
      ⟨_, 1, ⟨[], _, rfl, ⟨"Cafe", by decide, hdistance.1⟩, by simp⟩, rfl, ?_, ?_⟩
    · decide +kernel
    · decide +kernel
  · obtain ⟨_, _, _, hsome⟩ := suggest_is_first_nearest snackTable "Cafesx"
    refine (hsome "Canteen").mpr
      ⟨_, 1, ⟨[_], [], rfl, ⟨"Cafes", by decide, by decide +kernel⟩, ?_⟩, rfl, ?_, ?_⟩
    · decide +kernel
    · decide +kernel
    · decide +kernel

end PresetTable

/-! ### Known phrases -/

/-- What a preset means: one condition for each of its tags, in increasing order of the keys, which
asks for the key only where the value is `*`, and the listed entity types, or all if none are
listed. -/
structure Preset.Means (p : Preset) (meaning : Resolution) : Prop where
  conditions : List.Forall₂
    (fun tag c => if tag.2 = "*" then c = Condition.hasKey tag.1 else c = .equals tag.1 tag.2)
    p.tags.entries meaning.conditions
  sorted : p.tags.entries.Pairwise fun a b => a.1 < b.1
  types : ∀ t, meaning.types.contains t = true ↔ ∀ listed ∈ p.types, t ∈ listed

/-- A preset means its meaning. -/
lemma Preset.means_resolution (p : Preset) : p.Means p.resolution where
  conditions := by
    rw [resolution, List.forall₂_map_right_iff, List.forall₂_same]
    intro tag _
    simp only [tagCondition]
    split <;> rfl
  sorted := p.tags.sorted
  types := by
    intro t
    cases htypes : p.types with
    | none => simp [resolution, htypes]
    | some listed => simp [resolution, htypes]

namespace PresetTable

/-- The names of a preset that a phrase is equal to, whatever its case, are those at distance
zero. -/
lemma isNamed_eq_any_nameDistance (p : Preset) (phrase : String) :
    p.isNamed phrase = p.names.any fun name => nameDistance phrase name = 0 := by
  have hname (name : String) :
      Text.lowercase name = Text.lowercase phrase ↔ nameDistance phrase name = 0 :=
    eq_comm.trans Text.editDistance_eq_zero_iff.symm
  simp only [Preset.isNamed, hname]

/-- The preset for a phrase is the first one with a name at distance zero. -/
lemma find?_eq_some_iff_isFirstWith {table : PresetTable} {phrase : String} {p : Preset} :
    table.find? phrase = some p ↔
      table.IsFirstWith (fun name => nameDistance phrase name = 0) p := by
  rw [isFirstWith_iff_find?_eq_some, find?]
  simp only [isNamed_eq_any_nameDistance]

/-- The exact look-up of a table and its suggestions agree on the phrases that it knows.  A phrase
is known exactly when some name is at distance zero from it, and the first preset with such a name
is the one that is suggested and the one whose meaning the phrase has. -/
theorem resolve_agrees_with_suggest (table : PresetTable) (phrase : String) :
    ((table.resolve phrase).isSome = true ↔
      ∃ p ∈ table.presets, ∃ name ∈ p.names, nameDistance phrase name = 0) ∧
    ∀ meaning, table.resolve phrase = some meaning →
      ∃ p, table.IsFirstWith (fun name => nameDistance phrase name = 0) p ∧
        table.suggest phrase = some p.name ∧ p.Means meaning := by
  constructor
  · rw [resolve, Option.isSome_map, find?, List.find?_isSome]
    simp only [isNamed_eq_any_nameDistance, List.any_eq_true, decide_eq_true_eq]
  · intro meaning h
    obtain ⟨p, hfind, rfl⟩ := Option.map_eq_some_iff.mp h
    have hfirst := find?_eq_some_iff_isFirstWith.mp hfind
    have hnearest : table.nearest? (Text.lowercase phrase) = some (0, p) :=
      nearest?_eq_some_iff.mpr ⟨Nat.zero_le _, fun _ _ _ _ => Nat.zero_le _, hfirst⟩
    refine ⟨p, hfirst, ?_, p.means_resolution⟩
    rw [suggest, hnearest]
    rfl

/-- A phrase that is a term of the second preset means this preset, although the name of the first
one is within the limit and is looked at before. -/
theorem resolve_agrees_with_suggest_cafes :
    snackTable.resolve "CAFES" =
        some ⟨[.equals "amenity" "canteen", .hasKey "cuisine"], .all⟩ ∧
      snackTable.suggest "CAFES" = some "Canteen" := by
  have hknown : snackTable.resolve "CAFES" =
      some ⟨[.equals "amenity" "canteen", .hasKey "cuisine"], .all⟩ := by
    decide +kernel
  have hcanteen : snackTable.IsFirstWith (fun name => nameDistance "CAFES" name = 0)
      ⟨"Canteen", ["Cafes"], .ofList [("amenity", "canteen"), ("cuisine", "*")], none⟩ :=
    ⟨[_], [], rfl, ⟨"Cafes", by decide, by decide +kernel⟩, by decide +kernel⟩
  obtain ⟨p, hfirst, hsuggest, _⟩ :=
    (resolve_agrees_with_suggest snackTable "CAFES").2 _ hknown
  rw [hfirst.unique hcanteen] at hsuggest
  exact ⟨hknown, hsuggest⟩

end PresetTable

end TagSearch
