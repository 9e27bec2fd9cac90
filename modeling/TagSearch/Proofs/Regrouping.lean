import Mathlib.Logic.Relation
import Mathlib.Tactic.Common
import TagSearch.Document
import TagSearch.Repair

/-!
# How a search is grouped does not matter

A parser may nest a chain of `and` or of `or` to the left or to the right, and it may have
distributed an `and` over an `or` on its left.  Trees that differ in this way only have the same
terms in the same order, not just equivalent ones: the left side of `and` varies slowest, so pulling
an `or` out of it leaves the pairs of terms in their order.  What is assembled and what is repaired
depends on a tree through its terms only, and is therefore the same, down to the order of lines.

The mirror image of the distribution has no such property, as the example at the end shows.
-/

namespace TagSearch

namespace SearchTree

/-- One change of the grouping of a tree, at any depth. -/
inductive Regroups : SearchTree → SearchTree → Prop where
  | and_assoc (a b c : SearchTree) : Regroups (and (and a b) c) (and a (and b c))
  | or_assoc (a b c : SearchTree) : Regroups (or (or a b) c) (or a (or b c))
  | or_and (a b c : SearchTree) : Regroups (and (or a b) c) (or (and a c) (and b c))
  | and_left {l l' : SearchTree} (r : SearchTree) : Regroups l l' → Regroups (and l r) (and l' r)
  | and_right (l : SearchTree) {r r' : SearchTree} : Regroups r r' → Regroups (and l r) (and l r')
  | or_left {l l' : SearchTree} (r : SearchTree) : Regroups l l' → Regroups (or l r) (or l' r)
  | or_right (l : SearchTree) {r r' : SearchTree} : Regroups r r' → Regroups (or l r) (or l r')

/-- Trees that any number of changes of the grouping, in either direction, lead from one to the
other. -/
def SameUpToGrouping : SearchTree → SearchTree → Prop :=
  Relation.EqvGen Regroups

/-! ### The terms of regrouped trees -/

/-- The grouping of a chain of `and` does not show in its terms. -/
lemma terms_and_assoc (a b c : SearchTree) :
    (and (and a b) c).terms = (and a (and b c)).terms := by
  simp only [terms, List.flatMap_assoc, List.flatMap_map, List.map_flatMap, List.map_map,
    Function.comp_def, List.append_assoc]

/-- The grouping of a chain of `or` does not show in its terms. -/
lemma terms_or_assoc (a b c : SearchTree) :
    (or (or a b) c).terms = (or a (or b c)).terms :=
  List.append_assoc a.terms b.terms c.terms

/-- Pulling an `or` out of the left side of `and` keeps the terms in order. -/
lemma terms_or_and (a b c : SearchTree) :
    (and (or a b) c).terms = (or (and a c) (and b c)).terms :=
  List.flatMap_append

/-- One change of the grouping keeps the terms. -/
lemma Regroups.terms_eq {t t' : SearchTree} (h : Regroups t t') : t.terms = t'.terms := by
  induction h with
  | and_assoc a b c => exact terms_and_assoc a b c
  | or_assoc a b c => exact terms_or_assoc a b c
  | or_and a b c => exact terms_or_and a b c
  | and_left r _ ih | and_right l _ ih | or_left r _ ih | or_right l _ ih =>
    rw [terms, terms, ih]

/-- Any number of changes of the grouping keeps the terms. -/
lemma SameUpToGrouping.terms_eq {t t' : SearchTree} (h : SameUpToGrouping t t') :
    t.terms = t'.terms := by
  induction h with
  | rel _ _ hstep => exact hstep.terms_eq
  | refl _ => rfl
  | symm _ _ _ ih => exact ih.symm
  | trans _ _ _ _ _ ih ih' => exact ih.trans ih'

end SearchTree

/-! ### What depends on the terms only -/

section Monad

variable {m : Type → Type} [Monad m] {t t' : SearchTree}

/-- The document for a search depends on the tree through its terms only, whatever effects the
resolver has. -/
lemma Document.assembleWith_eq_of_terms_eq [MonadExceptOf ClauseError m]
    (resolve : String → m (Option Resolution)) (config : Config) (search : String)
    (comment : Option String) (bounds : Bounds) (h : t.terms = t'.terms) :
    assembleWith resolve config search comment ⟨t, bounds⟩ =
      assembleWith resolve config search comment ⟨t', bounds⟩ := by
  have hparts : t.parts resolve = t'.parts resolve := by
    rw [SearchTree.parts, SearchTree.parts, h]
  simp only [assembleWith, hparts]

/-- The repair of a search depends on the tree through its terms only, whatever effects the resolver
has. -/
lemma Repair.repairWith_eq_of_terms_eq {ε : Type} (resolve : String → m (Option Resolution))
    (suggest : String → m (Option String)) {parse parse' : String → Except ε ParsedSearch}
    {search : String} {bounds bounds' : Bounds} (h : t.terms = t'.terms)
    (hparse : parse search = .ok ⟨t, bounds⟩) (hparse' : parse' search = .ok ⟨t', bounds'⟩) :
    repairWith resolve suggest parse search = repairWith resolve suggest parse' search := by
  have hphrases : phrases t = phrases t' := by
    rw [phrases, phrases, SearchTree.termConditions, SearchTree.termConditions, h]
  simp only [repairWith, hparse, hparse', hphrases]

end Monad

/-! ### Documents and repairs -/

/-- Neither the document nor the repair of a search shows how its tree is grouped.  The same
document, and so the same text, or else the same error is given for two trees that differ in their
grouping only; and the search is repaired in the same way, however it is parsed to one or the other
tree, also when the parse is asked for another text. -/
theorem assemble_eq_and_repair_eq_of_sameUpToGrouping {t t' : SearchTree}
    (h : t.SameUpToGrouping t') (resolver : Resolver) (bounds : Bounds) (search : String) :
    (∀ (config : Config) (comment : Option String),
      Document.assemble resolver config search comment ⟨t, bounds⟩ =
        Document.assemble resolver config search comment ⟨t', bounds⟩) ∧
    (∀ asked : String, Repair.repair resolver ⟨search, ⟨t, bounds⟩⟩ asked =
      Repair.repair resolver ⟨search, ⟨t', bounds⟩⟩ asked) ∧
    ∀ {ε : Type} (parse parse' : String → Except ε ParsedSearch),
      parse search = .ok ⟨t, bounds⟩ → parse' search = .ok ⟨t', bounds⟩ →
      Repair.repairParsedBy resolver parse search = Repair.repairParsedBy resolver parse' search := by
  have hrepair {ε : Type} (asked : String) (parse parse' : String → Except ε ParsedSearch)
      (hparse : parse asked = .ok ⟨t, bounds⟩) (hparse' : parse' asked = .ok ⟨t', bounds⟩) :
      Repair.repairParsedBy resolver parse asked = Repair.repairParsedBy resolver parse' asked :=
    congrArg Id.run (Repair.repairWith_eq_of_terms_eq _ _ h.terms_eq hparse hparse')
  refine ⟨?_, ?_, fun parse parse' => hrepair search parse parse'⟩
  · intro config comment
    exact Document.assembleWith_eq_of_terms_eq _ config search comment bounds h.terms_eq
  · intro asked
    by_cases hasked : asked = search
    · exact hrepair asked _ _ (if_pos hasked) (if_pos hasked)
    · -- neither parse is for the text that is asked for
      have hnone (p : ParsedSearch) : Repair.repair resolver ⟨search, p⟩ asked = none := by
        unfold Repair.repair Repair.repairParsedBy Repair.repairWith
        rw [Preparsed.parse, if_neg hasked]
        rfl
      rw [hnone, hnone]

/-- A search for misspelled cafes or shops that have wireless access is repaired in the same way
when the access is asked for once and when it is asked for in both cases. -/
theorem repair_eq_of_sameUpToGrouping_cafee :
    let cafee : SearchTree := .leaf (.phrase "Cafee")
    let shop : SearchTree := .leaf (.hasKey "shop")
    let wlan : SearchTree := .leaf (.equals "internet_access" "wlan")
    let spread : SearchTree := .or (.and cafee wlan) (.and shop wlan)
    let compact : SearchTree := .and (.or cafee shop) wlan
    let resolver : Resolver := .ofLists [] [("Cafee", "Cafe")]
    let search := "(Cafee or shop) and internet_access=wlan"
    spread.SameUpToGrouping compact ∧
      Repair.repair resolver ⟨search, ⟨spread, .bbox⟩⟩ search =
        Repair.repair resolver ⟨search, ⟨compact, .bbox⟩⟩ search ∧
      Repair.repair resolver ⟨search, ⟨compact, .bbox⟩⟩ search =
        some [.text "(", .replacement "Cafe", .text " or shop) and internet_access=wlan"] := by
  intro cafee shop wlan spread compact resolver search
  have h : spread.SameUpToGrouping compact := .symm _ _ (.rel _ _ (.or_and cafee shop wlan))
  refine ⟨h, ?_, by decide +kernel⟩
  exact (assemble_eq_and_repair_eq_of_sameUpToGrouping h resolver .bbox search).2.1 search

/-- Pulling an `or` out of the right side of `and` may change the order of the terms. -/
example :
    let a : SearchTree := .leaf (.hasKey "a")
    let b : SearchTree := .leaf (.hasKey "b")
    let c : SearchTree := .leaf (.hasKey "c")
    (SearchTree.and (.or a b) (.or a c)).terms ≠
      (SearchTree.or (.and (.or a b) a) (.and (.or a b) c)).terms := by
  decide

end TagSearch
