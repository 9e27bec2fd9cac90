import TagSearch.Preparsed
import TagSearch.Resolver
import TagSearch.SearchTree.Terms
import TagSearch.Text.Occurrence
import TagSearch.Text.Token

/-!
# Repairing a search

A search whose phrases are unknown to the resolver can be repaired where the resolver has
suggestions.  Phrases are looked for one after the other, in the order of the terms, each one in the
text after the previous one; a phrase that does not occur there is left as it is.
-/

namespace TagSearch

/-- A piece of a repaired search. -/
inductive Fragment where
  /-- Text that is kept. -/
  | text (s : String)
  /-- What stands in place of an unknown phrase. -/
  | replacement (s : String)
  deriving DecidableEq, Repr

namespace Fragment

/-- The text of a fragment. -/
def content : Fragment → String
  | text s => s
  | replacement s => s

/-- Whether a fragment stands in place of an unknown phrase. -/
def isReplacement : Fragment → Bool
  | text _ => false
  | replacement _ => true

end Fragment

namespace Repair

/-- Puts suggestions in place of phrases in the remaining text of a search. -/
def splice : (corrections : List (String × String)) → (remaining : List Char) → List Fragment
  | [], remaining => [.text (String.ofList remaining)]
  | (phrase, suggestion) :: corrections, remaining =>
    match Text.Occurrence.find? phrase.toList remaining with
    | none => splice corrections remaining
    | some found =>
      .text (String.ofList found.before) :: .replacement (Text.quoteToken suggestion) ::
        splice corrections found.after

/-- The repaired search, if anything can be repaired in it. -/
def fragments? (corrections : List (String × String)) (search : String) : Option (List Fragment) :=
  let fragments := splice corrections search.toList
  if fragments.any Fragment.isReplacement then some fragments else none

/-- The text of a repaired search. -/
def repairedSearch (fragments : List Fragment) : String :=
  String.join (fragments.map Fragment.content)

/-- The phrases of a search, in the order of its terms. -/
def phrases (t : SearchTree) : List String :=
  t.termConditions.filterMap Condition.phrase?

section

variable {m : Type → Type} [Monad m]

/-- The suggestion for a phrase, if it is unknown. -/
def correctionWith (resolve : String → m (Option Resolution)) (suggest : String → m (Option String))
    (phrase : String) : m (Option String) := do
  match ← resolve phrase with
  | some _ => return none
  | none => suggest phrase

/-- The unknown phrases that have a suggestion, each with its suggestion. -/
def correctionsWith (resolve : String → m (Option Resolution))
    (suggest : String → m (Option String)) : List String → m (List (String × String))
  | [] => return []
  | phrase :: phrases => do
    let correction ← correctionWith resolve suggest phrase
    let corrections ← correctionsWith resolve suggest phrases
    return (correction.map (phrase, ·)).toList ++ corrections

/-- The repaired search, if it can be parsed and anything can be repaired in it. -/
def repairWith {ε : Type} (resolve : String → m (Option Resolution))
    (suggest : String → m (Option String)) (parse : String → Except ε ParsedSearch)
    (search : String) : m (Option (List Fragment)) :=
  match parse search with
  | .error _ => return none
  | .ok parsed => do
    let corrections ← correctionsWith resolve suggest (phrases parsed.query)
    return fragments? corrections search

end

/-- The repaired search for any way to parse searches, where phrases and suggestions are those of a
resolver. -/
def repairParsedBy {ε : Type} (resolver : Resolver) (parse : String → Except ε ParsedSearch)
    (search : String) : Option (List Fragment) :=
  Id.run (repairWith (fun phrase => pure (resolver.resolve phrase))
    (fun phrase => pure (resolver.suggest phrase)) parse search)

/-- The repaired search, where the parse comes with the search. -/
def repair (resolver : Resolver) (parser : Preparsed) (search : String) : Option (List Fragment) :=
  repairParsedBy resolver parser.parse search

end Repair

end TagSearch
