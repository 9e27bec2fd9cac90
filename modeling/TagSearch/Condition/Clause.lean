import TagSearch.Condition.Canonical
import TagSearch.Condition.Display
import TagSearch.Condition.RelativeDate
import TagSearch.Element
import TagSearch.Text.Inspect

/-!
# Clauses

A clause is the line of a query block that stands for one condition.  Most clauses are the same for
every entity type; the lookup of an id names the type it is for.
-/

namespace TagSearch

/-- Why a condition has no clause. -/
inductive ClauseError where
  /-- The resolver does not know the phrase. -/
  | unresolved (phrase : String)
  /-- The condition, shown in the form of the search language, has no clause of its own. -/
  | unsupported (display : String)
  deriving DecidableEq, Repr

/-- The message for a condition without a clause. -/
def ClauseError.message : ClauseError → String
  | .unresolved phrase =>
    "free-form phrase " ++ Text.inspect phrase ++ " does not match any preset"
  | .unsupported display => "unsupported condition: " ++ display

/-- The line of a query block for one condition. -/
inductive Clause where
  /-- An element that is the same for every entity type. -/
  | fixed (element : Element)
  /-- The lookup of an id. -/
  | idLookup (id : String)
  deriving DecidableEq, Repr

namespace Clause

/-- The element of a clause in a block for the given entity type. -/
def element (t : EntityType) : Clause → Element
  | fixed e => e
  | idLookup id => ⟨"id-query", [("type", t.name), ("ref", id)]⟩

/-- A clause as it is written in a block for the given entity type. -/
def render (t : EntityType) (c : Clause) : String :=
  (c.element t).render

end Clause

/-- The attribute that makes a pattern ignore case. -/
def Pattern.caseAttribute (p : Pattern) : List (String × String) :=
  if p.ignoresCase then [("case", "ignore")] else []

namespace MetaKind

/-- The date of a `newer` clause: a relative one is left to the program that runs the query. -/
def dateValue (date : String) : String :=
  if RelativeDate.isRelative date then "\x7b\x7bdate:" ++ date ++ "\x7d\x7d" else date

/-- The clause for metadata. -/
def clause (value : String) : MetaKind → Clause
  | id => .idLookup value
  | newer => .fixed ⟨"newer", [("than", dateValue value)]⟩
  | user => .fixed ⟨"user", [("name", value)]⟩
  | uid => .fixed ⟨"user", [("uid", value)]⟩

end MetaKind

namespace Condition

/-- A clause on tags. -/
def tagClause (attributes : List (String × String)) : Clause :=
  .fixed ⟨"has-kv", attributes⟩

/-- The clause of a condition that is in canonical form. -/
def canonicalClause : Condition → Except ClauseError Clause
  | .hasKey key => .ok (tagClause [("k", key)])
  | .lacksKey key => .ok (tagClause [("k", key), ("modv", "not"), ("regv", ".*")])
  | .equals key value => .ok (tagClause [("k", key), ("v", value)])
  | .differs key value => .ok (tagClause [("k", key), ("modv", "not"), ("v", value)])
  | .like key pattern =>
    .ok (tagClause ([("k", key), ("regv", pattern.regex)] ++ pattern.caseAttribute))
  | .unlike key pattern =>
    .ok (tagClause
      ([("k", key), ("modv", "not"), ("regv", pattern.regex)] ++ pattern.caseAttribute))
  | .likeBoth keyRegex pattern =>
    .ok (tagClause ([("regk", keyRegex), ("regv", pattern.regex)] ++ pattern.caseAttribute))
  | .metadata kind value => .ok (kind.clause value)
  | c => .error (.unsupported c.display)

/-- The clause of a condition. Type filters and free-form phrases have none. -/
def clause (c : Condition) : Except ClauseError Clause :=
  c.canonical.canonicalClause

end Condition

end TagSearch
