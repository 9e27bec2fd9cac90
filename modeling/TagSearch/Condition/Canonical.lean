import TagSearch.Condition.Basic
import TagSearch.Text.Token

/-!
# Canonical conditions

The query language has no substring conditions, and an empty key or value can only be asked for by a
pattern.  A condition is made canonical in three steps that write these cases as patterns.
-/

namespace TagSearch.Condition

/-- Asks for a contained text by a pattern. -/
def spellOutText : Condition → Condition
  | .contains key text => .like key { regex := Text.regexLiteral text }
  | c => c

/-- Asks for an empty value by a pattern. -/
def spellOutEmptyValue : Condition → Condition
  | .equals key value =>
    if value = "" then .like key { regex := "^$" } else .equals key value
  | .differs key value =>
    if value = "" then .unlike key { regex := "^$" } else .differs key value
  | c => c

/-- Asks for an empty key by a pattern on keys. Negated conditions have no such form and stay. -/
def spellOutEmptyKey : Condition → Condition
  | .hasKey key =>
    if key = "" then .likeBoth "^$" { regex := ".*" } else .hasKey key
  | .equals key value =>
    if key = "" then .likeBoth "^$" { regex := "^" ++ Text.regexLiteral value ++ "$" }
    else .equals key value
  | .like key pattern =>
    if key = "" then .likeBoth "^$" pattern else .like key pattern
  | c => c

/-- The canonical form of a condition. -/
def canonical (c : Condition) : Condition :=
  c.spellOutText.spellOutEmptyValue.spellOutEmptyKey

end TagSearch.Condition
