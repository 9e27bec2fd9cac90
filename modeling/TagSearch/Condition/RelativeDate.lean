/-!
# Relative dates

A date may be given as a distance from now: an optional minus sign, digits, at most one blank, and
at most one unit in the singular or the plural.
-/

namespace TagSearch.RelativeDate

/-- The units of time, in the singular. -/
def units : List String :=
  ["second", "minute", "hour", "day", "week", "month", "year"]

/-- Whether a text is empty or a unit in the singular or the plural. -/
def isUnit (cs : List Char) : Bool :=
  cs.isEmpty || units.any fun unit => cs == unit.toList || cs == unit.toList ++ ['s']

/-- A text without one leading character `c`, if it has that. -/
def dropOne (c : Char) : List Char → List Char
  | d :: cs => if c = d then cs else d :: cs
  | [] => []

/-- Whether a text gives a date relative to now. -/
def isRelative (s : String) : Bool :=
  match (dropOne '-' s.toList).span Char.isDigit with
  | ([], _) => false
  | (_ :: _, rest) => isUnit (dropOne ' ' rest)

end TagSearch.RelativeDate
