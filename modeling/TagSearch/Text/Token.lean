/-!
# Tokens of the search language

How keys, values, phrases and patterns are written in a search.  A *bare* token needs no quotes.
Other tokens are put in double quotes, and patterns between slashes.
-/

namespace TagSearch.Text

/-- Whether a character may stand in a token without quotes: an ASCII letter, a digit or `_`. -/
def isBareChar (c : Char) : Bool :=
  c.isAlphanum || c == '_'

/-- Whether a text needs no quotes: it is not empty and holds bare characters only. -/
def isBareToken (s : String) : Bool :=
  !s.isEmpty && s.toList.all isBareChar

/-- A character inside double quotes: only the double quote itself is marked. -/
def quoteChar (c : Char) : List Char :=
  if c = '"' then ['\\', '"'] else [c]

/-- A text as a token of the search language. -/
def quoteToken (s : String) : String :=
  if isBareToken s then s
  else String.ofList ('"' :: s.toList.flatMap quoteChar ++ ['"'])

/-- A character inside slashes: only the slash itself is marked. -/
def slashChar (c : Char) : List Char :=
  if c = '/' then ['\\', '/'] else [c]

/-- A pattern as a token of the search language. The slashes may be left out only when there is no
modifier and the pattern is bare. -/
def quoteRegex (regex : String) (modifier : Option String) : String :=
  if modifier.isNone && isBareToken regex then regex
  else String.ofList ('/' :: regex.toList.flatMap slashChar ++ '/' :: (modifier.getD "").toList)

/-- Whether a character has a meaning of its own in a pattern. -/
def isRegexSpecial (c : Char) : Bool :=
  c ∈ ['(', ')', '[', '\x7b', '*', '+', '.', '$', '^', '\\', '|', '?']

/-- A character in a pattern that matches just this character. -/
def literalChar (c : Char) : List Char :=
  if isRegexSpecial c then ['\\', c] else [c]

/-- The pattern that matches just the given text. -/
def regexLiteral (s : String) : String :=
  String.ofList (s.toList.flatMap literalChar)

end TagSearch.Text
