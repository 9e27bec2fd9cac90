import TagSearch.Condition.Basic
import TagSearch.Text.Token

/-!
# Conditions as they are shown

The form in which a condition is named in comments and messages, which is the form of the search
language.
-/

namespace TagSearch

/-- A pattern as a token of the search language. -/
def Pattern.display (p : Pattern) : String :=
  Text.quoteRegex p.regex p.modifier

/-- A condition in the form of the search language. -/
def Condition.display : Condition → String
  | .hasKey key => Text.quoteToken key ++ "=*"
  | .lacksKey key => Text.quoteToken key ++ "!=*"
  | .equals key value => Text.quoteToken key ++ "=" ++ Text.quoteToken value
  | .differs key value => Text.quoteToken key ++ "!=" ++ Text.quoteToken value
  | .like key pattern => Text.quoteToken key ++ "~" ++ pattern.display
  | .unlike key pattern => Text.quoteToken key ++ "!~" ++ pattern.display
  | .likeBoth keyRegex pattern => "~" ++ Text.quoteToken keyRegex ++ "~" ++ pattern.display
  | .contains key text => Text.quoteToken key ++ ":" ++ Text.quoteToken text
  | .ofType type => "type:" ++ type.name
  | .metadata kind value => kind.name ++ ":" ++ Text.quoteToken value
  | .phrase text => Text.quoteToken text

end TagSearch
