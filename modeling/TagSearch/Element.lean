import TagSearch.Text.Attribute

/-!
# Elements

An empty XML element with its attributes.  Attribute values are kept as they are meant and escaped
when the element is written, so each of them is escaped exactly once.
-/

namespace TagSearch

/-- An empty XML element: its name, and its attributes in order. -/
structure Element where
  name : String
  attributes : List (String × String)
  deriving DecidableEq, Repr

namespace Element

/-- An attribute as it is written, with the blank in front of it. -/
def renderAttribute : String × String → String
  | (name, value) => " " ++ name ++ "=\"" ++ Text.Attribute.escape value ++ "\""

/-- An element as it is written. -/
def render (e : Element) : String :=
  "<" ++ e.name ++ String.join (e.attributes.map renderAttribute) ++ "/>"

end Element

end TagSearch
