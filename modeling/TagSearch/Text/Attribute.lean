/-!
# Attribute values

Text inside a double-quoted XML attribute.  Eight characters cannot stand there as themselves and
are written as references; everything else is written as it is.  A reference already present in the
text is ordinary text, so its `&` is written as a reference too.
-/

namespace TagSearch.Text.Attribute

/-- A character as it is written inside an attribute value. -/
def escapeChar : Char → List Char
  | '&' => ['&', 'a', 'm', 'p', ';']
  | '<' => ['&', 'l', 't', ';']
  | '>' => ['&', 'g', 't', ';']
  | '"' => ['&', 'q', 'u', 'o', 't', ';']
  | '\'' => ['&', '#', '0', '3', '9', ';']
  | '\t' => ['&', '#', '0', '9', ';']
  | '\n' => ['&', '#', '1', '0', ';']
  | '\r' => ['&', '#', '1', '3', ';']
  | c => [c]

/-- A text as it is written inside an attribute value. -/
def escape (s : String) : String :=
  String.ofList (s.toList.flatMap escapeChar)

@[simp] theorem toList_escape (s : String) : (escape s).toList = s.toList.flatMap escapeChar :=
  String.toList_ofList

end TagSearch.Text.Attribute
