import TagSearch.Text.CaseProperty
import TagSearch.Text.LowercaseTable

/-!
# Lower case

Full lower-casing of a text.  Letters are lowered one by one, with two rules beyond the table: the
dotted capital `İ` becomes two characters, and a capital sigma that ends a word takes its final
form.
-/

namespace TagSearch.Text

/-- Whether the next character that is not case-ignorable is a letter with case. -/
def startsWithCased (cs : List Char) : Bool :=
  (cs.dropWhile isCaseIgnorable).head?.any isCased

/-- The lower-case form of `c` between the characters `before` it, nearest first, and `after` it. A
capital sigma ends a word when a cased letter precedes it and none follows. -/
def lowerChar (before : List Char) (c : Char) (after : List Char) : List Char :=
  match c with
  | 'Σ' => if startsWithCased before && !startsWithCased after then ['ς'] else ['σ']
  | 'İ' => ['i', '\u0307']
  | c => [lowercaseLetter c]

/-- Lower-cases the characters that follow `before`, which is given nearest first. -/
def lowerChars (before : List Char) : List Char → List Char
  | [] => []
  | c :: after => lowerChar before c after ++ lowerChars (c :: before) after

/-- A text in lower case. -/
def lowercase (s : String) : String :=
  String.ofList (lowerChars [] s.toList)

end TagSearch.Text
