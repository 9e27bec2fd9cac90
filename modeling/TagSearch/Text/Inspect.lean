import TagSearch.Text.GraphemeExtend
import TagSearch.Text.Unprintable

/-!
# Texts made visible

Messages show a text in double quotes and with every character visible: characters that cannot be
seen, or that would be drawn onto their neighbour, are given by their code point.
-/

namespace TagSearch.Text

/-- A character given by its code point. -/
def codePointEscape (c : Char) : List Char :=
  ['\\', 'u', '\x7b'] ++ Nat.toDigits 16 c.toNat ++ ['\x7d']

/-- A character as it is shown between double quotes. -/
def inspectChar (c : Char) : List Char :=
  match c with
  | '\x00' => ['\\', '0']
  | '\t' => ['\\', 't']
  | '\n' => ['\\', 'n']
  | '\r' => ['\\', 'r']
  | '"' => ['\\', '"']
  | '\\' => ['\\', '\\']
  | c => if extendsGrapheme c || isUnprintable c then codePointEscape c else [c]

/-- A text in double quotes, with every character visible. -/
def inspect (s : String) : String :=
  String.ofList ('"' :: s.toList.flatMap inspectChar ++ ['"'])

end TagSearch.Text
