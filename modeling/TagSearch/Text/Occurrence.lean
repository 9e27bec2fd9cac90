/-!
# Occurrences of a phrase

Where a phrase stands in a text.  An occurrence takes a quote character on either side with it, if
there is one; the two need not be equal.  Of all occurrences the one that starts first is meant, and
of two that start at the same place the one with a quote in front.
-/

namespace TagSearch.Text

/-- Whether a character is a single or a double quote. -/
def isQuote (c : Char) : Bool :=
  c == '\'' || c == '"'

/-- What follows `phrase` in a text that starts with it. -/
def afterStart? : (phrase text : List Char) → Option (List Char)
  | [], text => some text
  | _ :: _, [] => none
  | p :: phrase, c :: text => if p = c then afterStart? phrase text else none

/-- Splits a quote off the start of a text, if there is one. -/
def splitQuote : List Char → List Char × List Char
  | c :: rest => if isQuote c then ([c], rest) else ([], c :: rest)
  | [] => ([], [])

/-- A phrase found in a text: what precedes it, the piece with the phrase and its quotes, and what
follows. -/
structure Occurrence where
  before : List Char
  piece : List Char
  after : List Char

namespace Occurrence

/-- The occurrence whose phrase starts with the text, where `opening` has been read before the
text. -/
def atStart? (phrase opening text : List Char) : Option Occurrence :=
  (afterStart? phrase text).map fun rest =>
    let (closing, after) := splitQuote rest
    { before := [], piece := opening ++ phrase ++ closing, after := after }

/-- The occurrence that starts with the text, where an opening quote is preferred to none. -/
def here? (phrase text : List Char) : Option Occurrence :=
  match splitQuote text with
  | ([], _) => atStart? phrase [] text
  | (opening, rest) => (atStart? phrase opening rest).or (atStart? phrase [] text)

/-- The first occurrence of a phrase in a text. -/
def find? (phrase : List Char) : (text : List Char) → Option Occurrence
  | [] => here? phrase []
  | c :: text =>
    (here? phrase (c :: text)).or
      ((find? phrase text).map fun o => { o with before := c :: o.before })

end Occurrence

end TagSearch.Text
