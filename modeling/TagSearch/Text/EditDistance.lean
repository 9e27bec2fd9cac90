/-!
# Edit distance

The least number of insertions, deletions and substitutions of single characters that turn one text
into another.  Distances are computed row by row: the row of a text `ys` holds, for every ending of
`xs` from the longest to the empty one, its distance to `ys`.
-/

namespace TagSearch.Text

/-- The row of the empty text: an ending is deleted character by character. -/
def distanceRow₀ : List Char → List Nat
  | [] => [0]
  | _ :: xs => (xs.length + 1) :: distanceRow₀ xs

/-- The row of `y :: ys` from the row of `ys`. -/
def distanceRowStep (y : Char) : List Char → List Nat → List Nat
  | x :: xs, d :: ds =>
    let row := distanceRowStep y xs ds
    let substituted := ds.headD 0 + if x = y then 0 else 1
    min substituted (min (row.headD 0 + 1) (d + 1)) :: row
  | _, ds => [ds.headD 0 + 1]

/-- The distances of every ending of `xs` to `ys`. -/
def distanceRow (xs : List Char) : List Char → List Nat
  | [] => distanceRow₀ xs
  | y :: ys => distanceRowStep y xs (distanceRow xs ys)

/-- The edit distance of two texts, counted in characters. -/
def editDistance (s t : String) : Nat :=
  (distanceRow s.toList t.toList).headD 0

end TagSearch.Text
