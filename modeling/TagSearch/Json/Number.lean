import TagSearch.Json.Basic

/-!
# JSON numbers

Reading a number.  A number that is too large for a double-precision float is no number: its digits,
as many as fit 64 bits, times its power of ten must stay below `2 ^ 1024` when both factors and the
product are rounded to 53 significant bits.
-/

namespace TagSearch.Json

/-- The nearest integer with at most 53 significant bits; of two equally near ones, the even one. -/
def roundToDouble (n : Nat) : Nat :=
  let unit := Nat.pow 2 (n.log2 + 1 - 53)
  let quotient := n / unit
  let twice := 2 * (n % unit)
  let up := unit < twice ∨ (unit = twice ∧ quotient % 2 = 1)
  (if up then quotient + 1 else quotient) * unit

/-- The value of a digit. -/
def digitValue (c : Char) : Nat :=
  c.toNat - '0'.toNat

/-- The leading digits of a number as one 64-bit integer, and how many digits were left out because
they did not fit. -/
def leadingDigits : (value : Nat) → List Char → Nat × Nat
  | value, [] => (value, 0)
  | value, c :: digits =>
    let next := value * 10 + digitValue c
    if next < 2 ^ 64 then leadingDigits next digits else (value, digits.length + 1)

/-- Whether a number fits a double-precision float, given the digits before and after its point and
its exponent. -/
def fitsDouble (whole fraction : List Char) (exponent : Int) : Bool :=
  let (significand, left) := leadingDigits 0 (whole ++ fraction)
  let power := exponent - fraction.length + left
  if significand = 0 ∨ power < 0 then true
  else if 308 < power then false
  else
    let scale := Nat.pow 10 power.toNat
    roundToDouble (roundToDouble significand * roundToDouble scale) < Nat.pow 2 1024

/-- The integer that a list of digits writes. -/
def digitsValue (digits : List Char) : Nat :=
  digits.foldl (fun value c => value * 10 + digitValue c) 0

/-- The digits before the point: at least one, and no zero in front of others. -/
def wholeDigits? (cs : List Char) : Option (List Char × List Char) :=
  match cs.span Char.isDigit with
  | ([], _) => none
  | ('0' :: _ :: _, _) => none
  | split => some split

/-- The digits after the point, if there is a point; then there has to be at least one. -/
def fractionDigits? : List Char → Option (List Char × List Char)
  | '.' :: cs =>
    match cs.span Char.isDigit with
    | ([], _) => none
    | split => some split
  | cs => some ([], cs)

/-- The exponent, if there is one, with its optional sign. -/
def exponent? (cs : List Char) : Option (Option Int × List Char) :=
  match cs with
  | c :: rest =>
    if c = 'e' ∨ c = 'E' then
      let (negative, digits) := match rest with
        | '-' :: r => (true, r)
        | '+' :: r => (false, r)
        | r => (false, r)
      match digits.span Char.isDigit with
      | ([], _) => none
      | (ds, r) =>
        let n : Int := digitsValue ds
        some (some (if negative then -n else n), r)
    else some (none, cs)
  | [] => some (none, [])

/-- Reads a number and returns it with the rest of the text. -/
def number? (cs : List Char) : Option (Json × List Char) := do
  let (negative, unsigned) := match cs with
    | '-' :: r => (true, r)
    | _ => (false, cs)
  let (whole, rest) ← wholeDigits? unsigned
  let (fraction, rest) ← fractionDigits? rest
  let (exponent, rest) ← exponent? rest
  if fitsDouble whole fraction (exponent.getD 0) then
    let magnitude : Int := digitsValue (whole ++ fraction)
    let signed := if negative then -magnitude else magnitude
    if fraction.isEmpty && exponent.isNone && !(negative && magnitude == 0) then
      some (.int signed, rest)
    else
      some (.dec signed (exponent.getD 0 - fraction.length), rest)
  else none

/-- Passes over a number, whatever its size. -/
def skipNumber? (cs : List Char) : Option (List Char) := do
  let unsigned := match cs with
    | '-' :: r => r
    | _ => cs
  let (_, rest) ← wholeDigits? unsigned
  let (_, rest) ← fractionDigits? rest
  let (_, rest) ← exponent? rest
  some rest

end TagSearch.Json
