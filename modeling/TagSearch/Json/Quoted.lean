/-!
# JSON strings

Reading and writing the characters between the quotes of a JSON string.  Both readers go through the
text one character at a time and keep in a small state what an escape still needs.
-/

namespace TagSearch.Json

/-- The value of a hexadecimal digit. -/
def hexValue? (c : Char) : Option Nat :=
  if '0' ≤ c ∧ c ≤ '9' then some (c.toNat - '0'.toNat)
  else if 'a' ≤ c ∧ c ≤ 'f' then some (c.toNat - 'a'.toNat + 10)
  else if 'A' ≤ c ∧ c ≤ 'F' then some (c.toNat - 'A'.toNat + 10)
  else none

/-- The character that a one-letter escape stands for. -/
def simpleEscape? : Char → Option Char
  | '"' => some '"'
  | '\\' => some '\\'
  | '/' => some '/'
  | 'b' => some '\x08'
  | 'f' => some '\x0c'
  | 'n' => some '\n'
  | 'r' => some '\r'
  | 't' => some '\t'
  | _ => none

/-- What the reader of a string is in the middle of. `high` is the first half of a surrogate pair
whose second half has to follow. -/
inductive StringState where
  | plain
  | pair (high : Nat)
  | escape (high : Option Nat)
  | hex (high : Option Nat) (missing : Nat) (value : Nat)

/-- What a complete four-digit escape gives: a character, or a first half that waits for the
second. -/
def unitEscape? (high : Option Nat) (unit : Nat) : Option (List Char × StringState) :=
  let isHigh := 0xD800 ≤ unit ∧ unit < 0xDC00
  let isLow := 0xDC00 ≤ unit ∧ unit < 0xE000
  match high with
  | some h =>
    if isLow then
      some ([Char.ofNat (0x10000 + (h - 0xD800) * 0x400 + (unit - 0xDC00))], .plain)
    else none
  | none =>
    if isHigh then some ([], .pair unit)
    else if isLow then none
    else some ([Char.ofNat unit], .plain)

/-- The effect of one character inside a string: the characters it completes, and the next state. -/
def stringStep? (state : StringState) (c : Char) : Option (List Char × StringState) :=
  match state with
  | .plain =>
    if c = '\\' then some ([], .escape none)
    else if c.toNat < 0x20 then none
    else some ([c], .plain)
  | .pair high => if c = '\\' then some ([], .escape (some high)) else none
  | .escape high =>
    if c = 'u' then some ([], .hex high 4 0)
    else if high.isSome then none
    else (simpleEscape? c).map fun c => ([c], .plain)
  | .hex high missing value => do
    let value := value * 16 + (← hexValue? c)
    if missing ≤ 1 then unitEscape? high value else some ([], .hex high (missing - 1) value)

/-- Reads the characters up to the closing quote and returns them with the rest of the text. -/
def stringChars? (state : StringState) : List Char → Option (List Char × List Char)
  | [] => none
  | c :: rest =>
    match state, c with
    | .plain, '"' => some ([], rest)
    | _, _ => do
      let (done, next) ← stringStep? state c
      let (chars, rest) ← stringChars? next rest
      return (done ++ chars, rest)

/-- Passes over the characters up to the closing quote. `missing` digits of an escape are due, and
`escaped` tells that a backslash precedes. Escapes have to be complete, but a half of a surrogate
pair may stand alone. -/
def skipString? (escaped : Bool) (missing : Nat) : List Char → Option (List Char)
  | [] => none
  | c :: rest =>
    if missing ≠ 0 then
      if (hexValue? c).isSome then skipString? false (missing - 1) rest else none
    else if escaped then
      if c = 'u' then skipString? false 4 rest
      else if (simpleEscape? c).isSome then skipString? false 0 rest
      else none
    else if c = '"' then some rest
    else if c = '\\' then skipString? true 0 rest
    else if c.toNat < 0x20 then none
    else skipString? false 0 rest

/-- A digit of a four-digit escape. -/
def hexDigit (n : Nat) : Char :=
  if n < 10 then Char.ofNat ('0'.toNat + n) else Char.ofNat ('a'.toNat + (n - 10))

/-- A four-digit escape. -/
def unitEscape (n : Nat) : List Char :=
  ['\\', 'u', hexDigit (n / 4096 % 16), hexDigit (n / 256 % 16), hexDigit (n / 16 % 16),
    hexDigit (n % 16)]

/-- A character as it is written inside a string. Besides what has to be escaped, the line
separators beyond ASCII are, so that a string never spans lines. -/
def writeChar (c : Char) : List Char :=
  match c with
  | '"' => ['\\', '"']
  | '\\' => ['\\', '\\']
  | '\n' => ['\\', 'n']
  | '\r' => ['\\', 'r']
  | '\t' => ['\\', 't']
  | c =>
    if c.toNat < 0x20 || c.toNat == 0x85 || c.toNat == 0x2028 || c.toNat == 0x2029 then
      unitEscape c.toNat
    else [c]

/-- A text as a JSON string, quotes included. -/
def quoted (s : String) : String :=
  String.ofList ('"' :: s.toList.flatMap writeChar ++ ['"'])

end TagSearch.Json
