import TagSearch.Json.Number
import TagSearch.Json.Quoted

/-!
# Reading JSON text

A reader consumes the front of a text.  The grammar is strict: blanks are the space, the tab and the
two line breaks, nothing may follow the last item of a list or an object but its bracket, and
nothing may follow the value but blanks.

Values are read in one of two ways.  *In full*, a value is decoded, its nesting is limited, and its
strings and numbers have to denote something.  *Passing over* a value only checks the grammar.

Readers of lists and objects work from left to right with a step for each item, so that a reader can
report what is wrong with an item before it has seen the text that follows.
-/

namespace TagSearch

/-- Errors among which one says that a text is no JSON, or a value not of the required shape. -/
class Malformed (ε : Type) where
  malformed : ε

instance : Malformed Unit := ⟨()⟩

namespace Json

/-- A reader of the front of a text. -/
abbrev Reader (ε α : Type) : Type := StateT (List Char) (Except ε) α

/-- The number of lists and objects that may be nested in a text. -/
def maxDepth : Nat := 127

namespace Reader

variable {ε α σ : Type} [Malformed ε]

/-- The text is not of the required form. -/
def fail : Reader ε α := fun _ => .error Malformed.malformed

/-- What a partial result gives, or failure. -/
def ofOption : Option α → Reader ε α
  | some a => pure a
  | none => fail

/-- Lets a partial function consume the front of the text. -/
def consume (f : List Char → Option (α × List Char)) : Reader ε α := fun cs =>
  match f cs with
  | some result => .ok result
  | none => .error Malformed.malformed

/-- Whether a character is a blank of the grammar. -/
def isBlank (c : Char) : Bool :=
  c == ' ' || c == '\t' || c == '\n' || c == '\r'

/-- Passes over blanks. -/
def blanks : Reader ε Unit := fun cs => .ok ((), cs.dropWhile isBlank)

/-- The next character after blanks, which stays in the text. -/
def peek : Reader ε (Option Char) := do
  blanks
  return (← get).head?

/-- Passes over the given character, which has to be the next one after blanks. -/
def expect (c : Char) : Reader ε Unit := do
  blanks
  match ← get with
  | d :: rest => if c = d then set rest else fail
  | [] => fail

/-- Passes over one of the words of the grammar. -/
def keyword (word : List Char) : Reader ε Unit := do
  let text ← get
  if text.take word.length = word then set (text.drop word.length) else fail

/-- A string with its quotes. -/
def string : Reader ε String := do
  expect '"'
  let chars ← consume (stringChars? .plain)
  return String.ofList chars

/-- The steps of a list or an object from its first item on, at most `fuel` of them. -/
def steps (close : Char) (step : σ → Reader ε σ) : (fuel : Nat) → σ → Reader ε σ
  | 0, _ => fail
  | fuel + 1, s => do
    let s ← step s
    match ← peek with
    | some c =>
      if c = ',' then do
        expect ','
        steps close step fuel s
      else do
        expect close
        return s
    | none => fail

/-- The items of a list or an object after its opening bracket, where `step` reads one item. -/
def series (close : Char) (step : σ → Reader ε σ) (start : σ) : Reader ε σ := do
  if (← peek) = some close then
    expect close
    return start
  else
    steps close step (← get).length start

/-- A list after its opening bracket. -/
def items (step : σ → Reader ε σ) (start : σ) : Reader ε σ :=
  series ']' step start

/-- An object after its opening bracket, where `step` reads the value of the field with a given
name. -/
def members (step : σ → String → Reader ε σ) (start : σ) : Reader ε σ :=
  series '\x7d' (fun s => do
    let name ← string
    expect ':'
    step s name) start

/-- A value that is neither a list nor an object, from its first character `c` on. -/
def scalar (c : Char) : Reader ε Json :=
  match c with
  | 'n' => do keyword ['n', 'u', 'l', 'l']; return .null
  | 't' => do keyword ['t', 'r', 'u', 'e']; return .bool true
  | 'f' => do keyword ['f', 'a', 'l', 's', 'e']; return .bool false
  | '"' => do return .str (← string)
  | _ => consume number?

/-- A value read in full, with at most `depth` lists and objects nested. -/
def value : (depth : Nat) → Reader ε Json
  | 0 => do
    match ← peek with
    | some '[' => fail
    | some '\x7b' => fail
    | some c => scalar c
    | none => fail
  | depth + 1 => do
    match ← peek with
    | some '[' =>
      expect '['
      let reversed ← items (fun xs => do return (← value depth) :: xs) []
      return .arr reversed.reverse
    | some '\x7b' =>
      expect '\x7b'
      let reversed ← members (fun fs name => do return (name, ← value depth) :: fs) []
      return .obj reversed.reverse
    | some c => scalar c
    | none => fail

/-- Passes over a value, with at most `fuel` lists and objects nested. -/
def skipNested : (fuel : Nat) → Reader ε Unit
  | 0 => fail
  | fuel + 1 => do
    match ← peek with
    | some '[' =>
      expect '['
      items (fun _ => skipNested fuel) ()
    | some '\x7b' =>
      expect '\x7b'
      series '\x7d' (fun _ => do
        expect '"'
        consume fun cs => (skipString? false 0 cs).map ((), ·)
        expect ':'
        skipNested fuel) ()
    | some '"' =>
      expect '"'
      consume fun cs => (skipString? false 0 cs).map ((), ·)
    | some 'n' => keyword ['n', 'u', 'l', 'l']
    | some 't' => keyword ['t', 'r', 'u', 'e']
    | some 'f' => keyword ['f', 'a', 'l', 's', 'e']
    | some _ => consume fun cs => (skipNumber? cs).map ((), ·)
    | none => fail

/-- Passes over a value, however deeply it is nested. -/
def skip : Reader ε Unit := do
  skipNested ((← get).length + 1)

/-- A record: the fields of an object that `known` names are read as it says, and the others are
passed over and dropped. A list is read item by item in the order of `known`. -/
def record (known : List (String × (Nat → Reader ε Json))) : (depth : Nat) → Reader ε Json
  | 0 => value 0
  | depth + 1 => do
    match ← peek with
    | some '[' =>
      expect '['
      let (reversed, _) ← items (fun (xs, readers) => do
        match readers with
        | (_, read) :: readers => return ((← read depth) :: xs, readers)
        | [] => return ((← value depth) :: xs, [])) (([] : List Json), known)
      return .arr reversed.reverse
    | some '\x7b' =>
      expect '\x7b'
      let reversed ← members (fun fs name => do
        match known.lookup name with
        | some read => return (name, ← read depth) :: fs
        | none =>
          skip
          return fs) []
      return .obj reversed.reverse
    | _ => value (depth + 1)

/-- A list whose items are read by `item`; any other value is read in full. -/
def listOf (item : Nat → Reader ε Json) : (depth : Nat) → Reader ε Json
  | 0 => value 0
  | depth + 1 => do
    match ← peek with
    | some '[' =>
      expect '['
      let reversed ← items (fun xs => do return (← item depth) :: xs) []
      return .arr reversed.reverse
    | _ => value (depth + 1)

/-- Reads a whole text, in which only blanks may follow what the reader consumes. -/
def run (read : Reader ε α) (text : String) : Except ε α := do
  let (a, rest) ← read text.toList
  if rest.all isBlank then return a else .error Malformed.malformed

end Reader

/-- The JSON value that a text holds. -/
def parse? (text : String) : Option Json :=
  (Reader.run (Reader.value maxDepth : Reader Unit Json) text).toOption

end Json

end TagSearch
