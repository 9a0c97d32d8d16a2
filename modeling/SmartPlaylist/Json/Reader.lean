import SmartPlaylist.Json.Basic
import SmartPlaylist.Text.Hexadecimal

/-!
# Reading JSON text

A text is one value with blanks around it.  It is read from its bytes, and those of
its texts that are read must be characters.  Arrays and objects nest at most 127
deep.  A number without point and exponent that fits 64 bits is kept exactly;
any other becomes a double: its digits are read as a 64-bit significand, digits
that no longer fit are dropped, and the significand is multiplied or divided by
a power of ten in double arithmetic.  That is one rounding more than the nearest
double takes, and it decides the last bit of long decimals.

## Main definitions

* `Json.Source`, `Json.Reader` — what is read, and what reads it.
* `Json.Reader.number`, `Json.Reader.text`, `Json.Reader.value` — the readers,
  each giving the value and the characters that follow it.
* `Json.parse` — a whole text as a value.
-/

namespace SmartPlaylist.Json

/-- What is read: the characters of a text, and `none` for each part of its bytes that is not a
character. -/
abbrev Source := List (Option Char)

/-- A reader takes a value off the front of what is read, or refuses it. -/
abbrev Reader (α : Type) := Source → Option (α × Source)

namespace Reader

/-- Skips the four characters that may stand between tokens. -/
def skipBlanks : Source → Source
  | some c :: rest =>
    if c = ' ' || c = '\n' || c = '\t' || c = '\r' then skipBlanks rest else some c :: rest
  | rest => rest

/-! ### Numbers -/

/-- The value of a decimal digit. -/
def digitValue (c : Char) : Nat := c.toNat - '0'.toNat

/-- The digits at the front, and what follows them. -/
def digits : Source → List Char × Source
  | some c :: rest =>
    if c.isDigit then
      let (more, rest) := digits rest
      (c :: more, rest)
    else ([], some c :: rest)
  | rest => ([], rest)

/-- The power of ten as a double; correctly rounded up to `10 ^ 308`. -/
def powerOfTen (e : Nat) : Float := Float.ofScientific 1 false e

/-- Divides by a power of ten, in steps where the power itself has no double. -/
def scaleDown (x : Float) (e : Nat) : Float :=
  if e ≤ 308 then x / powerOfTen e
  else if x == 0 then x
  else scaleDown (x / powerOfTen 308) (e - 308)
termination_by e

/-- The double `significand * 10 ^ exponent`; refused when it is too large. -/
def scale (significand : Nat) (exponent : Int) : Option Float :=
  let x := significand.toUInt64.toFloat
  if exponent < 0 then some (scaleDown x exponent.natAbs)
  else if exponent ≤ 308 then
    let y := x * powerOfTen exponent.toNat
    if y.isInf then none else some y
  else if x == 0 then some x
  else none

/-- Takes digits into the significand while it fits 64 bits; gives how many were left over. -/
def accumulate : Nat → List Char → Nat × Nat
  | significand, [] => (significand, 0)
  | significand, c :: rest =>
    let next := significand * 10 + digitValue c
    if next < 0x1_0000_0000_0000_0000 then accumulate next rest else (significand, rest.length + 1)

/-- A signed double as a number. -/
def signed (negative : Bool) (x : Option Float) : Option Number :=
  x.bind fun y => Number.ofFloat? (if negative then -y else y)

/-- Reads what follows the significand: an exponent, if there is one. -/
def exponentPart (negative : Bool) (significand : Nat) (start : Int) : Reader Number :=
  fun cs =>
    match cs with
    | some c :: rest =>
      if c = 'e' || c = 'E' then
        let (down, rest) := match rest with
          | some '+' :: rest => (false, rest)
          | some '-' :: rest => (true, rest)
          | rest => (false, rest)
        let (figures, rest) := digits rest
        if figures.isEmpty then none
        else
          let amount := figures.foldl (fun n c => n * 10 + digitValue c) 0
          if amount < 0x8000_0000 then
            let exponent := if down then start - amount else start + amount
            (signed negative (scale significand exponent)).map (·, rest)
          else if significand != 0 && !down then none
          else (signed negative (some 0)).map (·, rest)
      else (signed negative (scale significand start)).map (·, cs)
    | cs => (signed negative (scale significand start)).map (·, cs)

/-- Reads a number whose sign has been read. -/
def unsignedNumber (negative : Bool) : Reader Number := fun cs =>
  let (figures, rest) := digits cs
  if figures.isEmpty || (figures.head? = some '0' && figures.length != 1) then none
  else
    let (significand, dropped) := accumulate 0 figures
    match rest with
    | some '.' :: rest =>
      let (places, rest) := digits rest
      if places.isEmpty then none
      else
        let (significand, ignored) := accumulate significand places
        exponentPart negative significand ((dropped : Int) - (places.length - ignored : Nat)) rest
    | some 'e' :: _ => exponentPart negative significand dropped rest
    | some 'E' :: _ => exponentPart negative significand dropped rest
    | rest =>
      if dropped != 0 then (signed negative (scale significand dropped)).map (·, rest)
      else if negative && (significand == 0 || 0x8000_0000_0000_0000 < significand) then
        (signed true (some significand.toUInt64.toFloat)).map (·, rest)
      else
        (Whole.ofInt? (if negative then -(significand : Int) else significand)).map
          (fun w => (.whole w, rest))

/-- Reads a number. -/
def number : Reader Number
  | some '-' :: rest => unsignedNumber true rest
  | cs => unsignedNumber false cs

/-! ### Texts -/

/-- The value of four hexadecimal digits. -/
def hexUnit? (a b c d : Char) : Option Nat := do
  let high := (← Text.hexValue? a) * 16 + (← Text.hexValue? b)
  some (high * 256 + (← Text.hexValue? c) * 16 + (← Text.hexValue? d))

/-- The character that a one-letter escape stands for. -/
def escaped? : Char → Option Char
  | '"' => some '"'
  | '\\' => some '\\'
  | '/' => some '/'
  | 'b' => some '\x08'
  | 'f' => some '\x0c'
  | 'n' => some '\n'
  | 'r' => some '\r'
  | 't' => some '\t'
  | _ => none

/-- Reads the characters of a text up to its closing quote.  Control characters must be escaped,
and an escaped surrogate must come as a pair. -/
def textBody : Reader (List Char)
  | some '"' :: rest => some ([], rest)
  | some '\\' :: some 'u' :: some a :: some b :: some c :: some d :: rest =>
    match hexUnit? a b c d with
    | none => none
    | some high =>
      if 0xDC00 ≤ high ∧ high < 0xE000 then none
      else if 0xD800 ≤ high ∧ high < 0xDC00 then
        match rest with
        | some '\\' :: some 'u' :: some e :: some f :: some g :: some h :: rest =>
          match hexUnit? e f g h with
          | none => none
          | some low =>
            if 0xDC00 ≤ low ∧ low < 0xE000 then
              (textBody rest).map fun (cs, rest) =>
                (Char.ofNat (0x10000 + (high - 0xD800) * 0x400 + (low - 0xDC00)) :: cs, rest)
            else none
        | _ => none
      else (textBody rest).map fun (cs, rest) => (Char.ofNat high :: cs, rest)
  | some '\\' :: some c :: rest =>
    match escaped? c with
    | none => none
    | some e => (textBody rest).map fun (cs, rest) => (e :: cs, rest)
  | some c :: rest =>
    if c.toNat < 0x20 ∨ c = '\\' then none
    else (textBody rest).map fun (cs, rest) => (c :: cs, rest)
  | _ => none

/-- Reads a text with its quotes. -/
def text : Reader String
  | some '"' :: rest => (textBody rest).map fun (cs, rest) => (String.ofList cs, rest)
  | _ => none

/-! ### Values -/

/-- Reads items separated by commas up to the closing bracket; at least one must stand there.
The reader of an item may depend on its place. -/
def items {α : Type} (item : Nat → Reader α) : Nat → Nat → Reader (List α)
  | _, 0, _ => none
  | place, fuel + 1, cs => do
    let (first, cs) ← item place (skipBlanks cs)
    match skipBlanks cs with
    | some ',' :: cs =>
      let (others, cs) ← items item (place + 1) fuel cs
      some (first :: others, cs)
    | some ']' :: cs => some ([first], cs)
    | _ => none

/-- Reads fields separated by commas up to the closing brace; at least one must stand there.
The reader of a value may depend on its key. -/
def fields {κ α : Type} (key : Reader κ) (item : κ → Reader α) : Nat → Reader (List (κ × α))
  | 0, _ => none
  | fuel + 1, cs => do
    let (name, cs) ← key (skipBlanks cs)
    match skipBlanks cs with
    | some ':' :: cs =>
      let (value, cs) ← item name (skipBlanks cs)
      match skipBlanks cs with
      | some ',' :: cs =>
        let (others, cs) ← fields key item fuel cs
        some ((name, value) :: others, cs)
      | some '}' :: cs => some ([(name, value)], cs)
      | _ => none
    | _ => none

/-- Reads an array whose opening bracket has been read. -/
def arrayTail {α : Type} (item : Nat → Reader α) : Reader (List α) := fun cs =>
  match skipBlanks cs with
  | some ']' :: rest => some ([], rest)
  | rest => items item 0 (rest.length + 1) rest

/-- Reads an object whose opening brace has been read. -/
def objectTail {κ α : Type} (key : Reader κ) (item : κ → Reader α) : Reader (List (κ × α)) :=
  fun cs =>
    match skipBlanks cs with
    | some '}' :: rest => some ([], rest)
    | rest => fields key item (rest.length + 1) rest

/-- Reads a value that is neither an array nor an object. -/
def scalar : Reader Json
  | some 'n' :: some 'u' :: some 'l' :: some 'l' :: rest => some (.null, rest)
  | some 't' :: some 'r' :: some 'u' :: some 'e' :: rest => some (.bool true, rest)
  | some 'f' :: some 'a' :: some 'l' :: some 's' :: some 'e' :: rest => some (.bool false, rest)
  | some '"' :: rest => (text (some '"' :: rest)).map fun (s, rest) => (.string s, rest)
  | cs => (number cs).map fun (n, rest) => (.number n, rest)

/-- Reads a value in which arrays and objects nest at most `depth` deep. -/
def value : Nat → Reader Json
  | 0, cs => scalar cs
  | depth + 1, cs =>
    match cs with
    | some '[' :: rest =>
      (arrayTail (fun _ => value depth) rest).map fun (xs, rest) => (.array xs, rest)
    | some '{' :: rest =>
      (objectTail text (fun _ => value depth) rest).map fun (fs, rest) => (.object fs, rest)
    | cs => scalar cs

end Reader

/-- How deep arrays and objects may nest. -/
def nestingLimit : Nat := 127

/-- Reads all there is with a reader of one value; blanks may stand around it. -/
def whole {α : Type} (read : Reader α) (source : Source) : Option α :=
  match read (Reader.skipBlanks source) with
  | some (x, rest) => if (Reader.skipBlanks rest).isEmpty then some x else none
  | none => none

/-- Reads a whole text as one value; `none` if it is not JSON. -/
def parse (s : String) : Option Json := whole (Reader.value nestingLimit) (s.toList.map some)

end SmartPlaylist.Json
