import SmartPlaylist.Json.Basic
import SmartPlaylist.Decimal.Shortest

/-!
# Writing JSON text

Values are written without any blank.  Texts escape the quote, the backslash and
the control characters, and nothing else.  A double is written with the fewest
digits that read back, positionally while its point stays near its digits.

## Main definitions

* `Json.compact` — the text of a value.
-/

namespace SmartPlaylist.Json

namespace Writer

/-- The lower-case hexadecimal digit. -/
def hexDigit (n : Nat) : Char := (Nat.digitChar n)

/-- A character as it stands inside a text. -/
def escape (c : Char) : List Char :=
  if c = '"' then ['\\', '"']
  else if c = '\\' then ['\\', '\\']
  else if c = '\x08' then ['\\', 'b']
  else if c = '\x0c' then ['\\', 'f']
  else if c = '\n' then ['\\', 'n']
  else if c = '\r' then ['\\', 'r']
  else if c = '\t' then ['\\', 't']
  else if c.toNat < 0x20 then
    ['\\', 'u', '0', '0', hexDigit (c.toNat / 16), hexDigit (c.toNat % 16)]
  else [c]

/-- A text with its quotes. -/
def text (s : String) : List Char := '"' :: s.toList.flatMap escape ++ ['"']

/-- The least and greatest place of the decimal point, counted from the first digit, that is
written without an exponent. -/
def positionalPlaces : Int × Int := (-4, 16)

/-- A finite double: at least one digit on either side of the point, or an exponent. -/
def real (x : Float) : String :=
  match Decimal.Binary.ofFloat x with
  | none => "null"
  | some b =>
    let s := Decimal.Shortest.digits b
    let digits := Decimal.digitText s.digits
    let point : Int := digits.length + s.exponent
    let sign := if b.negative then "-" else ""
    if positionalPlaces.1 ≤ point ∧ point ≤ positionalPlaces.2 then
      sign ++ s.positional ++ (if 0 ≤ s.exponent then ".0" else "")
    else
      let tail := digits.toList.drop 1
      sign ++ String.ofList (digits.toList.take 1) ++
        (if tail.isEmpty then "" else "." ++ String.ofList tail) ++ "e" ++ toString (point - 1)

/-- A number. -/
def number : Number → String
  | .whole w => toString w.val
  | .real x _ => real x

end Writer

mutual

/-- The characters of a value without blanks. -/
def render : Json → List Char
  | .null => ['n', 'u', 'l', 'l']
  | .bool true => ['t', 'r', 'u', 'e']
  | .bool false => ['f', 'a', 'l', 's', 'e']
  | .number n => (Writer.number n).toList
  | .string s => Writer.text s
  | .array items => '[' :: renderItems items ++ [']']
  | .object fields => '\x7b' :: renderFields fields ++ ['\x7d']

/-- Items with commas between them. -/
def renderItems : List Json → List Char
  | [] => []
  | [item] => render item
  | item :: next :: rest => render item ++ ',' :: renderItems (next :: rest)

/-- Fields with commas between them. -/
def renderFields : List (String × Json) → List Char
  | [] => []
  | [(key, value)] => Writer.text key ++ ':' :: render value
  | (key, value) :: next :: rest =>
    Writer.text key ++ ':' :: render value ++ ',' :: renderFields (next :: rest)

end

/-- The text of a value without blanks. -/
def compact (v : Json) : String := String.ofList v.render

end SmartPlaylist.Json
