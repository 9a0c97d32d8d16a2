import SmartPlaylist.Decimal.Nearest
import SmartPlaylist.Json.Basic
import SmartPlaylist.Text.Hexadecimal

/-!
# YAML: what a plain text means

A plain text is null, a truth value, a whole number, a real number or a text.
Whole numbers may be written in base 16, 8 or 2.  Digits after a leading zero
are a text.  A whole number that needs more than 64 bits is refused while it fits
128, and is a real number beyond those.

## Main definitions

* `null?`, `bool?`, `whole?`, `real?` — the kinds of values.
* `ofPlain` — the value of a plain text.
-/

namespace SmartPlaylist.Yaml

/-- The spellings of null. -/
def isNull (s : String) : Bool := ["null", "Null", "NULL", "~"].contains s

/-- The spellings of the truth values. -/
def bool? (s : String) : Option Bool :=
  if ["true", "True", "TRUE"].contains s then some true
  else if ["false", "False", "FALSE"].contains s then some false
  else none

/-! ### Whole numbers -/

/-- The number that digits of a base denote; at least one digit. -/
def ofDigits? (base : Nat) (cs : List Char) : Option Nat :=
  if cs.isEmpty then none
  else cs.foldlM (fun n c =>
    match Text.hexValue? c with
    | some d => if d < base then some (n * base + d) else none
    | none => none) 0

/-- Whether the text is digits after a leading zero, which is no number. -/
def isPaddedDigits (cs : List Char) : Bool :=
  let digits := match cs with
    | '-' :: rest => rest
    | '+' :: rest => rest
    | rest => rest
  match digits with
  | '0' :: d :: rest => (d :: rest).all Char.isDigit
  | _ => false

/-- The magnitude that an unsigned text denotes in one of the bases. -/
def magnitude? : List Char → Option Nat
  | '0' :: 'x' :: rest => ofDigits? 16 rest
  | '0' :: 'o' :: rest => ofDigits? 8 rest
  | '0' :: 'b' :: rest => ofDigits? 2 rest
  | cs => if isPaddedDigits cs then none else ofDigits? 10 cs

/-- The whole number that a text denotes. -/
def whole? : List Char → Option Int
  | '-' :: rest => (magnitude? rest).map fun n => -(n : Int)
  | '+' :: rest => (magnitude? rest).map fun n => (n : Int)
  | cs => (magnitude? cs).map fun n => (n : Int)

/-- How a whole number reads. -/
inductive WholeReading where
  | value (w : Json.Whole)
  /-- It fits 128 bits but not 64. -/
  | refused
  /-- It is no whole number, or too large for one. -/
  | other

/-- Reads a text as a whole number. -/
def readWhole (cs : List Char) : WholeReading :=
  match whole? cs with
  | none => .other
  | some n =>
    match Json.Whole.ofInt? n with
    | some w => .value w
    | none => if -(Nat.pow 2 127 : Int) ≤ n ∧ n < (Nat.pow 2 128 : Int) then .refused else .other

/-! ### Real numbers -/

/-- The spellings of the infinities and NaN, signs included. -/
def notFinite : List String :=
  [".inf", ".Inf", ".INF", "+.inf", "+.Inf", "+.INF", "-.inf", "-.Inf", "-.INF", ".nan", ".NaN",
    ".NAN"]

/-- The real number that a text denotes; null for the infinities and NaN, which JSON does not
have.  A number too large for a double is none. -/
def real? (s : String) : Option Json :=
  if notFinite.contains s then some .null
  else
    let x := match s.toList with
      | '-' :: rest => (Decimal.real? rest).map fun x => -x
      | '+' :: rest => Decimal.real? rest
      | cs => Decimal.real? cs
    x.bind fun x => (Json.Number.ofFloat? x).map Json.number

/-! ### Values -/

/-- The value of a plain text; `none` if it is refused. -/
def ofPlain (s : String) : Option Json :=
  if s = "" || isNull s then some .null
  else
    match bool? s with
    | some b => some (.bool b)
    | none =>
      match readWhole s.toList with
      | .value w => some (.number (.whole w))
      | .refused => none
      | .other =>
        if isPaddedDigits s.toList then some (.string s) else some ((real? s).getD (.string s))

end SmartPlaylist.Yaml
