/-!
# JSON values

The one dynamic value of the library: definitions arrive as JSON values whatever
text format they were written in, cached credentials are JSON values, and so are
the bodies of remote answers.

## Main definitions

* `Whole` — a whole number of at most 64 bits, signed or unsigned.
* `Number` — a whole number or a finite double.
* `Json` — a value; an object keeps its fields as written, repeats included.
* `Json.collapse` — the value in which every object has its keys once, in order.
-/

namespace SmartPlaylist

namespace Json

/-- A whole number between the least signed and the greatest unsigned 64-bit number. -/
structure Whole where
  val : Int
  lower : -0x8000_0000_0000_0000 ≤ val
  upper : val < 0x1_0000_0000_0000_0000
  deriving DecidableEq

/-- The number as a 64-bit whole number, if it is in range. -/
def Whole.ofInt? (n : Int) : Option Whole :=
  if h : -0x8000_0000_0000_0000 ≤ n ∧ n < 0x1_0000_0000_0000_0000 then some ⟨n, h.1, h.2⟩
  else none

/-- A 64-bit word as a number. -/
def Whole.ofWord (n : UInt64) : Whole := ⟨n.toNat, by omega, by have := n.toNat_lt; omega⟩

/-- Zero. -/
def Whole.zero : Whole := ⟨0, by decide, by decide⟩

instance : Inhabited Whole := ⟨Whole.zero⟩

/-- The nearest double; a tie goes to the even significand. -/
def Whole.toFloat (w : Whole) : Float :=
  if 0 ≤ w.val then w.val.toNat.toUInt64.toFloat else -(w.val.natAbs.toUInt64.toFloat)

/-- A JSON number.  JSON has no infinities, so a double must be finite. -/
inductive Number where
  /-- Written without a point or exponent, and in range. -/
  | whole (w : Whole)
  /-- Any other number, rounded to a double. -/
  | real (x : Float) (finite : x.isFinite = true)
  deriving DecidableEq

instance : Inhabited Number := ⟨.whole default⟩

/-- A finite double as a number; `none` for the others. -/
def Number.ofFloat? (x : Float) : Option Number :=
  if h : x.isFinite = true then some (.real x h) else none

/-- The number as a double. -/
def Number.toFloat : Number → Float
  | .whole w => w.toFloat
  | .real x _ => x

end Json

/-- A JSON value. -/
inductive Json where
  | null
  | bool (b : Bool)
  | number (n : Json.Number)
  | string (s : String)
  | array (items : List Json)
  /-- Fields in the order of the text; a key may occur more than once. -/
  | object (fields : List (String × Json))
  deriving Inhabited

namespace Json

/-- Puts a field into a list sorted by key, in place of one of the same key. -/
def insertField {α : Type} (key : String) (value : α) : List (String × α) → List (String × α)
  | [] => [(key, value)]
  | (k, v) :: rest =>
    if key < k then (key, value) :: (k, v) :: rest
    else if key = k then (key, value) :: rest
    else (k, v) :: insertField key value rest

/-- The fields sorted by key; of several with one key the last counts. -/
def sortFields {α : Type} (fields : List (String × α)) : List (String × α) :=
  fields.foldl (fun sorted field => insertField field.1 field.2 sorted) []

mutual

/-- The value with every object's fields sorted by key, the last of each key kept. -/
def collapse : Json → Json
  | .array items => .array (collapseItems items)
  | .object fields => .object (sortFields (collapseFields fields))
  | .null => .null
  | .bool b => .bool b
  | .number n => .number n
  | .string s => .string s

/-- `collapse` on every item. -/
def collapseItems : List Json → List Json
  | [] => []
  | item :: rest => collapse item :: collapseItems rest

/-- `collapse` on every field's value. -/
def collapseFields : List (String × Json) → List (String × Json)
  | [] => []
  | (key, value) :: rest => (key, collapse value) :: collapseFields rest

end

end Json

end SmartPlaylist
