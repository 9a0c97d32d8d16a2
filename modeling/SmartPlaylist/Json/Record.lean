import SmartPlaylist.Json.Basic

/-!
# Records in JSON

A record is written either as an object, its fields by name in any order and
unknown names ignored, or as an array of its fields in declaration order.  A
field is *required*, *optional* (it may be `null`, and an object may leave it
out) or *defaulted* (object and array may leave it out, but it may not be
`null`).  An array may therefore only leave out a tail of defaulted fields, and
it may not be longer than the record.

## Main definitions

* `Slot` — what a record has in the place of one declared field.
* `Json.slots` — the slots of a value read as a record.
* `Slot.required`, `Slot.optional`, `Slot.defaulted` — the three kinds of field.
* `Json.text?`, `Json.double?`, `Json.list?`, … — readers of field values.
-/

namespace SmartPlaylist

/-- What a record has in the place of one declared field. -/
inductive Slot where
  | value (v : Json)
  /-- The record is an object without that name. -/
  | unnamed
  /-- The record is an array that ends before that field. -/
  | beyond
  deriving Inhabited

namespace Json

/-- The slots of an object: the value of each declared name.  A declared name that occurs twice
makes the record unreadable. -/
def objectSlots (names : List String) (fields : List (String × Json)) : Option (List Slot) :=
  names.mapM fun name =>
    match fields.filter (fun field => field.1 = name) with
    | [] => some .unnamed
    | [field] => some (.value field.2)
    | _ => none

/-- The slots of an array: its items in the order of the declared names. -/
def arraySlots : List String → List Json → Option (List Slot)
  | names, [] => some (names.map fun _ => .beyond)
  | [], _ :: _ => none
  | _ :: names, item :: items => (arraySlots names items).map (.value item :: ·)

/-- The slots of a value read as a record with the declared names. -/
def slots (names : List String) : Json → Option (List Slot)
  | .object fields => objectSlots names fields
  | .array items => arraySlots names items
  | _ => none

/-! ### Field values -/

/-- A text. -/
def text? : Json → Option String
  | .string s => some s
  | _ => none

/-- A truth value. -/
def bool? : Json → Option Bool
  | .bool b => some b
  | _ => none

/-- A number as a double. -/
def double? : Json → Option Float
  | .number n => some n.toFloat
  | _ => none

/-- A whole number that fits 64 bits unsigned. -/
def natural? : Json → Option UInt64
  | .number (.whole w) => if 0 ≤ w.val then some w.val.toNat.toUInt64 else none
  | _ => none

/-- A whole number that fits 64 bits signed. -/
def integer? : Json → Option Int64
  | .number (.whole w) => if w.val < 0x8000_0000_0000_0000 then some (Int64.ofInt w.val) else none
  | _ => none

/-- A list, every item of which is read. -/
def list? {α : Type} (item : Json → Option α) : Json → Option (List α)
  | .array items => items.mapM item
  | _ => none

/-- `null`, or a value that is read. -/
def nullable? {α : Type} (item : Json → Option α) : Json → Option (Option α)
  | .null => some none
  | v => (item v).map some

/-- An object as a dictionary: its keys in order, the last of each key counting. -/
def dictionary? {α : Type} (item : Json → Option α) : Json → Option (List (String × α))
  | .object fields => (sortFields fields).mapM fun (key, v) => (item v).map (key, ·)
  | _ => none

end Json

namespace Slot

/-- A field that must be there. -/
def required {α : Type} (read : Json → Option α) : Slot → Option α
  | .value v => read v
  | .unnamed => none
  | .beyond => none

/-- A field that may be `null`, and that an object may leave out. -/
def optional {α : Type} (read : Json → Option α) : Slot → Option (Option α)
  | .value v => v.nullable? read
  | .unnamed => some none
  | .beyond => none

/-- A field with a default, which object and array may leave out. -/
def defaulted {α : Type} (default : α) (read : Json → Option α) : Slot → Option α
  | .value v => read v
  | .unnamed => some default
  | .beyond => some default

end Slot

end SmartPlaylist
