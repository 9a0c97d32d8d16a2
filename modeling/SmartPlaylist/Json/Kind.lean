import SmartPlaylist.Json.Reader
import SmartPlaylist.Json.Record
import SmartPlaylist.Text.Utf8

/-!
# Kinds of values in JSON text

A reader that knows which fields its records declare does not read the others: it
only passes over them.  What is passed over must be JSON in form, but its numbers may be
of any size, its texts may hold surrogates without a partner and bytes that are no
characters, and it may nest as deep as it likes.

## Main definitions

* `Json.Reader.pass` — passes over one value.
* `Json.Shape` — the parts of a value that are read.
* `Json.Kind` — a shape with the reader of the values that have it.
* `Json.Kind.ofBytes?` — the value of a whole text, given by its bytes.
-/

namespace SmartPlaylist.Json

namespace Reader

/-! ### Passing over -/

/-- Passes over one digit or more. -/
def passDigits : Reader Unit := fun cs =>
  let (figures, rest) := digits cs
  if figures.isEmpty then none else some ((), rest)

/-- Passes over an exponent, if there is one. -/
def passExponent : Reader Unit
  | some c :: rest =>
    if c = 'e' || c = 'E' then
      match rest with
      | some '+' :: rest => passDigits rest
      | some '-' :: rest => passDigits rest
      | rest => passDigits rest
    else some ((), some c :: rest)
  | rest => some ((), rest)

/-- Passes over a number whose sign has been passed over. -/
def passUnsigned : Reader Unit := fun cs =>
  let (figures, rest) := digits cs
  if figures.isEmpty || (figures.head? = some '0' && figures.length != 1) then none
  else
    match rest with
    | some '.' :: rest => (passDigits rest).bind fun (_, rest) => passExponent rest
    | rest => passExponent rest

/-- Passes over a number. -/
def passNumber : Reader Unit
  | some '-' :: rest => passUnsigned rest
  | cs => passUnsigned cs

/-- Passes over what a text holds up to its closing quote. -/
def passTextBody : Reader Unit
  | [] => none
  | some '"' :: rest => some ((), rest)
  | some '\\' :: some 'u' :: some a :: some b :: some c :: some d :: rest =>
    if (hexUnit? a b c d).isSome then passTextBody rest else none
  | some '\\' :: some c :: rest => if (escaped? c).isSome then passTextBody rest else none
  | some c :: rest => if c.toNat < 0x20 ∨ c = '\\' then none else passTextBody rest
  | none :: rest => passTextBody rest

/-- Passes over a text with its quotes. -/
def passText : Reader Unit
  | some '"' :: rest => passTextBody rest
  | _ => none

/-- Passes over a value that is neither an array nor an object. -/
def passScalar : Reader Unit
  | some 'n' :: some 'u' :: some 'l' :: some 'l' :: rest => some ((), rest)
  | some 't' :: some 'r' :: some 'u' :: some 'e' :: rest => some ((), rest)
  | some 'f' :: some 'a' :: some 'l' :: some 's' :: some 'e' :: rest => some ((), rest)
  | some '"' :: rest => passTextBody rest
  | cs => passNumber cs

/-- Passes over a value in which arrays and objects nest at most `depth` deep. -/
def passWithin : Nat → Reader Unit
  | 0, cs => passScalar cs
  | depth + 1, cs =>
    match cs with
    | some '[' :: rest =>
      (arrayTail (fun _ => passWithin depth) rest).map fun (_, rest) => ((), rest)
    | some '{' :: rest =>
      (objectTail passText (fun _ => passWithin depth) rest).map fun (_, rest) => ((), rest)
    | cs => passScalar cs

/-- Passes over a value.  Every bracket takes a character, so it cannot nest deeper than the text
is long. -/
def pass : Reader Unit := fun cs => passWithin cs.length cs

end Reader

/-! ### Shapes -/

/-- Which parts of a value are read. -/
inductive Shape where
  /-- All of it. -/
  | everything
  /-- The items of an array, each by the shape. -/
  | list (item : Shape)
  /-- The declared fields of a record, each by its shape. -/
  | record (declared : List (String × Shape))

/-- The shape of a record whose declared fields are read as they are. -/
def Shape.plain (names : List String) : Shape := .record (names.map (·, .everything))

namespace Reader

/-- Reads the parts of a value that belong to a shape; the others are left out.  What is read
nests at most `depth` deep, and where the value is of another form than the shape it is read as it
is. -/
def shaped : Nat → Shape → Reader Json
  | 0, _, cs => scalar cs
  | depth + 1, shape, cs =>
    match shape, cs with
    | .list item, some '[' :: rest =>
      (arrayTail (fun _ => shaped depth item) rest).map fun (xs, rest) => (.array xs, rest)
    | .record declared, some '[' :: rest =>
      let item := fun place => shaped depth ((declared[place]?.map Prod.snd).getD .everything)
      (arrayTail item rest).map fun (xs, rest) => (.array xs, rest)
    | .record declared, some '{' :: rest =>
      let item := fun key cs =>
        match declared.lookup key with
        | some shape => (shaped depth shape cs).map fun (v, rest) => (some v, rest)
        | none => (pass cs).map fun (_, rest) => (none, rest)
      (objectTail text item rest).map fun (fs, rest) =>
        (.object (fs.filterMap fun (key, v) => v.map (key, ·)), rest)
    | _, cs => value (depth + 1) cs

end Reader

/-! ### Kinds -/

/-- A kind of value: the parts of a text that are read for it, and what they give. -/
structure Kind (α : Type) where
  shape : Shape
  ofJson? : Json → Option α

namespace Kind

variable {α : Type}

/-- Any value. -/
def any : Kind Json := ⟨.everything, some⟩

/-- A list of values of a kind. -/
def list (item : Kind α) : Kind (List α) := ⟨.list item.shape, Json.list? item.ofJson?⟩

/-- `null`, or a value of a kind. -/
def nullable (item : Kind α) : Kind (Option α) := ⟨item.shape, Json.nullable? item.ofJson?⟩

/-- Reads a whole text, given by its bytes, as a value of the kind. -/
def ofBytes? (kind : Kind α) (bytes : List UInt8) : Option α :=
  (whole (Reader.shaped nestingLimit kind.shape) (Text.Utf8.decode bytes)).bind kind.ofJson?

end Kind

end SmartPlaylist.Json
