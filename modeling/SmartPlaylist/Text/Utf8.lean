/-!
# UTF-8

Texts as bytes and back.  Bytes that are not UTF-8 are read leniently: each
longest part that could have begun a character becomes one replacement character.

## Main definitions

* `utf8` — the bytes of a text.
* `ofUtf8` — the text of bytes, leniently.
* `ofUtf8?` — the text of bytes, if they are UTF-8.
-/

namespace SmartPlaylist.Text

/-- The bytes of a text. -/
def utf8 (s : String) : List UInt8 := s.toList.flatMap String.utf8EncodeChar

/-- The character that stands for bytes that are not UTF-8. -/
def replacement : Char := '\uFFFD'

namespace Utf8

/-- Whether a byte continues a character. -/
def isContinuation (b : UInt8) : Bool := 0x80 ≤ b && b ≤ 0xBF

/-- How many bytes follow a first byte, and between which bounds the second one lies; `none` for a
byte that begins no character. -/
def shape? (first : UInt8) : Option (Nat × UInt8 × UInt8) :=
  if first < 0x80 then some (0, 0, 0)
  else if first < 0xC2 then none
  else if first < 0xE0 then some (1, 0x80, 0xBF)
  else if first = 0xE0 then some (2, 0xA0, 0xBF)
  else if first = 0xED then some (2, 0x80, 0x9F)
  else if first < 0xF0 then some (2, 0x80, 0xBF)
  else if first = 0xF0 then some (3, 0x90, 0xBF)
  else if first < 0xF4 then some (3, 0x80, 0xBF)
  else if first = 0xF4 then some (3, 0x80, 0x8F)
  else none

/-- The payload of a continuation byte. -/
def payload (b : UInt8) : Nat := b.toNat % 64

/-- The character at the front of bytes, given the first of them and the rest, and how many of the
rest belong to it; `none` in its place if they are not UTF-8. -/
def step (first : UInt8) (rest : List UInt8) : Option Char × Nat :=
  match shape? first with
  | none => (none, 0)
  | some (0, _, _) => (some (Char.ofNat first.toNat), 0)
  | some (more, low, high) =>
    match rest with
    | [] => (none, 0)
    | second :: rest =>
      if second < low || high < second then (none, 0)
      else if more = 1 then
        (some (Char.ofNat (first.toNat % 32 * 64 + payload second)), 1)
      else
        match rest with
        | [] => (none, 1)
        | third :: rest =>
          if !isContinuation third then (none, 1)
          else if more = 2 then
            (some (Char.ofNat (first.toNat % 16 * 4096 + payload second * 64 + payload third)), 2)
          else
            match rest with
            | [] => (none, 2)
            | fourth :: _ =>
              if !isContinuation fourth then (none, 2)
              else
                (some (Char.ofNat (first.toNat % 8 * 262144 + payload second * 4096 +
                  payload third * 64 + payload fourth)), 3)

/-- The characters of bytes, `none` for each part that is not UTF-8. -/
def decode : List UInt8 → List (Option Char)
  | [] => []
  | first :: rest =>
    let (c, used) := step first rest
    c :: decode (rest.drop used)
termination_by bytes => bytes.length
decreasing_by simp only [List.length_drop, List.length_cons]; omega

end Utf8

/-- The text of bytes, with the replacement character for what is not UTF-8. -/
def ofUtf8 (bytes : List UInt8) : String :=
  String.ofList ((Utf8.decode bytes).map fun c => c.getD replacement)

/-- The text of bytes; `none` unless they are UTF-8. -/
def ofUtf8? (bytes : List UInt8) : Option String :=
  ((Utf8.decode bytes).mapM id).map String.ofList

end SmartPlaylist.Text
