import SmartPlaylist.Cipher.Aes
import SmartPlaylist.Cipher.Sha256

/-!
# Authenticated encryption

A block cipher in counter mode hides the message, and a tag of 16 bytes over the
result lets the reader see whether it was changed.  A box is the hidden message
with its tag behind it.

## Main definitions

* `Gcm.keystream` — the bytes that are added to the message.
* `Gcm.tag` — the tag of a hidden message.
* `Gcm.close`, `Gcm.open?` — a message to a box and back.

## Main results

* `Gcm.open?_close` — a box opens to its message.
-/

namespace SmartPlaylist.Gcm

/-- The cipher on one block. -/
abbrev Cipher := List UInt8 → List UInt8

/-- The number that bytes denote, the highest byte first. -/
def toNat (bytes : List UInt8) : Nat := bytes.foldl (fun n b => n * 256 + b.toNat) 0

/-- The counter block of a nonce. -/
def counterBlock (nonce : List UInt8) (n : Nat) : List UInt8 :=
  nonce ++ Sha256.bigEndian 4 (n % 0x1_0000_0000)

/-- `n` blocks of the keystream from counter `i` on. -/
def keystreamFrom (cipher : Cipher) (nonce : List UInt8) : Nat → Nat → List UInt8
  | 0, _ => []
  | n + 1, i => cipher (counterBlock nonce i) ++ keystreamFrom cipher nonce n (i + 1)

/-- At least `length` bytes of keystream; the counter starts at two. -/
def keystream (cipher : Cipher) (nonce : List UInt8) (length : Nat) : List UInt8 :=
  keystreamFrom cipher nonce ((length + 15) / 16) 2

/-- A message with the keystream added; past the keystream it stays as it is. -/
def applyStream : List UInt8 → List UInt8 → List UInt8
  | [], _ => []
  | m :: ms, [] => m :: ms
  | m :: ms, k :: ks => (m ^^^ k) :: applyStream ms ks

/-- The product of two 128-bit numbers as elements of the field with `2 ^ 128` elements, from the
highest `n` bits of the first; the highest bit is the constant term. -/
def fieldProduct : Nat → Nat → Nat → Nat
  | 0, _, _ => 0
  | n + 1, x, y =>
    (if x.testBit n then y else 0) ^^^
      fieldProduct n x ((y >>> 1) ^^^ (if y.testBit 0 then 0xe1 <<< 120 else 0))

/-- The hash of `n` blocks from the front of the bytes; a short block is filled with zeros. -/
def hashBlocks (h : Nat) : Nat → Nat → List UInt8 → Nat
  | 0, sum, _ => sum
  | n + 1, sum, bytes =>
    let block := bytes.take 16
    let filled := block ++ List.replicate (16 - block.length) 0
    hashBlocks h n (fieldProduct 128 (sum ^^^ toNat filled) h) (bytes.drop 16)

/-- The tag of a hidden message. -/
def tag (cipher : Cipher) (nonce hidden : List UInt8) : List UInt8 :=
  let h := toNat (cipher (List.replicate 16 0))
  let body := hashBlocks h ((hidden.length + 15) / 16) 0 hidden
  let sum := fieldProduct 128 (body ^^^ (hidden.length * 8)) h
  applyStream (Sha256.bigEndian 16 sum) (cipher (counterBlock nonce 1))

/-- The box of a message. -/
def close (cipher : Cipher) (nonce message : List UInt8) : List UInt8 :=
  let hidden := applyStream message (keystream cipher nonce message.length)
  hidden ++ tag cipher nonce hidden

/-- The message in a box; `none` if the box is too short or its tag does not match. -/
def open? (cipher : Cipher) (nonce box : List UInt8) : Option (List UInt8) :=
  if box.length < 16 then none
  else
    let hidden := box.take (box.length - 16)
    if tag cipher nonce hidden = box.drop (box.length - 16) then
      some (applyStream hidden (keystream cipher nonce hidden.length))
    else none

/-! ### Opening a box -/

theorem length_applyStream (ms ks : List UInt8) : (applyStream ms ks).length = ms.length := by
  fun_induction applyStream ms ks <;> simp_all

theorem applyStream_applyStream (ms ks : List UInt8) :
    applyStream (applyStream ms ks) ks = ms := by
  fun_induction applyStream ms ks with
  | case1 => rfl
  | case2 => rfl
  | case3 m ms k ks ih =>
    rw [applyStream, ih, UInt8.xor_assoc, UInt8.xor_self, UInt8.xor_zero]

theorem length_bigEndian (width n : Nat) : (Sha256.bigEndian width n).length = width := by
  induction width generalizing n with
  | zero => rfl
  | succ w ih => simp [Sha256.bigEndian, ih]

theorem length_tag (cipher : Cipher) (nonce hidden : List UInt8) :
    (tag cipher nonce hidden).length = 16 := by
  simp [tag, length_applyStream, length_bigEndian]

/-- A box splits into the hidden message and its tag. -/
theorem open?_append_tag (cipher : Cipher) (nonce hidden : List UInt8) :
    open? cipher nonce (hidden ++ tag cipher nonce hidden) =
      some (applyStream hidden (keystream cipher nonce hidden.length)) := by
  have hlen : (hidden ++ tag cipher nonce hidden).length - 16 = hidden.length := by
    simp [length_tag]
  have hshort : ¬(hidden ++ tag cipher nonce hidden).length < 16 := by simp [length_tag]
  simp only [open?, if_neg hshort, hlen, List.take_left, List.drop_left, ↓reduceIte]

/-- **A box opens to the message it was made of.** -/
theorem open?_close (cipher : Cipher) (nonce message : List UInt8) :
    open? cipher nonce (close cipher nonce message) = some message := by
  simp only [close, open?_append_tag, length_applyStream, applyStream_applyStream]

end SmartPlaylist.Gcm
