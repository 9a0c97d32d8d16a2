/-!
# AES with 256-bit keys

The block cipher: a block of 16 bytes goes through 14 rounds, each of which
substitutes bytes, shifts rows, mixes columns and adds a round key.  Blocks and
keys are lists of bytes; columns of the state are groups of four.

## Main definitions

* `Aes.substitute` — the substitution of a byte.
* `Aes.roundKeys` — the fifteen round keys of a key.
* `Aes.encrypt` — the cipher.
-/

namespace SmartPlaylist.Aes

/-! ### Bytes as elements of the field with 256 elements -/

/-- The product with the indeterminate. -/
def double (x : UInt8) : UInt8 := (x <<< 1) ^^^ (if x &&& 0x80 = 0 then 0 else 0x1b)

/-- The product of two bytes, from the lowest `n` bits of the second. -/
def product : Nat → UInt8 → UInt8 → UInt8
  | 0, _, _ => 0
  | n + 1, x, y => (if y &&& 1 = 0 then 0 else x) ^^^ product n (double x) (y >>> 1)

/-- The inverse of a byte, which is its 254th power; zero for zero. -/
def inverse (x : UInt8) : UInt8 :=
  let mul := product 8
  let x2 := mul x x
  let x4 := mul x2 x2
  let x8 := mul x4 x4
  let x16 := mul x8 x8
  let x32 := mul x16 x16
  let x64 := mul x32 x32
  let x128 := mul x64 x64
  mul x128 (mul x64 (mul x32 (mul x16 (mul x8 (mul x4 x2)))))

/-- Rotation of a byte to the left. -/
def rotate (x : UInt8) (n : UInt8) : UInt8 := (x <<< n) ||| (x >>> (8 - n))

/-- The substitution: the inverse, and then an affine map. -/
def substituteByRule (x : UInt8) : UInt8 :=
  let b := inverse x
  b ^^^ rotate b 1 ^^^ rotate b 2 ^^^ rotate b 3 ^^^ rotate b 4 ^^^ 0x63

/-- The substitution of every byte. -/
def substitutionTable : Array UInt8 := Array.ofFn fun i : Fin 256 => substituteByRule i.val.toUInt8

/-- The substitution, looked up. -/
def substitute (x : UInt8) : UInt8 := substitutionTable.getD x.toNat 0

/-! ### Steps of a round -/

/-- Bytewise sum; as long as the shorter list. -/
def add (xs ys : List UInt8) : List UInt8 := xs.zipWith (· ^^^ ·) ys

/-- Row `r` of the state moves left by `r` columns. -/
def shiftRows (block : List UInt8) : List UInt8 :=
  [0, 5, 10, 15, 4, 9, 14, 3, 8, 13, 2, 7, 12, 1, 6, 11].map fun i => block.getD i 0

/-- Every column is multiplied by the mixing matrix. -/
def mixColumns : List UInt8 → List UInt8
  | a :: b :: c :: d :: rest =>
    (double a ^^^ double b ^^^ b ^^^ c ^^^ d) :: (a ^^^ double b ^^^ double c ^^^ c ^^^ d) ::
      (a ^^^ b ^^^ double c ^^^ double d ^^^ d) :: (double a ^^^ a ^^^ b ^^^ c ^^^ double d) ::
      mixColumns rest
  | _ => []

/-! ### Round keys -/

/-- The next word of the key schedule, which is held in reverse; `i` is its place. -/
def nextWord (i : Nat) (reversed : List (List UInt8)) : List UInt8 :=
  let last := reversed.getD 0 []
  let mixed :=
    if i % 8 = 0 then
      match (last.drop 1 ++ last.take 1).map substitute with
      | first :: rest => (first ^^^ (Nat.pow 2 (i / 8 - 1)).toUInt8) :: rest
      | [] => []
    else if i % 8 = 4 then last.map substitute
    else last
  add (reversed.getD 7 []) mixed

/-- Adds `n` words to the key schedule from place `i` on. -/
def extendSchedule : Nat → Nat → List (List UInt8) → List (List UInt8)
  | 0, _, reversed => reversed
  | n + 1, i, reversed => extendSchedule n (i + 1) (nextWord i reversed :: reversed)

/-- Groups of four bytes. -/
def quads : List UInt8 → List (List UInt8)
  | a :: b :: c :: d :: rest => [a, b, c, d] :: quads rest
  | _ => []

/-- Groups of four words, joined. -/
def joinQuads : List (List UInt8) → List (List UInt8)
  | a :: b :: c :: d :: rest => (a ++ b ++ c ++ d) :: joinQuads rest
  | _ => []

/-- The round keys of a key of 32 bytes. -/
def roundKeys (key : List UInt8) : List (List UInt8) :=
  joinQuads (extendSchedule 52 8 (quads key).reverse).reverse

/-! ### The cipher -/

/-- The rounds: the last one does not mix columns. -/
def rounds : List (List UInt8) → List UInt8 → List UInt8
  | [], block => block
  | [last], block => add (shiftRows (block.map substitute)) last
  | key :: next :: rest, block =>
    rounds (next :: rest) (add (mixColumns (shiftRows (block.map substitute))) key)

/-- The cipher on a block of 16 bytes, from the round keys. -/
def encrypt (keys : List (List UInt8)) (block : List UInt8) : List UInt8 :=
  match keys with
  | [] => block
  | first :: rest => rounds rest (add block first)

end SmartPlaylist.Aes
