/-!
# Punycode

A label of a domain with characters beyond ASCII is written in ASCII: its ASCII
characters first, then one number per other character that says where it belongs
and how far it is from the one before in code order.

## Main definitions

* `Url.Punycode.encode` — the ASCII form of a label, without its prefix.
* `Url.Punycode.decode?` — the label of an ASCII form.
-/

namespace SmartPlaylist.Url.Punycode

/-- The digit of a value below 36. -/
def digit (d : Nat) : Char := if d < 26 then Char.ofNat (97 + d) else Char.ofNat (22 + d)

/-- The threshold of the digit at place `k`. -/
def threshold (k bias : Nat) : Nat :=
  if k ≤ bias then 1 else if bias + 26 ≤ k then 26 else k - bias

/-- Divides by 35 until the number is small; counts 36 for each division. -/
def shrink (delta k : Nat) : Nat × Nat :=
  if 455 < delta then shrink (delta / 35) (k + 36) else (delta, k)
termination_by delta

/-- The bias after a number. -/
def adapt (delta count : Nat) (first : Bool) : Nat :=
  let delta := if first then delta / 700 else delta / 2
  let (delta, k) := shrink (delta + delta / count) 0
  k + 36 * delta / (delta + 38)

/-- The digits of a number, the lowest first. -/
def numberDigits (bias : Nat) : Nat → Nat → Nat → List Char
  | 0, _, _ => []
  | fuel + 1, q, k =>
    let t := threshold k bias
    if q < t then [digit q]
    else digit (t + (q - t) % (36 - t)) :: numberDigits bias fuel ((q - t) / (36 - t)) (k + 36)

/-- What is being written: the characters below `n` are done, `delta` counts places passed since
the last number, and `done` characters are written. -/
structure State where
  n : Nat
  delta : Nat
  bias : Nat
  done : Nat
  output : List Char

/-- Passes a character of the label on the way to the characters equal to `s.n`. -/
def pass (basic : Nat) (s : State) (c : Char) : State :=
  if c.toNat < s.n then { s with delta := s.delta + 1 }
  else if c.toNat = s.n then
    { s with
      output := s.output ++ numberDigits s.bias (s.delta + 1) s.delta 36
      bias := adapt s.delta (s.done + 1) (s.done = basic)
      delta := 0
      done := s.done + 1 }
  else s

/-- Writes the characters of each code in turn, from the lowest to the highest. -/
def writeAll (label : List Char) (basic : Nat) : Nat → State → List Char
  | 0, s => s.output
  | fuel + 1, s =>
    match (label.map Char.toNat).filter (s.n ≤ ·) with
    | [] => s.output
    | m :: ms =>
      let next := ms.foldl min m
      let s := { s with delta := s.delta + (next - s.n) * (s.done + 1), n := next }
      let s := label.foldl (pass basic) s
      writeAll label basic fuel { s with delta := s.delta + 1, n := s.n + 1 }

/-- The ASCII form of a label. -/
def encode (label : List Char) : List Char :=
  let ascii := label.filter fun c => c.toNat < 128
  let start := if ascii.isEmpty then [] else ascii ++ ['-']
  writeAll label ascii.length label.length ⟨128, 0, 72, ascii.length, start⟩

/-! ### Reading -/

/-- The value of a digit. -/
def digitValue? (c : Char) : Option Nat :=
  if 'a' ≤ c ∧ c ≤ 'z' then some (c.toNat - 'a'.toNat)
  else if 'A' ≤ c ∧ c ≤ 'Z' then some (c.toNat - 'A'.toNat)
  else if '0' ≤ c ∧ c ≤ '9' then some (c.toNat - '0'.toNat + 26)
  else none

/-- The number itself, if it fits 32 bits. -/
def word? (n : Nat) : Option Nat := if n < 0x1_0000_0000 then some n else none

/-- Adds a number to `i`, given its digits from place `k` on and what the first of them counts.
Sums and products must fit 32 bits. -/
def readNumber? (bias : Nat) : (i weight k : Nat) → List Char → Option (Nat × List Char)
  | _, _, _, [] => none
  | i, weight, k, c :: rest => do
    let d ← digitValue? c
    let i ← word? (i + (← word? (d * weight)))
    let t := threshold k bias
    if d < t then some (i, rest)
    else readNumber? bias i (← word? (weight * (36 - t))) (k + 36) rest

/-- Puts in the characters that the numbers tell of.  A number says how many places to pass, going
round the label, and each round goes on to the next character code.  The fuel bounds how many
numbers there are. -/
def readAll? : Nat → (n i bias : Nat) → (label : List Char) → List Char → Option (List Char)
  | 0, _, _, _, label, cs => if cs.isEmpty then some label else none
  | _ + 1, _, _, _, label, [] => some label
  | fuel + 1, n, i, bias, label, cs => do
    let (next, rest) ← readNumber? bias i 1 36 cs
    let count := label.length + 1
    let n := n + next / count
    if n.isValidChar then
      let label := label.insertIdx (next % count) (Char.ofNat n)
      readAll? fuel n (next % count + 1) (adapt (next - i) count (i = 0)) label rest
    else none

/-- The label of an ASCII form.  The ASCII characters of the label stand before the last hyphen. -/
def decode? (cs : List Char) : Option (List Char) :=
  let numbers := (cs.reverse.takeWhile (· ≠ '-')).reverse
  let front := cs.take (cs.length - numbers.length - 1)
  let numbers := if front.isEmpty then cs else numbers
  readAll? numbers.length 128 0 72 front numbers

end SmartPlaylist.Url.Punycode
