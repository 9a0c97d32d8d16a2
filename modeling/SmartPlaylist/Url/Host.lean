import SmartPlaylist.Url.Domain.Ascii

/-!
# Hosts

The host of a URL is a domain, an address of one of the two kinds, or for schemes
that are not special any text without separators.

## Main definitions

* `Url.Host.ofDomain?` — a domain or an IPv4 address, written in its usual form.
* `Url.Host.ofIpv6?` — an IPv6 address between brackets.
* `Url.Host.ofOpaque?` — the host of other schemes.
-/

namespace SmartPlaylist.Url.Host

/-! ### IPv4 -/

/-- The digits of a number in a base. -/
def numberIn? (base : Nat) (cs : List Char) : Option Nat :=
  cs.foldl
    (fun n c => n.bind fun n => (Text.hexValue? c).bind fun d =>
      if d < base then some (n * base + d) else none)
    (some 0)

/-- A part of an IPv4 address: decimal, octal after a zero, hexadecimal after `0x`. -/
def ipv4Part? : List Char → Option Nat
  | [] => none
  | '0' :: 'x' :: rest => numberIn? 16 rest
  | '0' :: 'X' :: rest => numberIn? 16 rest
  | ['0'] => some 0
  | '0' :: rest => numberIn? 8 rest
  | cs => numberIn? 10 cs

/-- The parts of a domain, without an empty last one. -/
def labels (domain : List Char) : List (List Char) :=
  let parts := Form.cutAt '.' domain
  if parts.length > 1 && parts.getLast? = some [] then parts.dropLast else parts

/-- Whether a domain ends in a number and so must be an address. -/
def endsInNumber (domain : List Char) : Bool :=
  match (labels domain).getLast? with
  | none => false
  | some last =>
    (!last.isEmpty && last.all Char.isDigit) ||
      match last with
      | '0' :: x :: rest => (x = 'x' || x = 'X') && rest.all fun c => (Text.hexValue? c).isSome
      | _ => false

/-- The number that the parts of an address denote; the last part fills what is left. -/
def ipv4Value? (parts : List Nat) : Option Nat :=
  match parts.reverse with
  | [] => none
  | last :: front =>
    if front.length < 4 && front.all (· < 256) && last < Nat.pow 256 (4 - front.length) then
      some (front.reverse.zipIdx.foldl (fun n (p, i) => n + p * Nat.pow 256 (3 - i)) last)
    else none

/-- An address with its four parts in decimal. -/
def ipv4Text (n : Nat) : String :=
  ".".intercalate ([3, 2, 1, 0].map fun i => toString (n / Nat.pow 256 i % 256))

/-! ### IPv6 -/

/-- The eight pieces of an address and where its longest run of zeros starts and ends. -/
def ipv6Text (pieces : List Nat) : String :=
  let runs := (List.range 8).flatMap fun i =>
    (List.range 9).filterMap fun j =>
      if i + 1 < j && ((pieces.take j).drop i).all (· == 0) then some (i, j) else none
  let best := runs.foldl
    (fun b r => match b with
      | none => some r
      | some (i, j) => if j - i < r.2 - r.1 then some r else some (i, j))
    (none : Option (Nat × Nat))
  let hex := fun (ps : List Nat) =>
    ":".intercalate (ps.map fun p => String.ofList (Nat.toDigits 16 p))
  match best with
  | none => hex pieces
  | some (i, j) => hex (pieces.take i) ++ "::" ++ hex (pieces.drop j)

/-- Two pieces from the dotted end of an address. -/
def dottedPieces? (cs : List Char) : Option (List Nat) :=
  match (Form.cutAt '.' cs).mapM fun p =>
    if p.isEmpty || !p.all Char.isDigit || (p.length > 1 && p.head? = some '0') then none
    else (numberIn? 10 p).bind fun n => if n < 256 then some n else none with
  | some [a, b, c, d] => some [a * 256 + b, c * 256 + d]
  | _ => none

/-- The pieces between colons; only the last part may be dotted. -/
def pieces? : List (List Char) → Option (List Nat)
  | [] => some []
  | [last] =>
    if last.contains '.' then dottedPieces? last
    else if last.isEmpty || last.length > 4 then none
    else (numberIn? 16 last).map fun n => [n]
  | p :: rest =>
    if p.isEmpty || p.length > 4 then none
    else do
      let n ← numberIn? 16 p
      let others ← pieces? rest
      some (n :: others)

/-- The places at which two colons stand together. -/
def doubleColons : List Char → List Nat
  | ':' :: ':' :: rest => 0 :: (doubleColons (':' :: rest)).map (· + 1)
  | _ :: rest => (doubleColons rest).map (· + 1)
  | [] => []

/-- The text of an IPv6 address, which may leave out one run of zeros. -/
def ofIpv6? (cs : List Char) : Option String :=
  let side := fun (cs : List Char) => if cs.isEmpty then some [] else pieces? (Form.cutAt ':' cs)
  let found := match doubleColons cs with
    | [] => do
      let ps ← side cs
      if ps.length = 8 && !cs.isEmpty then some ps else none
    | [i] => do
      let before ← side (cs.take i)
      let after ← side (cs.drop (i + 2))
      if (cs.take i).contains '.' then none
      else if before.length + after.length < 8 then
        some (before ++ List.replicate (8 - before.length - after.length) 0 ++ after)
      else none
    | _ => none
  found.map fun ps => "[" ++ ipv6Text ps ++ "]"

/-! ### Domains and other hosts -/

/-- Characters that may not stand in the host of a scheme that is not special. -/
def isForbidden (c : Char) : Bool := "\x00\t\n\r #/:<>?@[\\]^|".contains c

/-- A domain in ASCII, or an IPv4 address when it ends in a number.  Percent signs in it stand
before the bytes of characters. -/
def ofDomain? (cs : List Char) : Option String := do
  let text ← Text.ofUtf8? (Percent.decode cs)
  let domain ← Domain.toAscii? text.toList
  if domain.isEmpty then none
  else if endsInNumber domain then
    let parts ← (labels domain).mapM ipv4Part?
    (ipv4Value? parts).map ipv4Text
  else some (String.ofList domain)

/-- The host of a scheme that is not special. -/
def ofOpaque? (cs : List Char) : Option String :=
  if cs.any isForbidden then none
  else some (String.ofList (Percent.encode Percent.isPrintable cs))

end SmartPlaylist.Url.Host
