import SmartPlaylist.Decimal.Shortest
import SmartPlaylist.Url.Host

/-!
# Authorities

Between a URL's scheme and its path stands where it leads: a user name and a
password before an at sign, the host, and a port after a colon.  A few schemes are
*special*: they always have a host, and a port of their own.

## Main definitions

* `Url.isSpecial` — whether a scheme is special.
* `Url.Authority`, `Url.Authority.text` — an authority and its text.
* `Url.Authority.read?` — reads an authority.
-/

namespace SmartPlaylist.Url

/-! ### Schemes -/

/-- The special schemes and their ports. -/
def specialPorts : List (String × Option Nat) :=
  [("http", some 80), ("https", some 443), ("ws", some 80), ("wss", some 443), ("ftp", some 21),
    ("file", none)]

/-- Whether a scheme is special. -/
def isSpecial (scheme : String) : Bool := (specialPorts.lookup scheme).isSome

/-- Whether a character separates segments: the slash, and for special schemes the backslash. -/
def isSlash (scheme : String) (c : Char) : Bool := c = '/' || (isSpecial scheme && c = '\\')

/-! ### Authorities -/

/-- Where a URL leads. -/
structure Authority where
  username : String
  password : String
  /-- Empty where there is none. -/
  host : String
  /-- None for the scheme's own port. -/
  port : Option Nat
  deriving DecidableEq, Repr

namespace Authority

/-- The authority of a host alone. -/
def ofHost (host : String) : Authority := ⟨"", "", host, none⟩

/-- User name and password, with the sign that ends them. -/
def userText (a : Authority) : String :=
  if a.username.isEmpty && a.password.isEmpty then ""
  else a.username ++ (if a.password.isEmpty then "" else ":" ++ a.password) ++ "@"

/-- The text of an authority. -/
def text (a : Authority) : String :=
  a.userText ++ a.host ++
    match a.port with
    | some p => ":" ++ Decimal.digitText p
    | none => ""

/-- The part of a text before the last `@`, if there is one, and the part after it. -/
def splitUser (cs : List Char) : Option (List Char) × List Char :=
  match cs.reverse.dropWhile (· ≠ '@') with
  | [] => (none, cs)
  | _ :: front => (some front.reverse, (cs.reverse.takeWhile (· ≠ '@')).reverse)

/-- The host's text and what follows it, the colon first; colons between brackets belong to the
host. -/
def splitHost (inBrackets : Bool) : List Char → List Char × List Char
  | [] => ([], [])
  | c :: rest =>
    if c = ':' && !inBrackets then ([], c :: rest)
    else
      let (host, after) := splitHost (c = '[' || (inBrackets && c ≠ ']')) rest
      (c :: host, after)

/-- A port of at most 16 bits after a colon, and what follows it: nothing, or a backslash. -/
def port? (scheme : String) : List Char → Option (Option Nat × List Char)
  | ':' :: rest =>
    let digits := rest.takeWhile Char.isDigit
    let after := rest.dropWhile Char.isDigit
    if after.head?.any (· ≠ '\\') then none
    else if digits.isEmpty then some (none, after)
    else
      (Host.numberIn? 10 digits).bind fun n =>
        if n < 0x1_0000 then
          some (if specialPorts.lookup scheme = some (some n) then none else some n, after)
        else none
  | cs => some (none, cs)

/-- Reads a host. -/
def host? (scheme : String) (cs : List Char) : Option String :=
  match cs with
  | '[' :: rest => if rest.getLast? = some ']' then Host.ofIpv6? rest.dropLast else none
  | _ => if isSpecial scheme then Host.ofDomain? cs else Host.ofOpaque? cs

/-- Reads an authority, and gives what is left of its text.  Without a host there is neither a user
nor a colon, and an at sign with nothing around it may stand only where the URL ends with it. -/
def read? (scheme : String) (endsUrl : Bool) (cs : List Char) :
    Option (Authority × List Char) := do
  let (user, rest) := splitUser cs
  if user = some [] && rest.isEmpty && !endsUrl then none
  let (hostText, afterHost) := splitHost false rest
  let host ← host? scheme hostText
  let encoded := fun cs => String.ofList (Percent.encode Percent.inUserInfo cs)
  let named := user.getD []
  let username := encoded (named.takeWhile (· ≠ ':'))
  let password := encoded ((named.dropWhile (· ≠ ':')).drop 1)
  if host.isEmpty && (!username.isEmpty || !password.isEmpty || !afterHost.isEmpty) then none
  let (port, after) ← port? scheme afterHost
  some (⟨username, password, host, port⟩, after)

/-- Reads the host of a file: a host alone, and none for the machine itself. -/
def ofFile? (cs : List Char) : Option Authority :=
  if cs.isEmpty then some (ofHost "")
  else (host? "file" cs).map fun h => ofHost (if h = "localhost" then "" else h)

end Authority

end SmartPlaylist.Url
