import SmartPlaylist.Decimal.Nearest
import SmartPlaylist.Store.Statement

/-!
# Scripts

A script is a text of statements with semicolons after or between them.  Words
are the same in upper and lower case; a name may stand in double quotes,
backquotes or brackets, and a text stands in single quotes, doubled inside it.
Every statement is read only when its turn comes, so the ones before an unreadable
one take effect.

## Main definitions

* `Script.tokens` — the tokens of a script.
* `Script.statements` — its statements, `none` for one that cannot be read.
* `Script.run` — runs a script.
-/

namespace SmartPlaylist.Script

/-! ### Tokens -/

/-- The parts of a statement. -/
inductive Token where
  | word (s : String)
  /-- A name in quotes. -/
  | name (s : String)
  | value (c : Cell)
  | mark (c : Char)
  /-- What cannot be read. -/
  | unreadable
  deriving DecidableEq

/-- The text up to a closing quote, which stands doubled inside it, and what follows. -/
def quoted (close : Char) : List Char → Option (List Char × List Char)
  | [] => none
  | [c] => if c = close then some ([], []) else none
  | c :: d :: rest =>
    if c ≠ close then (quoted close (d :: rest)).map fun (body, rest) => (c :: body, rest)
    else if d = close then (quoted close rest).map fun (body, rest) => (c :: body, rest)
    else some ([], d :: rest)

/-- What follows a comment that ends with an asterisk and a slash. -/
def afterComment : List Char → List Char
  | '*' :: '/' :: rest => rest
  | _ :: rest => afterComment rest
  | [] => []

/-- Whether a character may stand in a bare word. -/
def isWordCharacter (c : Char) : Bool := c.isAlphanum || c = '_' || c = '$' || 128 ≤ c.toNat

/-- The number at the beginning of a text, as characters, and what follows. -/
def numberText (cs : List Char) : List Char × List Char :=
  let (whole, rest) := cs.span Char.isDigit
  let (places, rest) := match rest with
    | '.' :: rest =>
      let (digits, rest) := rest.span Char.isDigit
      ('.' :: digits, rest)
    | rest => ([], rest)
  let (exponent, rest) := match rest with
    | e :: sign :: rest' =>
      if (e = 'e' || e = 'E') && (sign = '+' || sign = '-') then
        let (digits, rest) := rest'.span Char.isDigit
        (e :: sign :: digits, rest)
      else if (e = 'e' || e = 'E') && sign.isDigit then
        let (digits, rest) := (sign :: rest').span Char.isDigit
        (e :: digits, rest)
      else ([], rest)
    | rest => ([], rest)
  (whole ++ places ++ exponent, rest)

/-- A number: a whole one if it is written as one and 64 bits hold it. -/
def number (text : List Char) : Token :=
  match wholeText? (String.ofList text), Decimal.real? text with
  | some n, _ => .value (.whole n)
  | none, some x => .value (.real x)
  | none, none => .unreadable

/-- The first token of a text, none where there is only a blank or a comment, and what follows. -/
def first (c : Char) (rest : List Char) : Option Token × List Char :=
  let named := fun close => match quoted close rest with
    | some (body, rest) => (some (.name (String.ofList body)), rest)
    | none => (some .unreadable, [])
  match c, rest with
  | '-', '-' :: rest => (none, rest.dropWhile (· ≠ '\n'))
  | '/', '*' :: rest => (none, afterComment rest)
  | '\'', rest => match quoted '\'' rest with
    | some (body, rest) => (some (.value (.text (String.ofList body))), rest)
    | none => (some .unreadable, [])
  | '"', _ => named '"'
  | '[', _ => named ']'
  | c, rest =>
    if c.toNat = 96 then named c
    else if c = ' ' || c = '\t' || c = '\n' || c = '\r' || c.toNat = 12 then (none, rest)
    else if c.isDigit || (c = '.' && (rest.head?.any Char.isDigit)) then
      let (text, rest) := numberText (c :: rest)
      if rest.head?.any isWordCharacter then (some .unreadable, [])
      else (some (number text), rest)
    else if isWordCharacter c then
      let (body, rest) := rest.span isWordCharacter
      (some (.word (String.ofList (c :: body))), rest)
    else (some (.mark c), rest)

/-- The tokens of a text; there are no more of them than characters. -/
def tokensWithin : Nat → List Char → List Token
  | 0, _ | _, [] => []
  | n + 1, c :: cs =>
    let (token, rest) := first c cs
    token.toList ++ tokensWithin n rest

/-- The tokens of a script. -/
def tokens (s : String) : List Token := tokensWithin s.length s.toList

/-! ### Statements -/

/-- A reader of tokens. -/
abbrev Reader (α : Type) := StateT (List Token) Option α

/-- Whether a token is a word or a mark. -/
def Token.is (t : Token) (s : String) : Bool :=
  match t with
  | .word w => w.toLower = s
  | .mark c => String.singleton c = s
  | _ => false

/-- Passes over a word or a mark if it is next, and says whether it was. -/
def accept (s : String) : Reader Bool := fun
  | t :: rest => if t.is s then some (true, rest) else some (false, t :: rest)
  | [] => some (false, [])

/-- Passes over words or marks that must come next. -/
def expect (words : List String) : Reader Unit :=
  words.forM fun s => do guard (← accept s)

/-- Reads a name. -/
def name : Reader String := fun
  | .word s :: rest | .name s :: rest => some (s, rest)
  | _ => none

/-- Reads a value, or none for `NULL`. -/
def value : Reader (Option Cell) := fun
  | .value c :: rest => some (some c, rest)
  | .name s :: rest => some (some (.text s), rest)
  | .mark '-' :: .value (.whole n) :: rest => some (some (.whole (-n)), rest)
  | .mark '-' :: .value (.real x) :: rest => some (some (.real (-x)), rest)
  | .mark '+' :: .value c :: rest => some (some c, rest)
  | .word w :: rest =>
    match w.toLower with
    | "null" => some (none, rest)
    | "true" => some (some (.whole 1), rest)
    | "false" => some (some (.whole 0), rest)
    | _ => none
  | _ => none

/-- Reads at least one item; between two stands a word or a mark. -/
def separated {α : Type} (separator : String) (item : Reader α) : Reader (List α) := do
  go (← get).length
where
  /-- The same with at most so many separators. -/
  go : Nat → Reader (List α)
    | 0 => return [← item]
    | n + 1 => do
      let x ← item
      if ← accept separator then return x :: (← go n) else return [x]

/-- Reads items in parentheses. -/
def listed {α : Type} (item : Reader α) : Reader (List α) := do
  expect ["("]
  let xs ← separated "," item
  expect [")"]
  return xs

/-- Reads a name and the value that it has. -/
def assignment : Reader Assignment := do
  let column ← name
  expect ["="]
  return (column, ← value)

/-- Reads the conditions after `WHERE`, if there are any. -/
def conditions : Reader (List Assignment) := do
  if ← accept "where" then separated "and" assignment else return []

/-- Reads what is done about rows that clash. -/
def clash : Reader Clash := do
  if ← accept "or" then
    if ← accept "ignore" then return .skip
    else if ← accept "replace" then return .replace
    else
      guard (← accept "abort" <||> accept "fail" <||> accept "rollback")
      return .fail
  else return .fail

/-- Reads the rest of an insertion. -/
def insertion (clash : Clash) : Reader Statement := do
  expect ["into"]
  let table ← name
  let columns ← match (← get).head? with
    | some (.mark '(') => some <$> listed name
    | _ => pure none
  expect ["values"]
  return .insert clash table columns (← separated "," (listed value))

/-- Reads a statement. -/
def statement : Reader Statement := do
  if ← accept "insert" then insertion (← clash)
  else if ← accept "replace" then insertion .replace
  else if ← accept "delete" then
    expect ["from"]
    let table ← name
    return .delete table (← conditions)
  else if ← accept "update" then
    let table ← name
    expect ["set"]
    let changes ← separated "," assignment
    return .update table changes (← conditions)
  else if ← accept "drop" then
    expect ["table"]
    let lenient ← accept "if"
    if lenient then expect ["exists"]
    return .drop lenient (← name)
  else if ← accept "begin" then
    let _ ← (accept "deferred" <||> accept "immediate" <||> accept "exclusive")
    let _ ← accept "transaction"
    return .begin
  else if ← accept "commit" <||> accept "end" then
    let _ ← accept "transaction"
    return .commit
  else
    expect ["rollback"]
    let _ ← accept "transaction"
    return .rollback

/-- The statements of tokens. -/
def ofTokens (ts : List Token) : List (Option Statement) :=
  ((ts.splitOnP (· = .mark ';')).filter fun part => !part.isEmpty).map fun part =>
    match statement part with
    | some (s, []) => some s
    | _ => none

/-- The statements of a script. -/
def statements (s : String) : List (Option Statement) := ofTokens (tokens s)

/-- Runs a script. -/
def run (s : String) : Store.Action Unit := Statement.runAll none (statements s)

end SmartPlaylist.Script
