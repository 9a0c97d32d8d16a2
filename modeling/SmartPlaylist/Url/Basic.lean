import SmartPlaylist.Url.Authority
import SmartPlaylist.Url.Path

/-!
# URLs

Reading and writing absolute URLs by the rules that browsers follow.  URLs with
special schemes always have a host and a path and take backslashes for slashes;
other URLs may have a host, or else any text for a path.

## Main definitions

* `Url` — the parts of a URL.
* `Url.parse` — a text as a URL.
* `Url.text` — the text of a URL.
* `Url.appendPairs` — a URL with more pairs in its query.
-/

namespace SmartPlaylist

/-- The parts of a URL, encoded as they stand in its text. -/
structure Url where
  scheme : String
  authority : Option Url.Authority
  path : UrlPath
  query : Option String
  fragment : Option String
  deriving DecidableEq, Repr

namespace Url

/-! ### Reading -/

/-- Reads a scheme and its colon. -/
def scheme? (cs : List Char) : Option (String × List Char) :=
  match cs with
  | [] => none
  | c :: _ =>
    let inScheme := fun (c : Char) => c.isAlphanum || c = '+' || c = '-' || c = '.'
    match cs.dropWhile inScheme with
    | ':' :: rest =>
      if c.isAlpha then some (String.ofList ((cs.takeWhile inScheme).map Char.toLower), rest)
      else none
    | _ => none

/-- Drops what surrounds a URL and what is ignored inside it. -/
def clean (s : String) : List Char :=
  let outside := fun (c : Char) => c.toNat ≤ 0x20
  let trimmed := ((s.toList.dropWhile outside).reverse.dropWhile outside).reverse
  trimmed.filter fun c => c ≠ '\t' && c ≠ '\n' && c ≠ '\r'

/-- The part before a query or fragment, the query and the fragment. -/
def splitTail (cs : List Char) : List Char × Option (List Char) × Option (List Char) :=
  let front := cs.takeWhile (· ≠ '#')
  let fragment := match cs.dropWhile (· ≠ '#') with
    | [] => none
    | _ :: rest => some rest
  let query := match front.dropWhile (· ≠ '?') with
    | [] => none
    | _ :: rest => some rest
  (front.takeWhile (· ≠ '?'), query, fragment)

/-- An authority, if there is one, and a path. -/
abbrev Place := Option Authority × UrlPath

/-- Reads where a file is.  What could be a host but is the letter of a drive belongs to the path,
and a path that begins with such a letter has no host. -/
def filePlace? (cs : List Char) : Option Place :=
  let place := fun (host : Authority) (path : List Char) =>
    let (names, onDrive) := UrlPath.ofFile path
    ((if onDrive then some (Authority.ofHost "") else some host, UrlPath.ofSegments names) : Place)
  match cs with
  | '/' :: '/' :: rest =>
    let hostText := rest.takeWhile (· ≠ '/')
    let after := rest.dropWhile (· ≠ '/')
    if UrlPath.isDrive hostText then some (place (Authority.ofHost "") rest)
    else (Authority.ofFile? hostText).map fun host =>
      place host (if host.host.isEmpty then after else after.drop 1)
  | '/' :: rest => some (place (Authority.ofHost "") rest)
  | rest => some (place (Authority.ofHost "") rest)

/-- Reads an authority and the path after it.  A special scheme always has a path. -/
def hostPlace? (scheme : String) (endsUrl : Bool) (cs : List Char) : Option Place := do
  let beforePath := cs.takeWhile fun c => c ≠ '/'
  let path := cs.dropWhile fun c => c ≠ '/'
  let (authority, left) ← Authority.read? scheme (endsUrl && path.isEmpty) beforePath
  let names := match left ++ path with
    | [] => if isSpecial scheme then [[]] else []
    | '/' :: rest => UrlPath.resolve rest
    | rest => UrlPath.resolve rest
  some (some authority, UrlPath.ofSegments names)

/-- Reads where a URL leads, from the part between its scheme and its query. -/
def place? (scheme : String) (endsUrl : Bool) (cs : List Char) : Option Place :=
  let cs := cs.map fun c => if isSlash scheme c then '/' else c
  if scheme = "file" then filePlace? cs
  else if isSpecial scheme then hostPlace? scheme endsUrl (cs.dropWhile (· = '/'))
  else
    match cs with
    | '/' :: '/' :: rest => hostPlace? scheme endsUrl rest
    | '/' :: rest => some (none, UrlPath.ofSegments (UrlPath.resolve rest))
    | rest => some (none, .plain (String.ofList (Percent.encode Percent.isPrintable rest)))

/-- Reads a URL; `none` unless it is absolute and well formed. -/
def parse (s : String) : Option Url := do
  let (scheme, rest) ← scheme? (clean s)
  let (front, query, fragment) := splitTail rest
  let (authority, path) ← place? scheme (query.isNone && fragment.isNone) front
  let inQuery := if isSpecial scheme then Percent.inSpecialQuery else Percent.inQuery
  let encoded := fun inPart cs => String.ofList (Percent.encode inPart cs)
  some ⟨scheme, authority, path, query.map (encoded inQuery),
    fragment.map (encoded Percent.inFragment)⟩

/-! ### Writing -/

/-- A part with the sign before it, if the part is there. -/
def marked (sign : String) : Option String → String
  | some part => sign ++ part
  | none => ""

/-- The text of a URL.  A path that begins with two slashes gets a point before them where no host
stands before it. -/
def text (u : Url) : String :=
  let before := match u.authority, u.path with
    | some a, _ => "//" ++ a.text
    | none, .segments ("" :: _ :: _) => "/."
    | none, _ => ""
  u.scheme ++ ":" ++ before ++ u.path.text ++ marked "?" u.query ++ marked "#" u.fragment

/-- The target of a request for a URL: its path and query. -/
def target (u : Url) : String := u.path.text ++ marked "?" u.query

/-- The URL with more pairs at the end of its query. -/
def appendPairs (u : Url) (pairs : List (String × String)) : Url :=
  let more := Form.encode pairs
  { u with query := some (match u.query with
      | some q => if q.isEmpty then more else q ++ "&" ++ more
      | none => more) }

/-- The pairs of a URL's query. -/
def pairs (u : Url) : List (String × String) := Form.decode (u.query.getD "")

end Url

end SmartPlaylist
