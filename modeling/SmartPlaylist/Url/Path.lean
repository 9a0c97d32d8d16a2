import SmartPlaylist.Url.Form

/-!
# Paths

A path is a row of segments.  A segment of one point stands for the segments before
it, one of two points takes the last of them away.  The letter of a drive is never
taken away, and a file's path may write it with a bar in place of the colon.

## Main definitions

* `UrlPath`, `UrlPath.text` — the path of a URL and its text.
* `UrlPath.resolve` — the segments of a path.
* `UrlPath.ofFile` — the segments of a file's path.
-/

namespace SmartPlaylist

/-- The path of a URL. -/
inductive UrlPath where
  /-- Segments, each with a slash before it. -/
  | segments (names : List String)
  /-- Any text, for a URL without host. -/
  | plain (s : String)
  deriving DecidableEq, Repr

namespace UrlPath

open Url

/-- The text of a path. -/
def text : UrlPath → String
  | .segments names => String.join (names.map fun n => "/" ++ n)
  | .plain s => s

/-! ### Drives -/

/-- Whether a segment begins with the letter of a drive. -/
def beginsWithDrive : List Char → Bool
  | letter :: mark :: rest =>
    letter.isAlpha && (mark = ':' || mark = '|') &&
      match rest with
      | [] => true
      | c :: _ => ['/', '\\', '?', '#'].contains c
  | _ => false

/-- Whether a segment is the letter of a drive. -/
def isDrive (segment : List Char) : Bool := segment.length = 2 && beginsWithDrive segment

/-- The letter of a drive as it is usually written; other segments as they are. -/
def usualDrive (segment : List Char) : List Char :=
  if isDrive segment then segment.take 1 ++ [':'] else segment

/-! ### Segments -/

/-- Whether a segment stands for the segments before it. -/
def isSingleDot (segment : List Char) : Bool :=
  (String.ofList (segment.map Char.toLower)) ∈ [".", "%2e"]

/-- Whether a segment takes the last of those before it away. -/
def isDoubleDot (segment : List Char) : Bool :=
  (String.ofList (segment.map Char.toLower)) ∈ ["..", ".%2e", "%2e.", "%2e%2e"]

/-- The segments without the last, given in reverse; the letter of a drive stays. -/
def parent : List (List Char) → List (List Char)
  | [] => []
  | last :: front => if beginsWithDrive last then last :: front else front

/-- The segments of a path after those given in reverse, each read by `read` when it is the first
one and encoded.  A path that ends in points ends in an empty segment. -/
def resolveAfter (read : List Char → List Char) :
    List (List Char) → List (List Char) → List (List Char)
  | reversed, [] => reversed.reverse
  | reversed, segment :: rest =>
    let closing := if rest.isEmpty then [[]] else []
    if isDoubleDot segment then resolveAfter read (closing ++ parent reversed) rest
    else if isSingleDot segment then resolveAfter read (closing ++ reversed) rest
    else
      let encoded := Percent.encode Percent.inPath segment
      resolveAfter read ((if reversed.isEmpty then read encoded else encoded) :: reversed) rest

/-- The segments of a path, given by the text after its first slash. -/
def resolve (cs : List Char) : List (List Char) := resolveAfter id [] (Form.cutAt '/' cs)

/-- The segments of a file's path, given by the text after its first slash, and whether they begin
with the letter of a drive.  Empty segments at the front are dropped, but one segment is left. -/
def ofFile (cs : List Char) : List (List Char) × Bool :=
  let found := resolveAfter usualDrive [] (Form.cutAt '/' cs)
  let kept := found.dropWhile List.isEmpty
  (if kept.isEmpty then [[]] else kept, found.head?.any isDrive)

/-- Segments as a path. -/
def ofSegments (names : List (List Char)) : UrlPath := .segments (names.map String.ofList)

end UrlPath

end SmartPlaylist
