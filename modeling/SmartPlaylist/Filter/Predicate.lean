import SmartPlaylist.Definition.Basic

/-!
# Filter predicates

A definition's filters become a tree of conditions on the columns of a joined
library row.  The tree is rendered as a clause with placeholders and the list of
values to bind to them, so that no value of a definition ever becomes part of
the clause's text.

## Main definitions

* `Column` — what a condition looks at.
* `Predicate` — the tree; `Predicate.ofDefinition` builds it.
* `Predicate.isEmpty` — it constrains nothing.
* `Predicate.renderOnto`, `Predicate.render` — the clause and the bound values.
-/

namespace SmartPlaylist

/-- A column of the joined library row. -/
inductive Column where
  | artistName
  | genre
  | feature (f : Feature)
  deriving DecidableEq, Repr, Inhabited

/-- The column as it stands in a clause: qualified by its table, feature names quoted. -/
def Column.reference : Column → String
  | .artistName => "artists.name"
  | .genre => "artist_genres.genre"
  | .feature f => "track_audio_features.\"" ++ f.name ++ "\""

/-- A condition on a joined row. -/
inductive Predicate where
  /-- The column lies within the bounds, either of which may be open. -/
  | range (column : Column) (min max : Option Float)
  /-- The column is one of the values. -/
  | membership (column : Column) (values : List String)
  /-- Every child holds; without children, no constraint. -/
  | all (children : List Predicate)
  deriving Inhabited

/-- A value bound to a placeholder. -/
inductive BoundValue where
  | real (x : Float)
  | text (s : String)
  deriving DecidableEq, Inhabited

namespace Predicate

/-- The filter of a definition: a condition for each kind of filter that it uses. -/
def ofDefinition (d : Definition) : Predicate :=
  let artists := if d.artists.isEmpty then [] else [membership .artistName d.artists]
  let genres := if d.genres.isEmpty then [] else [membership .genre d.genres]
  let features := (d.features.getD []).filterMap fun (f, r) =>
    if r.isUnbounded then none else some (range (.feature f) r.min r.max)
  all (artists ++ genres ++ features)

mutual

/-- Whether the tree constrains nothing. -/
def isEmpty : Predicate → Bool
  | range _ min max => min.isNone && max.isNone
  | membership _ _ => false
  | all children => allEmpty children

/-- Whether none of the trees constrains anything. -/
def allEmpty : List Predicate → Bool
  | [] => true
  | p :: rest => isEmpty p && allEmpty rest

end

/-- The clause of a tree, if it has one, and the values bound to its placeholders in order. -/
abbrev Rendered := Option String × List BoundValue

/-- The comparisons of a range, each with the value to bind. -/
def rangeParts (column : Column) (min max : Option Float) : List (String × BoundValue) :=
  (min.map fun x => (column.reference ++ " >= ?", BoundValue.real x)).toList ++
    (max.map fun x => (column.reference ++ " <= ?", BoundValue.real x)).toList

/-- The clause of a range, in parentheses. -/
def renderRange (column : Column) (min max : Option Float) : Rendered :=
  let parts := rangeParts column min max
  (if parts.isEmpty then none
    else some ("(" ++ " AND ".intercalate (parts.map Prod.fst) ++ ")"), parts.map Prod.snd)

/-- The clause of a membership, in parentheses; one that no row satisfies for no values. -/
def renderMembership (column : Column) (values : List String) : Rendered :=
  if values.isEmpty then (some "(0 = 1)", [])
  else
    (some ("(" ++ column.reference ++ " IN (" ++ ", ".intercalate (values.map fun _ => "?") ++
      "))"),
      values.map BoundValue.text)

mutual

/-- The clause of a tree, and the values bound so far with those of the tree behind them; a tree
without constraints has no clause. -/
def renderOnto (bound : List BoundValue) : Predicate → Rendered
  | range column min max =>
    let (clause, values) := renderRange column min max
    (clause, bound ++ values)
  | membership column values =>
    let (clause, values) := renderMembership column values
    (clause, bound ++ values)
  | all children =>
    let (clauses, bound) := renderAllOnto bound children
    (if clauses.isEmpty then none else some (" AND ".intercalate clauses), bound)

/-- The clauses of those trees that have one, and the values bound so far with all of theirs. -/
def renderAllOnto (bound : List BoundValue) : List Predicate → List String × List BoundValue
  | [] => ([], bound)
  | p :: rest =>
    let (clause, bound) := renderOnto bound p
    let (clauses, bound) := renderAllOnto bound rest
    (clause.toList ++ clauses, bound)

end

/-- The clause and the bound values of a tree. -/
def render (p : Predicate) : Rendered := p.renderOnto []

end Predicate

end SmartPlaylist
