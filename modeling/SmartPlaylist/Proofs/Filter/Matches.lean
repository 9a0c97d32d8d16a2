import SmartPlaylist.Proofs.Numeric.Exact
import SmartPlaylist.Proofs.Store.Outcome
import SmartPlaylist.Proofs.Text.ByteOrder
import SmartPlaylist.Store.Candidates

/-!
# What the filters let through

The filters are run on the join of five tables, in which an absent row stands wherever nothing is
stored.  Here the join is shown to say no more than one would expect of the tables themselves: a
saved track passes when its features lie within the ranges and one of its artists has a name and a
genre out of the lists.

The join of a track is a product of four choices, of which the choice of an artist and that of a
genre depend on the link chosen.  An absent row satisfies a condition only when the condition is not
asked for, so each choice turns into an existential statement on its table
(`exists_matchesOrAbsent_imp`), and the choices are taken apart one by one.

## Main definitions

* `FeatureRange.Contains`, `FeatureRow.Meets` — ranges, on exact numbers.
* `Definition.Admits`, `Definition.AdmitsRangewise` — what the filters ask of a track.

## Main results

* `Predicate.holds_ofDefinition_iff` — the predicate of a definition, condition by condition.
* `exists_joinTrack_holds_iff` — the join of one track.
* `filterMatches_eq_admitted` — **the matches are the admitted tracks, in byte order.**
-/

namespace SmartPlaylist

/-! ### Ranges -/

/-- The number that a stored feature stands for, if there is one. -/
def FeatureRow.extended? (row : FeatureRow) (f : Feature) : Option Extended :=
  match row.values.get f with
  | .inl x => x.bind SmartPlaylist.extended?
  | .inr n => n.map fun n => Extended.ofRat n.toInt

namespace FeatureRange

/-- Whether there is a bound at all. -/
def IsBounded (r : FeatureRange) : Prop := r.min ≠ none ∨ r.max ≠ none

/-- A number lies within the bounds that there are; a bound that is no number has none within. -/
def Contains (r : FeatureRange) (v : Extended) : Prop :=
  (∀ x, r.min = some x → ∃ low, extended? x = some low ∧ low ≤ v) ∧
    ∀ x, r.max = some x → ∃ high, extended? x = some high ∧ v ≤ high

theorem isUnbounded_eq_false_iff {r : FeatureRange} : r.isUnbounded = false ↔ r.IsBounded := by
  rcases r with ⟨min, max⟩
  cases min <;> cases max <;> simp [isUnbounded, IsBounded]

end FeatureRange

/-- The stored value of a feature lies within a range. -/
def FeatureRow.Meets (row : FeatureRow) (f : Feature) (r : FeatureRange) : Prop :=
  ∃ v, row.extended? f = some v ∧ r.Contains v

/-- For a stored number, the comparisons of a range are those of exact numbers. -/
theorem Predicate.within_iff {r : FeatureRange} (hr : r.IsBounded) {c : Cell}
    (hc : ∀ s, c ≠ .text s) :
    Predicate.within r.min r.max c = true ↔ ∃ v, c.extended? = some v ∧ r.Contains v := by
  rcases r with ⟨min, max⟩
  simp only [Predicate.within, Bool.and_eq_true, FeatureRange.Contains]
  cases hv : c.extended? with
  | none =>
    -- NaN meets no bound, and there is one
    cases min with
    | none =>
      cases max with
      | none => exact absurd hr (by simp [FeatureRange.IsBounded])
      | some high => simp [Cell.atMost_iff, hv]
    | some low => simp [Cell.atLeast_iff hc, hv]
  | some v =>
    have hmin : min.all c.atLeast = true ↔
        ∀ x, min = some x → ∃ low, extended? x = some low ∧ low ≤ v := by
      cases min with
      | none => simp
      | some low => simp [Cell.atLeast_iff hc, hv]
    have hmax : max.all c.atMost = true ↔
        ∀ x, max = some x → ∃ high, extended? x = some high ∧ v ≤ high := by
      cases max with
      | none => simp
      | some high => simp [Cell.atMost_iff, hv]
    rw [hmin, hmax]
    simp

/-! ### The predicate of a definition -/

/-- The ranges of a definition, those without bounds included. -/
def Definition.ranges (d : Definition) : List (Feature × FeatureRange) := d.features.getD []

theorem Predicate.allHold_iff {r : JoinedRow} (ps : List Predicate) :
    allHold r ps = true ↔ ∀ p ∈ ps, p.holds r = true := by
  induction ps with
  | nil => simp [allHold]
  | cons p ps ih => rw [allHold, Bool.and_eq_true, ih, List.forall_mem_cons]

theorem Predicate.holds_membership_iff {r : JoinedRow} {column : Column} {values : List String}
    {cell : Option String} (h : r.cell? column = cell.map Cell.text) :
    (membership column values).holds r = true ↔ ∃ v ∈ values, cell = some v := by
  rw [holds, h]
  cases cell with
  | none => simp
  | some s => simp

theorem Predicate.holds_range_iff {id : String} {name genre : Option String}
    {row : Option FeatureRow} {f : Feature} {range : FeatureRange} (hr : range.IsBounded) :
    (Predicate.range (.feature f) range.min range.max).holds
        ⟨id, name, genre, row.map FeatureRow.values⟩ = true ↔
      ∃ v, row = some v ∧ v.Meets f range := by
  have hbounded : (range.min.isNone && range.max.isNone) = false :=
    FeatureRange.isUnbounded_eq_false_iff.mpr hr
  rw [holds, hbounded, Bool.false_or]
  cases row with
  | none => simp [JoinedRow.cell?]
  | some v =>
    simp only [JoinedRow.cell?, Option.map_some, bind, Option.bind_some, Option.some.injEq,
      exists_eq_left', FeatureRow.Meets, FeatureRow.extended?]
    rcases v.values.get f with x | n
    · cases x with
      | none => simp
      | some x => exact within_iff hr (by simp)
    · cases n with
      | none => simp
      | some n => exact within_iff hr (by simp)

/-- The conditions of a definition on one joined row. -/
theorem Predicate.holds_ofDefinition_iff {d : Definition} {id : String}
    {name genre : Option String} {row : Option FeatureRow} :
    (Predicate.ofDefinition d).holds ⟨id, name, genre, row.map FeatureRow.values⟩ = true ↔
      (d.artists ≠ [] → ∃ v ∈ d.artists, name = some v) ∧
      (d.genres ≠ [] → ∃ v ∈ d.genres, genre = some v) ∧
      ∀ f r, (f, r) ∈ d.ranges → r.IsBounded → ∃ v, row = some v ∧ v.Meets f r := by
  have hname : JoinedRow.cell? ⟨id, name, genre, row.map FeatureRow.values⟩ .artistName
      = name.map Cell.text := rfl
  have hgenre : JoinedRow.cell? ⟨id, name, genre, row.map FeatureRow.values⟩ .genre
      = genre.map Cell.text := rfl
  rw [ofDefinition, holds, allHold_iff]
  simp only [List.mem_append, List.mem_filterMap, or_imp, forall_and, and_assoc]
  refine and_congr ?_ (and_congr ?_ ?_)
  · rw [← holds_membership_iff hname]
    by_cases h : d.artists = [] <;> simp [h]
  · rw [← holds_membership_iff hgenre]
    by_cases h : d.genres = [] <;> simp [h]
  · constructor
    · intro h f r hmem hr
      refine (holds_range_iff hr).mp (h _ ⟨(f, r), hmem, ?_⟩)
      simp [FeatureRange.isUnbounded_eq_false_iff.mpr hr]
    · rintro h p ⟨⟨f, r⟩, hmem, hp⟩
      by_cases hr : r.isUnbounded
      · simp [hr] at hp
      · have hr' : r.IsBounded := FeatureRange.isUnbounded_eq_false_iff.mp (by simpa using hr)
        simp only [hr, Bool.false_eq_true, if_false, Option.some.injEq] at hp
        rw [← hp, holds_range_iff hr']
        exact h f r hmem hr'

/-! ### The join of one track -/

section join

variable {ρ : Type} {rows : List ρ} {p : ρ → Bool}

theorem mem_matchesOrAbsent {o : Option ρ} :
    o ∈ matchesOrAbsent rows p ↔
      (∃ x ∈ rows, p x = true ∧ o = some x) ∨ o = none ∧ ∀ x ∈ rows, ¬p x = true := by
  unfold matchesOrAbsent
  split
  next h =>
    rw [List.filter_eq_nil_iff] at h
    rw [List.mem_singleton]
    constructor
    · intro ho
      exact Or.inr ⟨ho, h⟩
    · rintro (⟨x, hx, hp, -⟩ | ⟨ho, -⟩)
      · exact absurd hp (h x hx)
      · exact ho
  next h =>
    rw [List.filter_eq_nil_iff] at h
    rw [List.mem_map]
    constructor
    · rintro ⟨x, hx, rfl⟩
      obtain ⟨hx, hp⟩ := List.mem_filter.mp hx
      exact Or.inl ⟨x, hx, hp, rfl⟩
    · rintro (⟨x, hx, hp, rfl⟩ | ⟨-, hall⟩)
      · exact ⟨x, List.mem_filter.mpr ⟨hx, hp⟩, rfl⟩
      · exact absurd hall h

/-- **A choice out of a table.**  Where nothing is asked for, the absent row will do; otherwise some
row of the table must be as asked. -/
theorem exists_matchesOrAbsent_imp {asked : Prop} {q : ρ → Prop} :
    (∃ o ∈ matchesOrAbsent rows p, asked → ∃ x, o = some x ∧ q x) ↔
      (asked → ∃ x ∈ rows, p x = true ∧ q x) := by
  constructor
  · rintro ⟨o, ho, h⟩ hasked
    obtain ⟨x, rfl, hq⟩ := h hasked
    rcases mem_matchesOrAbsent.mp ho with ⟨y, hy, hp, heq⟩ | ⟨hnone, -⟩
    · obtain rfl := Option.some.inj heq
      exact ⟨x, hy, hp, hq⟩
    · exact absurd hnone (Option.some_ne_none x)
  · intro h
    by_cases hasked : asked
    · obtain ⟨x, hx, hp, hq⟩ := h hasked
      exact ⟨some x, mem_matchesOrAbsent.mpr (Or.inl ⟨x, hx, hp, rfl⟩), fun _ => ⟨x, rfl, hq⟩⟩
    · -- the list is never empty
      by_cases hany : ∃ x ∈ rows, p x = true
      · obtain ⟨x, hx, hp⟩ := hany
        exact ⟨some x, mem_matchesOrAbsent.mpr (Or.inl ⟨x, hx, hp, rfl⟩),
          fun ha => absurd ha hasked⟩
      · refine ⟨none, mem_matchesOrAbsent.mpr (Or.inr ⟨rfl, ?_⟩), fun ha => absurd ha hasked⟩
        intro x hx hp
        exact hany ⟨x, hx, hp⟩

end join

section joinTrack

variable {d : Definition} {links : List TrackArtistRow} {artists : List ArtistRow}
  {genres : List ArtistGenreRow} {features : List FeatureRow} {track : LibraryTrackRow}

/-- What the filters ask of one artist, given by id. -/
def Definition.AdmitsArtist (d : Definition) (artists : List ArtistRow)
    (genres : List ArtistGenreRow) (artistId : String) : Prop :=
  (d.artists ≠ [] → ∃ a ∈ artists, a.id = artistId ∧ a.name ∈ d.artists) ∧
    (d.genres ≠ [] → ∃ g ∈ genres, g.artistId = artistId ∧ g.genre ∈ d.genres)

theorem mem_joinTrack {r : JoinedRow} :
    r ∈ joinTrack links artists genres features track ↔
      ∃ link ∈ matchesOrAbsent links fun l => l.trackId = track.trackId,
      ∃ artist ∈ matchesOrAbsent artists fun a => link.any fun l => a.id = l.artistId,
      ∃ genre ∈ matchesOrAbsent genres fun g => link.any fun l => g.artistId = l.artistId,
      ∃ row ∈ matchesOrAbsent features fun f => f.trackId = track.trackId,
        ⟨track.trackId, artist.map ArtistRow.name, genre.map ArtistGenreRow.genre,
          row.map FeatureRow.values⟩ = r := by
  simp only [joinTrack, List.mem_flatMap, List.mem_map]

/-- The link chosen bears both the artist and the genre asked for. -/
theorem exists_link_iff :
    (∃ link ∈ matchesOrAbsent links fun l => l.trackId = track.trackId,
      (d.artists ≠ [] → ∃ a ∈ artists, (link.any fun l => a.id = l.artistId) = true ∧
        a.name ∈ d.artists) ∧
      (d.genres ≠ [] → ∃ g ∈ genres, (link.any fun l => g.artistId = l.artistId) = true ∧
        g.genre ∈ d.genres)) ↔
    (d.artists ≠ [] ∨ d.genres ≠ [] → ∃ l ∈ links, l.trackId = track.trackId ∧
      d.AdmitsArtist artists genres l.artistId) := by
  have h := @exists_matchesOrAbsent_imp _ links (fun l => decide (l.trackId = track.trackId))
    (d.artists ≠ [] ∨ d.genres ≠ []) fun l => d.AdmitsArtist artists genres l.artistId
  simp only [decide_eq_true_eq] at h
  rw [← h]
  refine exists_congr fun link => and_congr_right fun _ => ?_
  cases link with
  | none => simp
  | some l =>
    simp only [Option.any_some, decide_eq_true_eq, Option.some.injEq, exists_eq_left',
      Definition.AdmitsArtist]
    tauto

/-- Whether a definition has a range with a bound. -/
def Definition.HasRange (d : Definition) : Prop := ∃ f r, (f, r) ∈ d.ranges ∧ r.IsBounded

/-- The features of a row lie within all ranges of a definition. -/
def FeatureRow.MeetsAll (row : FeatureRow) (d : Definition) : Prop :=
  ∀ f r, (f, r) ∈ d.ranges → r.IsBounded → row.Meets f r

/-- Each range asks for a row, and all ask for the same one. -/
theorem forall_meets_iff {row : Option FeatureRow} :
    (∀ f r, (f, r) ∈ d.ranges → r.IsBounded → ∃ v, row = some v ∧ v.Meets f r) ↔
      (d.HasRange → ∃ v, row = some v ∧ v.MeetsAll d) := by
  constructor
  · rintro h ⟨f, r, hmem, hr⟩
    obtain ⟨v, rfl, -⟩ := h f r hmem hr
    refine ⟨v, rfl, fun f' r' hmem' hr' => ?_⟩
    obtain ⟨v', hv', hmeets⟩ := h f' r' hmem' hr'
    rw [Option.some.inj hv']
    exact hmeets
  · intro h f r hmem hr
    obtain ⟨v, hv, hall⟩ := h ⟨f, r, hmem, hr⟩
    exact ⟨v, hv, hall f r hmem hr⟩

/-- A value read off a chosen row is among those listed when the row bears one of them. -/
theorem exists_mem_map_eq_some {ρ : Type} (f : ρ → String) (values : List String) (o : Option ρ) :
    (∃ v ∈ values, o.map f = some v) ↔ ∃ x, o = some x ∧ f x ∈ values := by
  cases o <;> simp

/-- **The join of one track satisfies the predicate** when one artist is as asked for, and so is one
row of features. -/
theorem exists_joinTrack_holds_iff :
    (∃ r ∈ joinTrack links artists genres features track,
      (Predicate.ofDefinition d).holds r = true) ↔
    (d.artists ≠ [] ∨ d.genres ≠ [] → ∃ l ∈ links, l.trackId = track.trackId ∧
      d.AdmitsArtist artists genres l.artistId) ∧
    (d.HasRange → ∃ row ∈ features, row.trackId = track.trackId ∧ row.MeetsAll d) := by
  have hrow := @exists_matchesOrAbsent_imp _ features
    (fun f => decide (f.trackId = track.trackId)) d.HasRange fun row => row.MeetsAll d
  simp only [decide_eq_true_eq] at hrow
  rw [← exists_link_iff, ← hrow]
  constructor
  · rintro ⟨r, hr, hholds⟩
    obtain ⟨link, hlink, artist, ha, genre, hg, row, hrow, rfl⟩ := mem_joinTrack.mp hr
    rw [Predicate.holds_ofDefinition_iff, exists_mem_map_eq_some, exists_mem_map_eq_some,
      forall_meets_iff] at hholds
    obtain ⟨hartist, hgenre, hmeets⟩ := hholds
    exact ⟨⟨link, hlink, exists_matchesOrAbsent_imp.mp ⟨artist, ha, hartist⟩,
      exists_matchesOrAbsent_imp.mp ⟨genre, hg, hgenre⟩⟩, row, hrow, hmeets⟩
  · rintro ⟨⟨link, hlink, hartists, hgenres⟩, row, hrow, hmeets⟩
    obtain ⟨artist, ha, hartist⟩ := exists_matchesOrAbsent_imp.mpr hartists
    obtain ⟨genre, hg, hgenre⟩ := exists_matchesOrAbsent_imp.mpr hgenres
    refine ⟨_, mem_joinTrack.mpr ⟨link, hlink, artist, ha, genre, hg, row, hrow, rfl⟩, ?_⟩
    rw [Predicate.holds_ofDefinition_iff, exists_mem_map_eq_some, exists_mem_map_eq_some,
      forall_meets_iff]
    exact ⟨hartist, hgenre, hmeets⟩

end joinTrack

/-! ### The matches -/

namespace Definition

/-- Whether a definition has a filter: a list of artists or of genres, or a range. -/
def HasFilter (d : Definition) : Prop := d.artists ≠ [] ∨ d.genres ≠ [] ∨ d.HasRange

theorem hasFilters_eq_true_iff {d : Definition} : d.hasFilters = true ↔ d.HasFilter := by
  have horder : d.HasFilter ↔ (d.genres ≠ [] ∨ d.artists ≠ []) ∨ d.HasRange := by
    rw [HasFilter, ← or_assoc, or_comm (a := d.artists ≠ [])]
  rw [horder, hasFilters, Bool.or_eq_true]
  refine or_congr (by simp) ?_
  unfold HasRange ranges
  cases d.features with
  | none => simp
  | some ranges => simp [FeatureRange.isUnbounded_eq_false_iff]

/-- What the filters of a definition ask of a track: it is saved, a row of features lies within all
ranges, and one artist linked to it has a name and a genre out of the lists. -/
structure Admits (d : Definition) (db : Database) (id : String) : Prop where
  saved : ∃ t ∈ db.libraryTracks.getD [], t.trackId = id
  features : d.HasRange → ∃ row ∈ db.audioFeatures.getD [], row.trackId = id ∧ row.MeetsAll d
  artist : d.artists ≠ [] ∨ d.genres ≠ [] →
    ∃ l ∈ db.trackArtists.getD [], l.trackId = id ∧
      d.AdmitsArtist (db.artists.getD []) (db.artistGenres.getD []) l.artistId

/-- The same with a row of features for each range on its own. -/
structure AdmitsRangewise (d : Definition) (db : Database) (id : String) : Prop where
  saved : ∃ t ∈ db.libraryTracks.getD [], t.trackId = id
  features : ∀ f r, (f, r) ∈ d.ranges → r.IsBounded →
    ∃ row ∈ db.audioFeatures.getD [], row.trackId = id ∧ row.Meets f r
  artist : d.artists ≠ [] ∨ d.genres ≠ [] →
    ∃ l ∈ db.trackArtists.getD [], l.trackId = id ∧
      d.AdmitsArtist (db.artists.getD []) (db.artistGenres.getD []) l.artistId

end Definition

/-- Rows with distinct ids: several ranges that some row each meets are met by one row. -/
theorem exists_meetsAll_iff {d : Definition} {features : List FeatureRow} {id : String}
    (hkey : (features.map FeatureRow.trackId).Nodup) :
    (d.HasRange → ∃ row ∈ features, row.trackId = id ∧ row.MeetsAll d) ↔
      ∀ f r, (f, r) ∈ d.ranges → r.IsBounded →
        ∃ row ∈ features, row.trackId = id ∧ row.Meets f r := by
  constructor
  · intro h f r hmem hr
    obtain ⟨row, hrow, hid, hall⟩ := h ⟨f, r, hmem, hr⟩
    exact ⟨row, hrow, hid, hall f r hmem hr⟩
  · rintro h ⟨f, r, hmem, hr⟩
    obtain ⟨row, hrow, hid, -⟩ := h f r hmem hr
    refine ⟨row, hrow, hid, fun f' r' hmem' hr' => ?_⟩
    obtain ⟨row', hrow', hid', hmeets⟩ := h f' r' hmem' hr'
    rw [List.inj_on_of_nodup_map hkey hrow hrow' (hid.trans hid'.symm)]
    exact hmeets

/-- With the track as the key of the features, the rows asked for are one row. -/
theorem Definition.admits_iff_admitsRangewise {d : Definition} {db : Database} {id : String}
    (hkey : ((db.audioFeatures.getD []).map FeatureRow.trackId).Nodup) :
    d.Admits db id ↔ d.AdmitsRangewise db id := by
  constructor
  · intro h
    exact ⟨h.saved, (exists_meetsAll_iff hkey).mp h.features, h.artist⟩
  · intro h
    exact ⟨h.saved, (exists_meetsAll_iff hkey).mpr h.features, h.artist⟩

namespace Store

variable {d : Definition} {db after : Database} {ids : List String}

/-- The matches of a definition with filters, when they can be read at all. -/
theorem outcome_filterMatches_eq_ok (hf : d.hasFilters = true) :
    (filterMatches d).outcome db = (.ok ids, after) ↔
      ∃ tracks links artists genres features,
        db.libraryTracks = some tracks ∧ db.trackArtists = some links ∧
        db.artists = some artists ∧ db.artistGenres = some genres ∧
        db.audioFeatures = some features ∧ after = db ∧
        ids = Text.distinct (((joinedRows tracks links artists genres features).filter fun r =>
          (Predicate.ofDefinition d).holds r).map JoinedRow.trackId) := by
  unfold filterMatches
  simp only [hf, if_true, outcome_rows_bind_eq_ok, outcome_pure, Prod.mk.injEq, Except.ok.injEq]
  constructor
  · rintro ⟨tracks, ht, links, hl, artists, ha, genres, hg, features, hf, hids, hdb⟩
    exact ⟨tracks, links, artists, genres, features, ht, hl, ha, hg, hf, hdb.symm, hids.symm⟩
  · rintro ⟨tracks, links, artists, genres, features, ht, hl, ha, hg, hf, hdb, hids⟩
    exact ⟨tracks, ht, links, hl, artists, ha, genres, hg, features, hf, hids.symm, hdb.symm⟩

theorem outcome_filterMatches_of_not_hasFilters (hf : ¬d.HasFilter) (db : Database) :
    (filterMatches d).outcome db = (.ok [], db) := by
  rw [← Definition.hasFilters_eq_true_iff] at hf
  unfold filterMatches
  rw [if_neg hf]
  rfl

/-- **What filtering can come to**: nothing without filters, and otherwise the ids of the joined
rows that satisfy the predicate. -/
theorem filterMatches_cases (h : (filterMatches d).outcome db = (.ok ids, after)) :
    after = db ∧ (¬d.HasFilter ∧ ids = [] ∨ d.HasFilter ∧
      ∃ tracks links artists genres features,
        db.libraryTracks = some tracks ∧ db.trackArtists = some links ∧
        db.artists = some artists ∧ db.artistGenres = some genres ∧
        db.audioFeatures = some features ∧
        ids = Text.distinct (((joinedRows tracks links artists genres features).filter fun r =>
          (Predicate.ofDefinition d).holds r).map JoinedRow.trackId)) := by
  by_cases hf : d.HasFilter
  · obtain ⟨tracks, links, artists, genres, features, ht, hl, ha, hg, hr, hdb, hids⟩ :=
      (outcome_filterMatches_eq_ok (Definition.hasFilters_eq_true_iff.mpr hf)).mp h
    exact ⟨hdb, Or.inr ⟨hf, tracks, links, artists, genres, features, ht, hl, ha, hg, hr, hids⟩⟩
  · rw [outcome_filterMatches_of_not_hasFilters hf] at h
    obtain ⟨hids, hdb⟩ := Prod.mk.inj h
    exact ⟨hdb.symm, Or.inl ⟨hf, (Except.ok.inj hids).symm⟩⟩

/-- The matches are the saved tracks whose join satisfies the predicate. -/
theorem mem_filterMatches_iff (h : (filterMatches d).outcome db = (.ok ids, after)) (id : String) :
    id ∈ ids ↔ d.HasFilter ∧ d.Admits db id := by
  rcases filterMatches_cases h with
    ⟨-, ⟨hf, rfl⟩ | ⟨hf, tracks, links, artists, genres, features, ht, hl, ha, hg, hr, rfl⟩⟩
  · simp [hf]
  · -- the join of the saved track with that id decides
    have hadmits : d.Admits db id ↔ (∃ t ∈ tracks, t.trackId = id) ∧
        (d.artists ≠ [] ∨ d.genres ≠ [] → ∃ l ∈ links, l.trackId = id ∧
          d.AdmitsArtist artists genres l.artistId) ∧
        (d.HasRange → ∃ row ∈ features, row.trackId = id ∧ row.MeetsAll d) := by
      constructor
      · rintro ⟨hsaved, hfeatures, hartist⟩
        simp only [ht, hl, ha, hg, hr, Option.getD_some] at hsaved hfeatures hartist
        exact ⟨hsaved, hartist, hfeatures⟩
      · rintro ⟨hsaved, hartist, hfeatures⟩
        refine ⟨?_, ?_, ?_⟩
        · simpa only [ht, Option.getD_some] using hsaved
        · simpa only [hr, Option.getD_some] using hfeatures
        · simpa only [hl, ha, hg, Option.getD_some] using hartist
    rw [hadmits]
    simp only [Text.mem_distinct, List.mem_map, List.mem_filter, joinedRows, List.mem_flatMap, hf,
      true_and]
    constructor
    · rintro ⟨r, ⟨⟨t, hmem, hjoin⟩, hholds⟩, rfl⟩
      have hid : t.trackId = r.trackId := by
        obtain ⟨-, -, -, -, -, -, -, -, rfl⟩ := mem_joinTrack.mp hjoin
        rfl
      rw [← hid]
      exact ⟨⟨t, hmem, rfl⟩, exists_joinTrack_holds_iff.mp ⟨r, hjoin, hholds⟩⟩
    · rintro ⟨⟨t, hmem, rfl⟩, hconditions⟩
      obtain ⟨r, hjoin, hholds⟩ := exists_joinTrack_holds_iff.mpr hconditions
      refine ⟨r, ⟨⟨t, hmem, hjoin⟩, hholds⟩, ?_⟩
      obtain ⟨-, -, -, -, -, -, -, -, rfl⟩ := mem_joinTrack.mp hjoin
      rfl

theorem pairwise_filterMatches (h : (filterMatches d).outcome db = (.ok ids, after)) :
    ids.Pairwise (· < ·) := by
  rcases filterMatches_cases h with ⟨-, ⟨-, rfl⟩ | ⟨-, -, -, -, -, -, -, -, -, -, -, rfl⟩⟩
  · exact List.Pairwise.nil
  · exact Text.pairwise_distinct _

/-- **The matches are the admitted tracks, in byte order**, whatever is stored.  Features have the
track as their key, as the schema says; then each range may be asked for on its own. -/
theorem filterMatches_eq_admitted (h : (filterMatches d).outcome db = (.ok ids, after)) :
    after = db ∧ ids.Pairwise (fun a b => Text.utf8 a < Text.utf8 b) ∧
      (∀ id, id ∈ ids ↔ d.HasFilter ∧ d.Admits db id) ∧
      (((db.audioFeatures.getD []).map FeatureRow.trackId).Nodup →
        ∀ id, id ∈ ids ↔ d.HasFilter ∧ d.AdmitsRangewise db id) ∧
      (¬d.HasFilter → ids = []) := by
  obtain ⟨hdb, hcases⟩ := filterMatches_cases h
  refine ⟨hdb, (pairwise_filterMatches h).imp Text.utf8_lt_of_lt, mem_filterMatches_iff h,
    fun hkey id => ?_, fun hf => ?_⟩
  · rw [mem_filterMatches_iff h, Definition.admits_iff_admitsRangewise hkey]
  · rcases hcases with ⟨-, hids⟩ | ⟨hf', -⟩
    · exact hids
    · exact absurd hf' hf

/-! #### A small library -/

/-- Rock by Ann, at some tempo and short; and three tracks by name, of which the last is named
twice. -/
def rockByAnn : Definition where
  name := "rock by Ann"
  features := some [(.durationMs, ⟨none, some 200000⟩), (.tempo, ⟨some 90, none⟩)]
  genres := ["rock"]
  artists := ["Ann"]
  pins := [⟨"Two", some "Bob", false⟩, ⟨"Four", none, false⟩, ⟨"Four", some "Bob", true⟩]

/-- The features of a short track of that tempo. -/
def shortTrack (tempo : Float) : FeatureVector (Option Float) (Option Int64) where
  acousticness := none
  danceability := none
  durationMs := some 180000
  energy := none
  instrumentalness := none
  key := none
  liveness := none
  loudness := none
  mode := none
  speechiness := none
  tempo := some tempo
  timeSignature := none
  valence := none

/-- Three tracks by Ann, who plays rock, and one that is by Bob alone. -/
def smallLibrary : Database where
  libraryTracks := some
    [⟨"t2", "Two", ""⟩, ⟨"t1", "One", ""⟩, ⟨"t3", "Three", ""⟩, ⟨"t4", "Four", ""⟩]
  trackArtists := some
    [⟨"t1", "ann"⟩, ⟨"t2", "bob"⟩, ⟨"t2", "ann"⟩, ⟨"t3", "ann"⟩, ⟨"t4", "bob"⟩]
  artists := some [⟨"ann", "Ann"⟩, ⟨"bob", "Bob"⟩]
  artistGenres := some [⟨"ann", "jazz"⟩, ⟨"ann", "rock"⟩, ⟨"bob", "rock"⟩]
  audioFeatures := some
    [⟨"t1", shortTrack 90⟩, ⟨"t2", shortTrack 120⟩, ⟨"t3", shortTrack 60⟩, ⟨"t4", shortTrack 120⟩]
  rootPlaylists := some [⟨"rock by Ann", "t3", true⟩, ⟨"jazz", "t3", true⟩]

/-- The third track is too slow, and the fourth is not by Ann. -/
theorem outcome_filterMatches_smallLibrary :
    (filterMatches rockByAnn).outcome smallLibrary = (.ok ["t1", "t2"], smallLibrary) := by
  have hjoin : Text.distinct ["t2", "t1"] = ["t1", "t2"] :=
    Text.distinct_eq_of_pairwise (by decide) (by simp [or_comm])
  refine (outcome_filterMatches_eq_ok rfl).mpr ⟨_, _, _, _, _, rfl, rfl, rfl, rfl, rfl, rfl, ?_⟩
  refine (Eq.trans (congrArg Text.distinct ?_) hjoin).symm
  decide +kernel

theorem admitted_smallLibrary :
    (∀ id, id ∈ ["t1", "t2"] ↔ rockByAnn.HasFilter ∧ rockByAnn.Admits smallLibrary id) ∧
      ∀ id, id ∈ ["t1", "t2"] ↔
        rockByAnn.HasFilter ∧ rockByAnn.AdmitsRangewise smallLibrary id := by
  have hkey : ((smallLibrary.audioFeatures.getD []).map FeatureRow.trackId).Nodup := by decide
  obtain ⟨-, -, hrow, hrange, -⟩ := filterMatches_eq_admitted outcome_filterMatches_smallLibrary
  exact ⟨hrow, hrange hkey⟩

end Store

end SmartPlaylist
