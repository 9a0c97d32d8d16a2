import SmartPlaylist.Proofs.Filter.Matches

/-!
# Dimensions of a filter

A definition filters by artist, by genre, and by each feature that has a range with a bound, and a
track must pass all of these *dimensions*.  The ranges are asked of the one row that a track has, so
each can be asked for in a query of its own.  Names and genres are asked of one artist of the track:
a track by an artist of the name and by another one of the genre passes a query for the name and a
query for the genre, but no query for both.  These two dimensions are joined, and the query for all
dimensions is the intersection of the queries for each with those joined to it.

## Main definitions

* `Dimension`, `Dimension.joins` — what a definition may filter by, and what is asked of one artist.
* `Definition.Configures`, `Definition.keeping` — the dimensions that a definition filters by, and
  the definition with some of them alone.
* `Definition.AdmitsBy` — what some of the dimensions ask of a track.

## Main results

* `Definition.admitsRangewise_keeping_iff` — the kept dimensions ask what they asked before.
* `Definition.admitsBy_iff_forall_joined` — **joined dimensions are asked for on their own.**
* `Store.filterMatches_conjunctive` — the same for the matches.
-/

namespace SmartPlaylist

/-! ### Dimensions -/

/-- What a definition may filter by. -/
inductive Dimension where
  | artists
  | genres
  | feature (f : Feature)
  deriving DecidableEq, Repr

namespace Dimension

/-- Whether the dimension is asked of an artist of the track. -/
def IsOfArtist : Dimension → Prop
  | feature _ => False
  | _ => True

/-- Names and genres are joined; apart from that a dimension is joined to itself alone. -/
def joins : Dimension → Dimension → Bool
  | feature f, feature g => f = g
  | feature _, _ => false
  | _, feature _ => false
  | _, _ => true

theorem joins_iff {k k' : Dimension} :
    k.joins k' = true ↔ k' = k ∨ k.IsOfArtist ∧ k'.IsOfArtist := by
  cases k <;> cases k' <;> simp [joins, IsOfArtist, eq_comm]

theorem joins_self (k : Dimension) : k.joins k = true := joins_iff.mpr (Or.inl rfl)

end Dimension

namespace Definition

variable {d : Definition} {keeps : Dimension → Bool} {asked asked' : Dimension → Prop}
  {k : Dimension} {db : Database} {id : String}

/-- The dimensions that a definition filters by. -/
def Configures (d : Definition) : Dimension → Prop
  | .artists => d.artists ≠ []
  | .genres => d.genres ≠ []
  | .feature f => ∃ r, (f, r) ∈ d.ranges ∧ r.IsBounded

/-- The definition with some of its dimensions alone. -/
def keeping (d : Definition) (keeps : Dimension → Bool) : Definition where
  name := d.name
  features := d.features.map fun ranges => ranges.filter fun range => keeps (.feature range.1)
  genres := if keeps .genres then d.genres else []
  artists := if keeps .artists then d.artists else []
  pins := d.pins

/-- A definition has a filter when it filters by some dimension. -/
theorem hasFilter_iff_exists_configures : d.HasFilter ↔ ∃ k, d.Configures k := by
  constructor
  · rintro (hartists | hgenres | ⟨f, r, hrange⟩)
    · exact ⟨.artists, hartists⟩
    · exact ⟨.genres, hgenres⟩
    · exact ⟨.feature f, r, hrange⟩
  · rintro ⟨k, hk⟩
    cases k with
    | artists => exact Or.inl hk
    | genres => exact Or.inr (Or.inl hk)
    | feature f =>
      obtain ⟨r, hrange⟩ := hk
      exact Or.inr (Or.inr ⟨f, r, hrange⟩)

/-! ### What a dimension asks -/

/-- Some row of features of the track lies within each range of a feature. -/
def MeetsRanges (d : Definition) (db : Database) (id : String) (f : Feature) : Prop :=
  ∀ r, (f, r) ∈ d.ranges → r.IsBounded →
    ∃ row ∈ db.audioFeatures.getD [], row.trackId = id ∧ row.Meets f r

/-- What a dimension asks of an artist, given by id. -/
def Suits (d : Definition) (db : Database) (artistId : String) : Dimension → Prop
  | .artists => ∃ a ∈ db.artists.getD [], a.id = artistId ∧ a.name ∈ d.artists
  | .genres => ∃ g ∈ db.artistGenres.getD [], g.artistId = artistId ∧ g.genre ∈ d.genres
  | .feature _ => True

/-- A dimension that is not of artists asks nothing of them. -/
theorem suits_of_not_isOfArtist {artistId : String} (h : ¬k.IsOfArtist) :
    d.Suits db artistId k := by
  cases k with
  | artists => exact absurd trivial h
  | genres => exact absurd trivial h
  | feature f => exact trivial

/-- What some of the dimensions ask of a track.  Those that are of artists ask it of the same
one. -/
structure AdmitsBy (d : Definition) (db : Database) (id : String) (asked : Dimension → Prop) :
    Prop where
  saved : ∃ t ∈ db.libraryTracks.getD [], t.trackId = id
  features : ∀ f, asked (.feature f) → d.MeetsRanges db id f
  artist : ∀ k, asked k → k.IsOfArtist →
    ∃ l ∈ db.trackArtists.getD [], l.trackId = id ∧ ∀ k', asked k' → d.Suits db l.artistId k'

theorem admitsArtist_iff {artistId : String} :
    d.AdmitsArtist (db.artists.getD []) (db.artistGenres.getD []) artistId ↔
      ∀ k, d.Configures k → d.Suits db artistId k := by
  constructor
  · rintro ⟨hname, hgenre⟩ k hk
    cases k with
    | artists => exact hname hk
    | genres => exact hgenre hk
    | feature f => exact trivial
  · intro h
    exact ⟨h .artists, h .genres⟩

/-- A definition asks what its dimensions ask. -/
theorem admitsRangewise_iff : d.AdmitsRangewise db id ↔ d.AdmitsBy db id d.Configures := by
  constructor
  · rintro ⟨hsaved, hfeatures, hlink⟩
    simp only [admitsArtist_iff] at hlink
    refine ⟨hsaved, fun f _ r hmem hr => hfeatures f r hmem hr, fun k hk hartist => hlink ?_⟩
    cases k with
    | artists => exact Or.inl hk
    | genres => exact Or.inr hk
    | feature f => exact hartist.elim
  · rintro ⟨hsaved, hfeatures, hlink⟩
    refine ⟨hsaved, fun f r hmem hr => hfeatures f ⟨r, hmem, hr⟩ r hmem hr, ?_⟩
    simp only [admitsArtist_iff]
    rintro (hartists | hgenres)
    · exact hlink .artists hartists trivial
    · exact hlink .genres hgenres trivial

/-! ### The kept dimensions -/

theorem mem_ranges_keeping {f : Feature} {r : FeatureRange} :
    (f, r) ∈ (d.keeping keeps).ranges ↔ (f, r) ∈ d.ranges ∧ keeps (.feature f) = true := by
  unfold ranges keeping
  cases d.features with
  | none => simp
  | some ranges => simp [List.mem_filter]

/-- The kept dimensions that the definition filtered by are those that it still filters by. -/
theorem configures_keeping_iff :
    (d.keeping keeps).Configures k ↔ keeps k = true ∧ d.Configures k := by
  cases k with
  | artists =>
    unfold keeping
    cases keeps .artists <;> simp [Configures]
  | genres =>
    unfold keeping
    cases keeps .genres <;> simp [Configures]
  | feature f =>
    simp only [Configures, mem_ranges_keeping]
    tauto

theorem hasFilter_keeping (hk : d.Configures k) (hkeeps : keeps k = true) :
    (d.keeping keeps).HasFilter :=
  hasFilter_iff_exists_configures.mpr ⟨k, configures_keeping_iff.mpr ⟨hkeeps, hk⟩⟩

theorem meetsRanges_keeping_iff {f : Feature} (hkeeps : keeps (.feature f) = true) :
    (d.keeping keeps).MeetsRanges db id f ↔ d.MeetsRanges db id f := by
  simp only [MeetsRanges, mem_ranges_keeping, hkeeps, and_true]

theorem suits_keeping_iff {artistId : String} (hkeeps : keeps k = true) :
    (d.keeping keeps).Suits db artistId k ↔ d.Suits db artistId k := by
  cases k <;> simp [Suits, keeping, hkeeps]

/-- The kept dimensions ask what they asked before. -/
theorem admitsRangewise_keeping_iff :
    (d.keeping keeps).AdmitsRangewise db id ↔
      d.AdmitsBy db id fun k => keeps k = true ∧ d.Configures k := by
  rw [admitsRangewise_iff]
  constructor
  · rintro ⟨hsaved, hfeatures, hlink⟩
    refine ⟨hsaved, fun f hf => ?_, fun k hk hartist => ?_⟩
    · exact (meetsRanges_keeping_iff hf.1).mp (hfeatures f (configures_keeping_iff.mpr hf))
    · obtain ⟨l, hl, hid, hsuits⟩ := hlink k (configures_keeping_iff.mpr hk) hartist
      refine ⟨l, hl, hid, fun k' hk' => ?_⟩
      exact (suits_keeping_iff hk'.1).mp (hsuits k' (configures_keeping_iff.mpr hk'))
  · rintro ⟨hsaved, hfeatures, hlink⟩
    refine ⟨hsaved, fun f hf => ?_, fun k hk hartist => ?_⟩
    · have hkept := configures_keeping_iff.mp hf
      exact (meetsRanges_keeping_iff hkept.1).mpr (hfeatures f hkept)
    · obtain ⟨l, hl, hid, hsuits⟩ := hlink k (configures_keeping_iff.mp hk) hartist
      refine ⟨l, hl, hid, fun k' hk' => ?_⟩
      have hkept := configures_keeping_iff.mp hk'
      exact (suits_keeping_iff hkept.1).mpr (hsuits k' hkept)

/-! ### Joined dimensions -/

/-- Fewer dimensions admit whatever more of them admit. -/
theorem AdmitsBy.mono (h : d.AdmitsBy db id asked) (hle : ∀ k, asked' k → asked k) :
    d.AdmitsBy db id asked' := by
  refine ⟨h.saved, fun f hf => h.features f (hle _ hf), fun k hk hartist => ?_⟩
  obtain ⟨l, hl, hid, hsuits⟩ := h.artist k (hle k hk) hartist
  exact ⟨l, hl, hid, fun k' hk' => hsuits k' (hle k' hk')⟩

/-- **Joined dimensions are asked for on their own**: several dimensions admit a track when each of
them, with those joined to it, does. -/
theorem admitsBy_iff_forall_joined (hasked : ∃ k, asked k) :
    d.AdmitsBy db id asked ↔
      ∀ k, asked k → d.AdmitsBy db id fun k' => k.joins k' = true ∧ asked k' := by
  constructor
  · intro h k _
    exact h.mono fun k' hk' => hk'.2
  · intro h
    obtain ⟨first, hfirst⟩ := hasked
    refine ⟨(h first hfirst).saved, fun f hf => ?_, fun k hk hartist => ?_⟩
    · exact (h (.feature f) hf).features f ⟨Dimension.joins_self _, hf⟩
    · obtain ⟨l, hl, hid, hsuits⟩ := (h k hk).artist k ⟨k.joins_self, hk⟩ hartist
      refine ⟨l, hl, hid, fun k' hk' => ?_⟩
      by_cases hartist' : k'.IsOfArtist
      · exact hsuits k' ⟨Dimension.joins_iff.mpr (Or.inr ⟨hartist, hartist'⟩), hk'⟩
      · exact suits_of_not_isOfArtist hartist'

/-- Where no two dimensions are joined, each is asked for alone. -/
theorem admitsBy_iff_forall_alone (hasked : ∃ k, asked k)
    (halone : ¬(asked .artists ∧ asked .genres)) :
    d.AdmitsBy db id asked ↔
      ∀ k, asked k → d.AdmitsBy db id fun k' => decide (k' = k) = true ∧ asked k' := by
  rw [admitsBy_iff_forall_joined hasked]
  refine forall_congr' fun k => forall_congr' fun hk => ?_
  have hsame (k' : Dimension) :
      k.joins k' = true ∧ asked k' ↔ decide (k' = k) = true ∧ asked k' := by
    rw [Dimension.joins_iff, decide_eq_true_iff]
    refine and_congr_left fun hk' => or_iff_left_of_imp ?_
    -- two dimensions of artists would be names and genres
    rintro ⟨hartist, hartist'⟩
    cases k with
    | feature f => exact hartist.elim
    | artists =>
      cases k' with
      | feature f => exact hartist'.elim
      | artists => rfl
      | genres => exact absurd ⟨hk, hk'⟩ halone
    | genres =>
      cases k' with
      | feature f => exact hartist'.elim
      | artists => exact absurd ⟨hk', hk⟩ halone
      | genres => rfl
  simp only [hsame]

end Definition

/-! ### The matches -/

namespace Store

variable {d : Definition} {db : Database}

/-- The joined rows of the whole library. -/
def joinedLibrary : Action (List JoinedRow) := do
  let tracks ← rows .libraryTracks
  let links ← rows .trackArtists
  let artists ← rows .artists
  let genres ← rows .artistGenres
  let features ← rows .audioFeatures
  return joinedRows tracks links artists genres features

theorem keeps_joinedLibrary {p : Database → Prop} : Keeps p joinedLibrary :=
  (Keeps.rows _).bind fun _ => (Keeps.rows _).bind fun _ => (Keeps.rows _).bind fun _ =>
    (Keeps.rows _).bind fun _ => (Keeps.rows _).bind fun _ => .pure _

theorem filterMatches_of_hasFilter (h : d.HasFilter) :
    filterMatches d = (do
      let joined ← joinedLibrary
      return Text.distinct
        ((joined.filter fun r => (Predicate.ofDefinition d).holds r).map JoinedRow.trackId)) := by
  rw [filterMatches, if_pos (Definition.hasFilters_eq_true_iff.mpr h)]
  simp only [joinedLibrary, bind_assoc, pure_bind]

/-- Whether the matches can be read is the same for all definitions with filters. -/
theorem outcome_filterMatches_of_hasFilter (db : Database) :
    (∃ e, ∀ d : Definition, d.HasFilter → (filterMatches d).outcome db = (.error e, db)) ∨
      ∃ found : Definition → List String, ∀ d : Definition, d.HasFilter →
        (filterMatches d).outcome db = (.ok (found d), db) := by
  obtain ⟨e | joined, hrows⟩ := Keeps.exists_outcome (fun _ => keeps_joinedLibrary) db
  · refine Or.inl ⟨e, fun d hd => ?_⟩
    rw [filterMatches_of_hasFilter hd]
    exact outcome_bind_of_error hrows
  · refine Or.inr ⟨fun d => Text.distinct ((joined.filter fun r =>
      (Predicate.ofDefinition d).holds r).map JoinedRow.trackId), fun d hd => ?_⟩
    rw [filterMatches_of_hasFilter hd, outcome_bind_of_ok hrows]
    rfl

/-- **The query for all dimensions is the intersection of the queries for each with those joined to
it.**  Its matches always match each dimension alone, and they are all that do unless both names and
genres are asked for.  Features have the track as their key, as the schema says. -/
theorem filterMatches_conjunctive (hfilter : d.HasFilter)
    (hkey : ((db.audioFeatures.getD []).map FeatureRow.trackId).Nodup) :
    (∃ e, (filterMatches d).outcome db = (.error e, db) ∧
      ∀ keeps k, d.Configures k → keeps k = true →
        (filterMatches (d.keeping keeps)).outcome db = (.error e, db)) ∨
    ∃ (ids : List String) (part : (Dimension → Bool) → List String),
      (filterMatches d).outcome db = (.ok ids, db) ∧
      (∀ keeps k, d.Configures k → keeps k = true →
        (filterMatches (d.keeping keeps)).outcome db = (.ok (part keeps), db)) ∧
      (∀ id, id ∈ ids ↔ ∀ k, d.Configures k → id ∈ part k.joins) ∧
      (∀ id ∈ ids, ∀ k, d.Configures k → id ∈ part fun k' => k' = k) ∧
      (¬(d.artists ≠ [] ∧ d.genres ≠ []) →
        ∀ id, id ∈ ids ↔ ∀ k, d.Configures k → id ∈ part fun k' => k' = k) := by
  rcases outcome_filterMatches_of_hasFilter db with ⟨e, herror⟩ | ⟨found, hfound⟩
  · refine Or.inl ⟨e, herror d hfilter, fun keeps k hk hkeeps => ?_⟩
    exact herror _ (Definition.hasFilter_keeping hk hkeeps)
  · have hpart (keeps : Dimension → Bool) (k : Dimension) (hk : d.Configures k)
        (hkeeps : keeps k = true) (id : String) : id ∈ found (d.keeping keeps) ↔
          d.AdmitsBy db id fun k' => keeps k' = true ∧ d.Configures k' := by
      have hkept : (d.keeping keeps).HasFilter := Definition.hasFilter_keeping hk hkeeps
      rw [mem_filterMatches_iff (hfound _ hkept), Definition.admits_iff_admitsRangewise hkey,
        Definition.admitsRangewise_keeping_iff]
      exact and_iff_right hkept
    have hall (id : String) : id ∈ found d ↔ d.AdmitsBy db id d.Configures := by
      rw [mem_filterMatches_iff (hfound d hfilter), Definition.admits_iff_admitsRangewise hkey,
        Definition.admitsRangewise_iff]
      exact and_iff_right hfilter
    have hsome := Definition.hasFilter_iff_exists_configures.mp hfilter
    refine Or.inr ⟨found d, fun keeps => found (d.keeping keeps), hfound d hfilter,
      fun keeps k hk hkeeps => hfound _ (Definition.hasFilter_keeping hk hkeeps),
      fun id => ?_, fun id hid k hk => ?_, fun halone id => ?_⟩
    · rw [hall, Definition.admitsBy_iff_forall_joined hsome]
      refine forall_congr' fun k => forall_congr' fun hk => ?_
      exact (hpart _ k hk k.joins_self id).symm
    · refine (hpart _ k hk (decide_eq_true rfl) id).mpr ?_
      exact ((hall id).mp hid).mono fun k' hk' => hk'.2
    · rw [hall, Definition.admitsBy_iff_forall_alone hsome halone]
      refine forall_congr' fun k => forall_congr' fun hk => ?_
      exact (hpart _ k hk (decide_eq_true rfl) id).symm

/-! #### One artist or two -/

/-- Jazz by Ann. -/
def jazzByAnn : Definition where
  name := "jazz by Ann"
  features := none
  genres := ["jazz"]
  artists := ["Ann"]
  pins := []

/-- A track by Ann, who plays rock, and Bob, who plays jazz. -/
def duet : Database where
  libraryTracks := some [⟨"t1", "One", ""⟩]
  trackArtists := some [⟨"t1", "ann"⟩, ⟨"t1", "bob"⟩]
  artists := some [⟨"ann", "Ann"⟩, ⟨"bob", "Bob"⟩]
  artistGenres := some [⟨"ann", "rock"⟩, ⟨"bob", "jazz"⟩]
  audioFeatures := some []

/-- The track matches either dimension alone, and not the two together. -/
theorem filterMatches_duet :
    jazzByAnn.HasFilter ∧ (filterMatches jazzByAnn).outcome duet = (.ok [], duet) ∧
      ∀ k, jazzByAnn.Configures k →
        (filterMatches (jazzByAnn.keeping fun k' => k' = k)).outcome duet = (.ok ["t1"], duet) := by
  refine ⟨Or.inl (by decide), ?_, fun k hk => ?_⟩
  · refine (outcome_filterMatches_eq_ok rfl).mpr ⟨_, _, _, _, _, rfl, rfl, rfl, rfl, rfl, rfl, ?_⟩
    decide +kernel
  · cases k with
    | artists =>
      refine (outcome_filterMatches_eq_ok rfl).mpr
        ⟨_, _, _, _, _, rfl, rfl, rfl, rfl, rfl, rfl, ?_⟩
      decide +kernel
    | genres =>
      refine (outcome_filterMatches_eq_ok rfl).mpr
        ⟨_, _, _, _, _, rfl, rfl, rfl, rfl, rfl, rfl, ?_⟩
      decide +kernel
    | feature f =>
      obtain ⟨r, hr, -⟩ := hk
      exact absurd hr (List.not_mem_nil)

/-- Rock by Ann is asked for in one query, and each range in one of its own. -/
theorem filterMatches_rockByAnn :
    ∃ part : (Dimension → Bool) → List String,
      (∀ keeps k, rockByAnn.Configures k → keeps k = true →
        (filterMatches (rockByAnn.keeping keeps)).outcome smallLibrary
          = (.ok (part keeps), smallLibrary)) ∧
      ∀ id, id ∈ ["t1", "t2"] ↔ ∀ k, rockByAnn.Configures k → id ∈ part k.joins := by
  have hfilter : rockByAnn.HasFilter := Or.inl (by decide)
  have hkey : ((smallLibrary.audioFeatures.getD []).map FeatureRow.trackId).Nodup := by decide
  rcases filterMatches_conjunctive hfilter hkey with
    ⟨e, herror, -⟩ | ⟨ids, part, hids, hpart, hjoined, -, -⟩
  · rw [outcome_filterMatches_smallLibrary] at herror
    nomatch (Prod.mk.inj herror).1
  · rw [outcome_filterMatches_smallLibrary] at hids
    obtain rfl := Except.ok.inj (Prod.mk.inj hids).1
    exact ⟨part, hpart, hjoined⟩

end Store

end SmartPlaylist
