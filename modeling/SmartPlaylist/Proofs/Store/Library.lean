import SmartPlaylist.Proofs.Store.Outcome
import SmartPlaylist.Proofs.Text.ByteOrder
import SmartPlaylist.Store.Library

/-!
# Writing the library

What the writes of the library do to the tables, when these are there.  Artists and features are put
in the place of those with their ids, one record after another; the saved tracks and their links are
made anew.  A record that was written is no longer missing, and nothing else is.

## Main definitions

* `Store.replaced`, `Store.joined` — rows with one more.
* `Database.withArtists`, `Database.withFeatures`, `Database.withLibrary` — the database after a
  write.
* `Store.MissingFrom` — the ids that are referred to and not known, in the order of their bytes.

## Main results

* `Store.outcome_upsertArtists`, `Store.outcome_upsertFeatures`, `Store.outcome_replaceLibrary` —
  **what each write does.**
* `Store.exists_missingArtistIds`, `Store.exists_missingFeatureIds` — what is found missing.
-/

namespace SmartPlaylist

variable {α ρ κ : Type} [DecidableEq κ]

namespace Store

/-! ### Rows -/

/-- The rows with another one in place of those with its key. -/
def replaced (key : ρ → κ) (rows : List ρ) (row : ρ) : List ρ :=
  (rows.filter fun r => key r ≠ key row) ++ [row]

/-- The rows with another one, unless there is one with its key. -/
def joined (key : ρ → κ) (rows : List ρ) (row : ρ) : List ρ :=
  if rows.any fun r => key r = key row then rows else rows ++ [row]

/-- A row that is put in place of others has its key, and the other keys stay. -/
theorem mem_map_replaced {key : ρ → κ} {rows : List ρ} {row : ρ} {k : κ} :
    k ∈ (replaced key rows row).map key ↔ k ∈ rows.map key ∨ k = key row := by
  rw [replaced, List.map_append, List.mem_append, List.map_singleton, List.mem_singleton]
  by_cases hk : k = key row
  · simp [hk]
  · refine or_congr_left ?_
    simp only [List.mem_map, List.mem_filter, decide_eq_true_eq]
    constructor
    · rintro ⟨r, ⟨hr, -⟩, rfl⟩
      exact ⟨r, hr, rfl⟩
    · rintro ⟨r, hr, rfl⟩
      exact ⟨r, ⟨hr, hk⟩, rfl⟩

/-- The keys after several rows have been put. -/
theorem mem_map_foldl_replaced {key : ρ → κ} (row : α → ρ) {xs : List α} {rows : List ρ} {k : κ} :
    k ∈ (xs.foldl (fun rows x => replaced key rows (row x)) rows).map key ↔
      k ∈ rows.map key ∨ k ∈ xs.map fun x => key (row x) := by
  induction xs generalizing rows with
  | nil => simp
  | cons x xs ih => rw [List.foldl_cons, ih, mem_map_replaced, List.map_cons, List.mem_cons, or_assoc]

/-- Putting a row in place of others. -/
theorem outcome_insertOrReplace {t : Table ρ} {key : ρ → κ} {row : ρ} {rows : List ρ}
    {db : Database} (h : t.get db = some rows) :
    (insertOrReplace t key row).outcome db = (.ok (), t.set (some (replaced key rows row)) db) :=
  outcome_modifyRows_of_some h

/-- Deleting all rows. -/
theorem outcome_deleteAll {t : Table ρ} {rows : List ρ} {db : Database} (h : t.get db = some rows) :
    (deleteWhere t fun _ => true).outcome db = (.ok (), t.set (some []) db) := by
  rw [outcome_deleteWhere h, List.filter_eq_nil_iff.mpr (by simp)]

/-- Adding rows, each unless there is one with its key. -/
theorem outcome_forM_insertOrIgnore {t : Table ρ} [t.Lawful] {key : ρ → κ} (row : α → ρ)
    (xs : List α) {rows : List ρ} {db : Database} (h : t.get db = some rows) :
    (xs.forM fun x => insertOrIgnore t key (row x)).outcome db
      = (.ok (), t.set (some (xs.foldl (fun rows x => joined key rows (row x)) rows)) db) :=
  outcome_forM_modifyRows (fun x rows => joined key rows (row x)) xs rows db h

/-- Writes that each have an effect have it one after another. -/
theorem outcome_forM_of_effect {P : Database → Prop} {write : α → Action Unit}
    {effect : Database → List α → Database} (hnil : ∀ db, effect db [] = db)
    (happend : ∀ db xs ys, effect db (xs ++ ys) = effect (effect db xs) ys)
    (hwrite : ∀ x db, P db → (write x).outcome db = (.ok (), effect db [x]) ∧ P (effect db [x]))
    (xs : List α) {db : Database} (h : P db) :
    (xs.forM write).outcome db = (.ok (), effect db xs) := by
  induction xs generalizing db with
  | nil =>
    rw [hnil]
    rfl
  | cons x xs ih =>
    obtain ⟨hfirst, hP⟩ := hwrite x db h
    show (write x >>= fun _ => xs.forM write).outcome db = _
    rw [outcome_bind_of_ok hfirst, ih hP, ← happend, List.singleton_append]

theorem outcome_prepare {t : Table ρ} {db : Database} (h : (t.get db).isSome = true) :
    (prepare t).outcome db = (.ok (), db) := by
  obtain ⟨rows, hrows⟩ := Option.isSome_iff_exists.mp h
  rw [prepare, outcome_bind_of_ok (outcome_rows_of_some hrows)]
  rfl

end Store

/-! ### Artists -/

/-- An artist as it is stored. -/
def ArtistRecord.row (a : ArtistRecord) : ArtistRow := ⟨a.id, a.name⟩

/-- The genres with those of an artist in place of the ones that the artist had. -/
def ArtistRecord.genresIn (rows : List ArtistGenreRow) (a : ArtistRecord) : List ArtistGenreRow :=
  a.genres.foldl
    (fun rows genre => Store.joined (fun r => (r.artistId, r.genre)) rows ⟨a.id, genre⟩)
    (rows.filter fun r => !decide (r.artistId = a.id))

namespace Database

/-- The database with artists put into it, one after another. -/
def withArtists (db : Database) (artists : List ArtistRecord) : Database :=
  { db with
    artists := db.artists.map fun rows =>
      artists.foldl (fun rows a => Store.replaced ArtistRow.id rows a.row) rows
    artistGenres := db.artistGenres.map fun rows => artists.foldl ArtistRecord.genresIn rows }

/-- The tables for artists are there. -/
def HasArtists (db : Database) : Prop := db.artists.isSome ∧ db.artistGenres.isSome

theorem withArtists_nil (db : Database) : db.withArtists [] = db := by
  simp [withArtists]

theorem withArtists_append (db : Database) (xs ys : List ArtistRecord) :
    db.withArtists (xs ++ ys) = (db.withArtists xs).withArtists ys := by
  simp [withArtists, Function.comp_def]

theorem HasArtists.withArtists {db : Database} (h : db.HasArtists) (xs : List ArtistRecord) :
    (db.withArtists xs).HasArtists := by
  simpa [HasArtists, Database.withArtists] using h

end Database

namespace Store

variable {db : Database}

theorem outcome_writeArtist (a : ArtistRecord) (h : db.HasArtists) :
    (writeArtist a).outcome db = (.ok (), db.withArtists [a]) := by
  obtain ⟨rows, hrows⟩ := Option.isSome_iff_exists.mp h.1
  obtain ⟨genres, hgenres⟩ := Option.isSome_iff_exists.mp h.2
  have hput : (insertOrReplace .artists ArtistRow.id a.row).outcome db
      = (.ok (), { db with artists := some (replaced ArtistRow.id rows a.row) }) :=
    outcome_insertOrReplace hrows
  have hafter : db.withArtists [a] = { db with
      artists := some (replaced ArtistRow.id rows a.row)
      artistGenres := some (a.genresIn genres) } := by
    rw [Database.withArtists, hrows, hgenres]
    rfl
  rw [hafter]
  refine (outcome_bind_of_ok hput).trans ?_
  refine (outcome_bind_of_ok (outcome_deleteWhere hgenres)).trans ?_
  exact outcome_forM_insertOrIgnore (t := .artistGenres) (fun genre => ⟨a.id, genre⟩) a.genres rfl

/-- **Artists are put in place of those with their ids**, one after another. -/
theorem outcome_upsertArtists (artists : List ArtistRecord) (h : db.HasArtists) :
    (upsertArtists artists).outcome db = (.ok artists.length, db.withArtists artists) := by
  have hwritten : (artists.forM writeArtist).outcome db = (.ok (), db.withArtists artists) :=
    outcome_forM_of_effect Database.withArtists_nil Database.withArtists_append
      (fun a _ h => ⟨outcome_writeArtist a h, h.withArtists [a]⟩) artists h
  refine outcome_transaction_of_ok ?_
  rw [outcome_bind_of_ok (outcome_prepare h.1), outcome_bind_of_ok (outcome_prepare h.2),
    outcome_bind_of_ok hwritten]
  rfl

/-- Without the tables for artists nothing is written. -/
theorem exists_upsertArtists_error (artists : List ArtistRecord) (h : ¬db.HasArtists) :
    ∃ e, (upsertArtists artists).outcome db = (.error e, db) := by
  cases hartists : db.artists with
  | none =>
    have hmissing : (prepare .artists).outcome db = _ :=
      outcome_bind_of_error (outcome_rows_of_none hartists)
    exact ⟨_, outcome_transaction_of_error (outcome_bind_of_error hmissing)⟩
  | some rows =>
    have hthere : (prepare .artists).outcome db = (.ok (), db) :=
      outcome_prepare (Option.isSome_iff_exists.mpr ⟨rows, hartists⟩)
    cases hgenres : db.artistGenres with
    | none =>
      have hmissing : (prepare .artistGenres).outcome db = _ :=
        outcome_bind_of_error (outcome_rows_of_none hgenres)
      exact ⟨_, outcome_transaction_of_error
        ((outcome_bind_of_ok hthere).trans (outcome_bind_of_error hmissing))⟩
    | some genres => exact absurd ⟨by rw [hartists]; rfl, by rw [hgenres]; rfl⟩ h

end Store

/-! ### Features -/

/-- The features of a track as they are stored. -/
def FeatureRecord.row (f : FeatureRecord) : FeatureRow := ⟨f.trackId, Store.storedFeatures f.values⟩

/-- The database with features put into it, one track after another. -/
def Database.withFeatures (db : Database) (features : List FeatureRecord) : Database :=
  { db with
    audioFeatures := db.audioFeatures.map fun rows =>
      features.foldl (fun rows f => Store.replaced FeatureRow.trackId rows f.row) rows }

theorem Database.withFeatures_nil (db : Database) : db.withFeatures [] = db := by
  simp [withFeatures]

theorem Database.withFeatures_append (db : Database) (xs ys : List FeatureRecord) :
    db.withFeatures (xs ++ ys) = (db.withFeatures xs).withFeatures ys := by
  simp [withFeatures, Function.comp_def]

/-- **Features are put in place of those of the same tracks**, one after another. -/
theorem Store.outcome_upsertFeatures {db : Database} (features : List FeatureRecord)
    (h : db.audioFeatures.isSome) :
    (upsertFeatures features).outcome db = (.ok features.length, db.withFeatures features) := by
  obtain ⟨rows, hrows⟩ := Option.isSome_iff_exists.mp h
  have hwritten : (features.forM fun f =>
      insertOrReplace .audioFeatures FeatureRow.trackId f.row).outcome db
        = (.ok (), db.withFeatures features) := by
    rw [Database.withFeatures, hrows]
    exact outcome_forM_modifyRows (t := .audioFeatures)
      (fun f rows => replaced FeatureRow.trackId rows f.row) features rows db hrows
  refine outcome_transaction_of_ok ?_
  rw [outcome_bind_of_ok (outcome_prepare h)]
  exact outcome_bind_of_ok hwritten

/-- Without the table for features nothing is written. -/
theorem Store.exists_upsertFeatures_error {db : Database} (features : List FeatureRecord)
    (h : ¬db.audioFeatures.isSome) :
    ∃ e, (upsertFeatures features).outcome db = (.error e, db) := by
  have hnone : Table.audioFeatures.get db = none := Option.not_isSome_iff_eq_none.mp h
  have hmissing : (prepare .audioFeatures).outcome db = _ :=
    outcome_bind_of_error (outcome_rows_of_none hnone)
  exact ⟨_, outcome_transaction_of_error (outcome_bind_of_error hmissing)⟩

/-! ### Saved tracks -/

/-- A saved track as it is stored. -/
def LibraryTrack.row (t : LibraryTrack) : LibraryTrackRow :=
  ⟨t.trackId, t.name, t.dateAdded.storedText⟩

/-- The links with those of a track to its artists. -/
def LibraryTrack.linksIn (links : List TrackArtistRow) (t : LibraryTrack) : List TrackArtistRow :=
  t.artistIds.foldl
    (fun links artistId => Store.joined (fun r => (r.trackId, r.artistId)) links
      ⟨t.trackId, artistId⟩)
    links

namespace Database

/-- The database with saved tracks put into it, one after another. -/
def withTracks (db : Database) (tracks : List LibraryTrack) : Database :=
  { db with
    libraryTracks := db.libraryTracks.map fun rows =>
      tracks.foldl (fun rows t => Store.replaced LibraryTrackRow.trackId rows t.row) rows
    trackArtists := db.trackArtists.map fun links => tracks.foldl LibraryTrack.linksIn links }

/-- The tables for saved tracks are there. -/
def HasTracks (db : Database) : Prop := db.libraryTracks.isSome ∧ db.trackArtists.isSome

theorem withTracks_nil (db : Database) : db.withTracks [] = db := by
  simp [withTracks]

theorem withTracks_append (db : Database) (xs ys : List LibraryTrack) :
    db.withTracks (xs ++ ys) = (db.withTracks xs).withTracks ys := by
  simp [withTracks, Function.comp_def]

theorem HasTracks.withTracks {db : Database} (h : db.HasTracks) (xs : List LibraryTrack) :
    (db.withTracks xs).HasTracks := by
  simpa [HasTracks, Database.withTracks] using h

/-- The database with these saved tracks and no others. -/
def withLibrary (db : Database) (tracks : List LibraryTrack) : Database :=
  { db with
    libraryTracks :=
      some (tracks.foldl (fun rows t => Store.replaced LibraryTrackRow.trackId rows t.row) [])
    trackArtists := some (tracks.foldl LibraryTrack.linksIn []) }

end Database

namespace Store

variable {db : Database}

theorem outcome_writeTrack (t : LibraryTrack) (h : db.HasTracks) :
    (writeTrack t).outcome db = (.ok (), db.withTracks [t]) := by
  obtain ⟨rows, hrows⟩ := Option.isSome_iff_exists.mp h.1
  obtain ⟨links, hlinks⟩ := Option.isSome_iff_exists.mp h.2
  have hput : (insertOrReplace .libraryTracks LibraryTrackRow.trackId t.row).outcome db
      = (.ok (), { db with libraryTracks := some (replaced LibraryTrackRow.trackId rows t.row) }) :=
    outcome_insertOrReplace hrows
  have hafter : db.withTracks [t] = { db with
      libraryTracks := some (replaced LibraryTrackRow.trackId rows t.row)
      trackArtists := some (t.linksIn links) } := by
    rw [Database.withTracks, hrows, hlinks]
    rfl
  rw [hafter]
  refine (outcome_bind_of_ok hput).trans ?_
  exact outcome_forM_insertOrIgnore (t := .trackArtists) (fun artistId => ⟨t.trackId, artistId⟩)
    t.artistIds hlinks

/-- **The library is made anew**, whatever it was before. -/
theorem outcome_replaceLibrary (tracks : List LibraryTrack) (h : db.HasTracks) :
    (replaceLibrary tracks).outcome db = (.ok tracks.length, db.withLibrary tracks) := by
  obtain ⟨rows, hrows⟩ := Option.isSome_iff_exists.mp h.1
  obtain ⟨links, hlinks⟩ := Option.isSome_iff_exists.mp h.2
  have hunlinked : (deleteWhere .trackArtists fun _ => true).outcome db
      = (.ok (), { db with trackArtists := some [] }) := outcome_deleteAll hlinks
  have hcleared : (deleteWhere .libraryTracks fun _ => true).outcome
      { db with trackArtists := some [] }
        = (.ok (), { db with trackArtists := some [], libraryTracks := some [] }) :=
    outcome_deleteAll hrows
  have hwritten : (tracks.forM writeTrack).outcome
      { db with trackArtists := some [], libraryTracks := some [] }
        = (.ok (), db.withLibrary tracks) :=
    outcome_forM_of_effect Database.withTracks_nil Database.withTracks_append
      (fun t _ h => ⟨outcome_writeTrack t h, h.withTracks [t]⟩) tracks ⟨rfl, rfl⟩
  refine outcome_transaction_of_ok ?_
  rw [outcome_bind_of_ok hunlinked, outcome_bind_of_ok hcleared, outcome_bind_of_ok hwritten]
  rfl

/-- Without its tables the library stays as it is. -/
theorem exists_replaceLibrary_error (tracks : List LibraryTrack) (h : ¬db.HasTracks) :
    ∃ e, (replaceLibrary tracks).outcome db = (.error e, db) := by
  cases hlinks : db.trackArtists with
  | none =>
    exact ⟨_, outcome_transaction_of_error
      (outcome_bind_of_error (outcome_deleteWhere_of_none hlinks))⟩
  | some links =>
    cases htracks : db.libraryTracks with
    | none =>
      exact ⟨_, outcome_transaction_of_error ((outcome_bind_of_ok (outcome_deleteAll hlinks)).trans
        (outcome_bind_of_error (outcome_deleteWhere_of_none htracks)))⟩
    | some rows => exact absurd ⟨by rw [htracks]; rfl, by rw [hlinks]; rfl⟩ h

/-- The other tables stay as they are. -/
theorem database_replaceLibrary (tracks : List LibraryTrack) (db : Database) :
    ((replaceLibrary tracks).outcome db).2 = { db with
      libraryTracks := ((replaceLibrary tracks).outcome db).2.libraryTracks
      trackArtists := ((replaceLibrary tracks).outcome db).2.trackArtists } := by
  by_cases h : db.HasTracks
  · rw [outcome_replaceLibrary tracks h]
    rfl
  · obtain ⟨e, hsame⟩ := exists_replaceLibrary_error tracks h
    rw [hsame]

/-! ### What is missing -/

/-- The ids that are referred to and not known, each once and in the order of their bytes. -/
structure MissingFrom (referenced known ids : List String) : Prop where
  ordered : ids.Pairwise fun a b => Text.utf8 a < Text.utf8 b
  mem_iff : ∀ {id}, id ∈ ids ↔ id ∈ referenced ∧ id ∉ known

namespace MissingFrom

variable {referenced known known' new ids ids' : List String}

theorem pairwise_lt (h : MissingFrom referenced known ids) : ids.Pairwise (· < ·) :=
  h.ordered.imp Text.utf8_lt_utf8.mp

theorem of_pairwise (hordered : ids.Pairwise (· < ·))
    (hmem : ∀ {id}, id ∈ ids ↔ id ∈ referenced ∧ id ∉ known) : MissingFrom referenced known ids :=
  ⟨hordered.imp Text.utf8_lt_utf8.mpr, hmem⟩

/-- There is one such list only. -/
theorem unique (h : MissingFrom referenced known ids) (h' : MissingFrom referenced known ids') :
    ids = ids' :=
  Text.eq_of_pairwise h.pairwise_lt h'.pairwise_lt fun _ => h.mem_iff.trans h'.mem_iff.symm

/-- What becomes known is no longer missing. -/
theorem filter (h : MissingFrom referenced known ids)
    (hnew : ∀ id, id ∈ known' ↔ id ∈ known ∨ id ∈ new) :
    MissingFrom referenced known' (ids.filter fun id => id ∉ new) where
  ordered := h.ordered.filter _
  mem_iff := by
    intro id
    rw [List.mem_filter, h.mem_iff, hnew, decide_eq_true_eq, not_or, and_assoc]

end MissingFrom

/-- The artists that are found missing. -/
theorem exists_missingArtistIds {links : List TrackArtistRow} {artists : List ArtistRow}
    (hlinks : db.trackArtists = some links) (hartists : db.artists = some artists) :
    ∃ ids, missingArtistIds.outcome db = (.ok ids, db) ∧
      MissingFrom (links.map TrackArtistRow.artistId) (artists.map ArtistRow.id) ids := by
  have houtcome : missingArtistIds.outcome db = (.ok (Text.distinct
      ((links.map TrackArtistRow.artistId).filter fun id => !artists.any fun a => a.id = id)), db) := by
    rw [missingArtistIds, outcome_bind_of_ok (outcome_rows_of_some (t := .trackArtists) hlinks),
      outcome_bind_of_ok (outcome_rows_of_some (t := .artists) hartists)]
    rfl
  refine ⟨_, houtcome, .of_pairwise (Text.pairwise_distinct _) fun {id} => ?_⟩
  rw [Text.mem_distinct, List.mem_filter]
  simp

/-- The tracks that are found to be without features, where no track is saved twice. -/
theorem exists_missingFeatureIds {tracks : List LibraryTrackRow} {features : List FeatureRow}
    (htracks : db.libraryTracks = some tracks) (hfeatures : db.audioFeatures = some features)
    (hkey : (tracks.map LibraryTrackRow.trackId).Nodup) :
    ∃ ids, missingFeatureIds.outcome db = (.ok ids, db) ∧
      MissingFrom (tracks.map LibraryTrackRow.trackId) (features.map FeatureRow.trackId) ids := by
  have houtcome : missingFeatureIds.outcome db = (.ok (Text.sorted
      ((tracks.map LibraryTrackRow.trackId).filter fun id =>
        !features.any fun f => f.trackId = id)), db) := by
    rw [missingFeatureIds, outcome_bind_of_ok (outcome_rows_of_some (t := .libraryTracks) htracks),
      outcome_bind_of_ok (outcome_rows_of_some (t := .audioFeatures) hfeatures)]
    rfl
  refine ⟨_, houtcome, .of_pairwise (Text.pairwise_sorted_of_nodup (hkey.filter _)) fun {id} => ?_⟩
  rw [Text.mem_sorted, List.mem_filter]
  simp

end Store

end SmartPlaylist
