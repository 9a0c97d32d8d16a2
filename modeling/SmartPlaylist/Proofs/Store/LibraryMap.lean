import SmartPlaylist.Proofs.Filter.Matches
import SmartPlaylist.Proofs.Store.Library
import SmartPlaylist.Proofs.Time.StoredText

/-!
# The library tables are maps

Whatever records are written into the library, in any order and however often an id comes back, each
table holds what the last record of each id says: a row for the track, artist or track with features,
and the genres of the artist.  Only the links of tracks to artists come from all the records of the
last replacement.  Nothing else of earlier records is left.

## Main definitions

* `Store.IsLast`, `Store.LastRows` — the last record of its key, and rows for just these.
* `LibraryWrite`, `Written` — a write of the library, and what has been written.
* `Database.Mirrors` — the five tables say what has been written.

## Main results

* `Store.LastRows.replaced` — putting a row keeps a table a map.
* `FeatureRecord.extended?_row` — a feature is stored as the number that it is.
* `LibraryWrite.exists_perform` — each write keeps `Database.Mirrors`.
* `LibraryWrite.mapM_perform_mirrors` — **the tables are maps after any writes.**
-/

namespace SmartPlaylist

variable {α ρ κ : Type}

namespace Store

/-! ### The last record of a key -/

/-- The record stands among others, and none of its key comes after it. -/
def IsLast (key : α → κ) (xs : List α) (x : α) : Prop :=
  ∃ front back, xs = front ++ x :: back ∧ ∀ y ∈ back, key y ≠ key x

theorem not_isLast_nil {key : α → κ} {x : α} : ¬IsLast key [] x := by
  rintro ⟨front, back, heq, -⟩
  exact absurd heq (by simp)

/-- One more record is the last of its key, and the last of the other keys stay what they are. -/
theorem isLast_append_singleton {key : α → κ} {xs : List α} {x y : α} :
    IsLast key (xs ++ [y]) x ↔ x = y ∨ key x ≠ key y ∧ IsLast key xs x := by
  constructor
  · rintro ⟨front, back, heq, hback⟩
    rcases List.eq_nil_or_concat back with rfl | ⟨back, z, rfl⟩
    · left
      exact (List.concat_inj.mp (by simpa using heq.symm)).2
    · right
      rw [List.concat_eq_append] at heq hback
      rw [← List.cons_append, ← List.append_assoc] at heq
      obtain ⟨rfl, hz⟩ := List.append_inj' heq rfl
      obtain rfl : y = z := by simpa using hz
      refine ⟨(hback y (by simp)).symm, front, back, rfl, fun w hw => ?_⟩
      exact hback w (List.mem_append_left _ hw)
  · rintro (rfl | ⟨hne, front, back, rfl, hback⟩)
    · exact ⟨xs, [], rfl, List.forall_mem_nil _⟩
    · refine ⟨front, back ++ [y], by simp, fun w hw => ?_⟩
      rcases List.mem_append.mp hw with hw | hw
      · exact hback w hw
      · rw [List.mem_singleton.mp hw]
        exact hne.symm

/-! ### Rows with keys -/

/-- The rows are those of the last records, one for each key. -/
structure LastRows (key : ρ → κ) (row : α → ρ) (xs : List α) (rows : List ρ) : Prop where
  nodup : (rows.map key).Nodup
  mem_keys : ∀ {k}, k ∈ rows.map key ↔ k ∈ xs.map fun x => key (row x)
  mem_iff : ∀ {r}, r ∈ rows ↔ ∃ x, IsLast (fun x => key (row x)) xs x ∧ r = row x

namespace LastRows

variable {key : ρ → κ} {row : α → ρ} {xs : List α} {rows : List ρ}

theorem nil : LastRows key row ([] : List α) [] where
  nodup := List.nodup_nil
  mem_keys := Iff.rfl
  mem_iff := iff_of_false List.not_mem_nil fun ⟨_, hlast, _⟩ => not_isLast_nil hlast

variable [DecidableEq κ]

/-- Putting a row in place of the one with its key is writing one more record. -/
theorem replaced (h : LastRows key row xs rows) (x : α) :
    LastRows key row (xs ++ [x]) (Store.replaced key rows (row x)) where
  nodup := by
    rw [Store.replaced, List.map_append, List.nodup_append]
    refine ⟨h.nodup.sublist (List.filter_sublist.map _), List.nodup_singleton _, ?_⟩
    -- the rows that stay have other keys
    intro k hk k' hk'
    obtain ⟨r, hr, rfl⟩ := List.mem_map.mp hk
    rw [List.map_singleton, List.mem_singleton] at hk'
    rw [hk']
    simpa using (List.mem_filter.mp hr).2
  mem_keys := by
    intro k
    rw [mem_map_replaced, h.mem_keys, List.map_append, List.mem_append, List.map_singleton,
      List.mem_singleton]
  mem_iff := by
    intro r
    rw [Store.replaced, List.mem_append, List.mem_filter, h.mem_iff, List.mem_singleton]
    simp only [isLast_append_singleton, decide_eq_true_eq]
    constructor
    · rintro (⟨⟨y, hy, rfl⟩, hne⟩ | rfl)
      · exact ⟨y, Or.inr ⟨hne, hy⟩, rfl⟩
      · exact ⟨x, Or.inl rfl, rfl⟩
    · rintro ⟨y, rfl | ⟨hne, hy⟩, rfl⟩
      · exact Or.inr rfl
      · exact Or.inl ⟨⟨y, hy, rfl⟩, hne⟩

/-- Putting several rows, one after another. -/
theorem foldl_replaced (h : LastRows key row xs rows) (ys : List α) :
    LastRows key row (xs ++ ys)
      (ys.foldl (fun rows y => Store.replaced key rows (row y)) rows) := by
  induction ys generalizing xs rows with
  | nil => rwa [List.append_nil]
  | cons y ys ih =>
    rw [List.append_cons]
    exact ih (h.replaced y)

end LastRows

/-! ### Rows that are keys themselves -/

section joined

variable [DecidableEq κ] {key : ρ → κ} {rows : List ρ}

/-- A row that is its own key is added unless it is there. -/
theorem mem_joined (hkey : Function.Injective key) {row r : ρ} :
    r ∈ joined key rows row ↔ r ∈ rows ∨ r = row := by
  have hany : (rows.any fun r => key r = key row) = true ↔ row ∈ rows := by
    simp only [List.any_eq_true, decide_eq_true_eq]
    constructor
    · rintro ⟨r, hr, heq⟩
      exact hkey heq ▸ hr
    · intro hr
      exact ⟨row, hr, rfl⟩
  rw [joined]
  split
  next hthere =>
    exact ⟨Or.inl, fun h => h.elim id fun heq => heq ▸ hany.mp hthere⟩
  next => rw [List.mem_append, List.mem_singleton]

theorem nodup_joined {row : ρ} (h : rows.Nodup) : (joined key rows row).Nodup := by
  rw [joined]
  split
  · exact h
  next hnew =>
    rw [List.nodup_append]
    refine ⟨h, List.nodup_singleton _, fun r hr r' hr' heq => hnew ?_⟩
    rw [List.mem_singleton] at hr'
    exact List.any_eq_true.mpr ⟨r, hr, by rw [heq, hr', decide_eq_true rfl]⟩

theorem mem_foldl_joined (hkey : Function.Injective key) (row : α → ρ) (xs : List α) {r : ρ} :
    r ∈ xs.foldl (fun rows x => joined key rows (row x)) rows ↔
      r ∈ rows ∨ ∃ x ∈ xs, r = row x := by
  induction xs generalizing rows with
  | nil => simp
  | cons x xs ih => rw [List.foldl_cons, ih, mem_joined hkey, List.exists_mem_cons_iff, or_assoc]

theorem nodup_foldl_joined (row : α → ρ) (xs : List α) (h : rows.Nodup) :
    (xs.foldl (fun rows x => joined key rows (row x)) rows).Nodup := by
  induction xs generalizing rows with
  | nil => exact h
  | cons x xs ih => exact ih (nodup_joined h)

end joined

end Store

/-! ### Links -/

namespace LibraryTrack

variable {links : List TrackArtistRow}

theorem mem_linksIn {t : LibraryTrack} {r : TrackArtistRow} :
    r ∈ t.linksIn links ↔ r ∈ links ∨ t.trackId = r.trackId ∧ r.artistId ∈ t.artistIds := by
  have hkey : Function.Injective fun r : TrackArtistRow => (r.trackId, r.artistId) := by
    rintro ⟨_, _⟩ ⟨_, _⟩ heq
    simpa using heq
  rw [linksIn, Store.mem_foldl_joined hkey]
  refine or_congr_right ?_
  constructor
  · rintro ⟨artistId, hid, rfl⟩
    exact ⟨rfl, hid⟩
  · rintro ⟨htrack, hid⟩
    exact ⟨r.artistId, hid, by rw [htrack]⟩

/-- The links of several tracks are all that any of them has. -/
theorem mem_foldl_linksIn {tracks : List LibraryTrack} {r : TrackArtistRow} :
    r ∈ tracks.foldl linksIn links ↔
      r ∈ links ∨ ∃ t ∈ tracks, t.trackId = r.trackId ∧ r.artistId ∈ t.artistIds := by
  induction tracks generalizing links with
  | nil => simp
  | cons t tracks ih =>
    rw [List.foldl_cons, ih, mem_linksIn, List.exists_mem_cons_iff, or_assoc]

theorem nodup_foldl_linksIn (tracks : List LibraryTrack) (h : links.Nodup) :
    (tracks.foldl linksIn links).Nodup := by
  induction tracks generalizing links with
  | nil => exact h
  | cons t tracks ih => exact ih (Store.nodup_foldl_joined _ _ h)

end LibraryTrack

/-! ### Genres -/

/-- The rows are the genres of the last record of each artist, each once. -/
structure Store.LastGenres (artists : List ArtistRecord) (rows : List ArtistGenreRow) : Prop where
  nodup : rows.Nodup
  mem_iff : ∀ {r}, r ∈ rows ↔
    ∃ a, IsLast ArtistRecord.id artists a ∧ a.id = r.artistId ∧ r.genre ∈ a.genres

namespace Store.LastGenres

variable {artists : List ArtistRecord} {rows : List ArtistGenreRow}

theorem nil : LastGenres [] [] where
  nodup := List.nodup_nil
  mem_iff := iff_of_false List.not_mem_nil fun ⟨_, hlast, _⟩ => not_isLast_nil hlast

/-- The genres of an artist take the place of those that an earlier record had. -/
theorem genresIn (h : LastGenres artists rows) (a : ArtistRecord) :
    LastGenres (artists ++ [a]) (a.genresIn rows) where
  nodup := nodup_foldl_joined _ _ (h.nodup.filter _)
  mem_iff := by
    intro r
    have hkey : Function.Injective fun r : ArtistGenreRow => (r.artistId, r.genre) := by
      rintro ⟨_, _⟩ ⟨_, _⟩ heq
      simpa using heq
    rw [ArtistRecord.genresIn, mem_foldl_joined hkey, List.mem_filter, h.mem_iff]
    simp only [isLast_append_singleton, Bool.not_eq_true', decide_eq_false_iff_not]
    constructor
    · rintro (⟨⟨b, hb, hid, hgenre⟩, hne⟩ | ⟨genre, hgenre, rfl⟩)
      · exact ⟨b, Or.inr ⟨hid ▸ hne, hb⟩, hid, hgenre⟩
      · exact ⟨a, Or.inl rfl, rfl, hgenre⟩
    · rintro ⟨b, rfl | ⟨hne, hb⟩, hid, hgenre⟩
      · exact Or.inr ⟨r.genre, hgenre, by rw [hid]⟩
      · exact Or.inl ⟨⟨b, hb, hid, hgenre⟩, hid ▸ hne⟩

theorem foldl_genresIn (h : LastGenres artists rows) (more : List ArtistRecord) :
    LastGenres (artists ++ more) (more.foldl ArtistRecord.genresIn rows) := by
  induction more generalizing artists rows with
  | nil => rwa [List.append_nil]
  | cons a more ih =>
    rw [List.append_cons]
    exact ih (h.genresIn a)

end Store.LastGenres

/-! ### Numbers -/

/-- The number that a reported feature is; NaN is none. -/
def FeatureRecord.extended? (f : FeatureRecord) (x : Feature) : Option Extended :=
  match f.values.get x with
  | .inl v => SmartPlaylist.extended? v
  | .inr n => some (.ofRat n.toInt)

/-- What equals zero is zero, with either sign. -/
theorem extended?_of_beq_zero {x : Float} (h : (x == 0) = true) :
    extended? x = extended? 0 := by
  have hmodel : x.toModel.unpack.beq (0 : Float).toModel.unpack = true := h
  have hzero : (0 : Float).toModel.unpack = .zero .positive := rfl
  rw [hzero] at hmodel
  rw [extended?, extended?, hzero]
  -- a zero is all that compares equal to one
  cases hx : x.toModel.unpack with
  | zero sign => rfl
  | infinity sign =>
    rw [hx] at hmodel
    cases sign <;> exact absurd hmodel Bool.false_ne_true
  | notANumber =>
    rw [hx] at hmodel
    exact absurd hmodel Bool.false_ne_true
  | finite sign significand exponent hpos =>
    rw [hx] at hmodel
    cases sign <;> exact absurd hmodel Bool.false_ne_true

/-- A real feature is stored as the number that it is, though not always as the same double. -/
theorem Store.bind_storedReal (x : Float) : (storedReal x).bind extended? = extended? x := by
  rw [storedReal]
  split
  next hnan => exact ((isNaN_iff x).mp hnan).symm
  next =>
    split
    next hzero => exact (extended?_of_beq_zero hzero).symm
    next => rfl

/-- **A feature is stored as the number that it is.** -/
theorem FeatureRecord.extended?_row (f : FeatureRecord) (x : Feature) :
    f.row.extended? x = f.extended? x := by
  rw [FeatureRow.extended?, FeatureRecord.extended?, FeatureRecord.row, Store.storedFeatures,
    FeatureVector.get_map]
  cases f.values.get x with
  | inl v => exact Store.bind_storedReal v
  | inr n => rfl

/-! ### Writes -/

/-- A write of the library. -/
inductive LibraryWrite where
  | replaceLibrary (tracks : List LibraryTrack)
  | upsertArtists (artists : List ArtistRecord)
  | upsertFeatures (features : List FeatureRecord)

/-- What has been written: the saved tracks of the last replacement, and all other records. -/
structure Written where
  tracks : List LibraryTrack := []
  artists : List ArtistRecord := []
  features : List FeatureRecord := []

namespace LibraryWrite

/-- Performs the write; gives the number of records. -/
def perform : LibraryWrite → Store.Action Nat
  | replaceLibrary tracks => Store.replaceLibrary tracks
  | upsertArtists artists => Store.upsertArtists artists
  | upsertFeatures features => Store.upsertFeatures features

/-- The number of records. -/
def count : LibraryWrite → Nat
  | replaceLibrary tracks => tracks.length
  | upsertArtists artists => artists.length
  | upsertFeatures features => features.length

/-- The two databases differ at most in the tables of the write. -/
def ChangesOwn : LibraryWrite → Database → Database → Prop
  | replaceLibrary _, db, after =>
    after = { db with libraryTracks := after.libraryTracks, trackArtists := after.trackArtists }
  | upsertArtists _, db, after =>
    after = { db with artists := after.artists, artistGenres := after.artistGenres }
  | upsertFeatures _, db, after => after = { db with audioFeatures := after.audioFeatures }

end LibraryWrite

/-- One more write. -/
def Written.and (w : Written) : LibraryWrite → Written
  | .replaceLibrary tracks => { w with tracks }
  | .upsertArtists artists => { w with artists := w.artists ++ artists }
  | .upsertFeatures features => { w with features := w.features ++ features }

/-- What some writes have written. -/
def Written.of (writes : List LibraryWrite) : Written := writes.foldl Written.and {}

/-! ### The five tables -/

namespace Database

/-- The tables of the library say what has been written. -/
structure Mirrors (w : Written) (db : Database) : Prop where
  tracks : ∃ rows, db.libraryTracks = some rows ∧
    Store.LastRows LibraryTrackRow.trackId LibraryTrack.row w.tracks rows
  links : ∃ rows, db.trackArtists = some rows ∧ rows.Nodup ∧
    ∀ r, r ∈ rows ↔ ∃ t ∈ w.tracks, t.trackId = r.trackId ∧ r.artistId ∈ t.artistIds
  artists : ∃ rows, db.artists = some rows ∧
    Store.LastRows ArtistRow.id ArtistRecord.row w.artists rows
  genres : ∃ rows, db.artistGenres = some rows ∧ Store.LastGenres w.artists rows
  features : ∃ rows, db.audioFeatures = some rows ∧
    Store.LastRows FeatureRow.trackId FeatureRecord.row w.features rows

/-- The database with the tables of the library there and without rows. -/
def withEmptyLibrary (db : Database) : Database :=
  { db with
    libraryTracks := some []
    trackArtists := some []
    artists := some []
    artistGenres := some []
    audioFeatures := some [] }

namespace Mirrors

variable {w : Written} {db : Database}

theorem withEmptyLibrary (db : Database) : Mirrors {} db.withEmptyLibrary where
  tracks := ⟨[], rfl, .nil⟩
  links := ⟨[], rfl, List.nodup_nil, by simp⟩
  artists := ⟨[], rfl, .nil⟩
  genres := ⟨[], rfl, .nil⟩
  features := ⟨[], rfl, .nil⟩

theorem withLibrary (h : Mirrors w db) (tracks : List LibraryTrack) :
    Mirrors (w.and (.replaceLibrary tracks)) (db.withLibrary tracks) where
  tracks := ⟨_, rfl, Store.LastRows.nil.foldl_replaced tracks⟩
  links := by
    refine ⟨_, rfl, LibraryTrack.nodup_foldl_linksIn tracks List.nodup_nil, fun r => ?_⟩
    rw [LibraryTrack.mem_foldl_linksIn]
    exact or_iff_right List.not_mem_nil
  artists := h.artists
  genres := h.genres
  features := h.features

theorem withArtists (h : Mirrors w db) (artists : List ArtistRecord) :
    Mirrors (w.and (.upsertArtists artists)) (db.withArtists artists) where
  tracks := h.tracks
  links := h.links
  artists := by
    obtain ⟨rows, hrows, hlast⟩ := h.artists
    exact ⟨_, congrArg (Option.map _) hrows, hlast.foldl_replaced artists⟩
  genres := by
    obtain ⟨rows, hrows, hlast⟩ := h.genres
    exact ⟨_, congrArg (Option.map _) hrows, hlast.foldl_genresIn artists⟩
  features := h.features

theorem withFeatures (h : Mirrors w db) (features : List FeatureRecord) :
    Mirrors (w.and (.upsertFeatures features)) (db.withFeatures features) where
  tracks := h.tracks
  links := h.links
  artists := h.artists
  genres := h.genres
  features := by
    obtain ⟨rows, hrows, hlast⟩ := h.features
    exact ⟨_, congrArg (Option.map _) hrows, hlast.foldl_replaced features⟩

theorem hasTracks (h : Mirrors w db) : db.HasTracks := by
  obtain ⟨_, htracks, -⟩ := h.tracks
  obtain ⟨_, hlinks, -⟩ := h.links
  exact ⟨htracks ▸ rfl, hlinks ▸ rfl⟩

theorem hasArtists (h : Mirrors w db) : db.HasArtists := by
  obtain ⟨_, hartists, -⟩ := h.artists
  obtain ⟨_, hgenres, -⟩ := h.genres
  exact ⟨hartists ▸ rfl, hgenres ▸ rfl⟩

theorem hasFeatures (h : Mirrors w db) : db.audioFeatures.isSome := by
  obtain ⟨_, hfeatures, -⟩ := h.features
  exact hfeatures ▸ rfl

end Mirrors

end Database

namespace LibraryWrite

/-- **A write changes its own tables only**, whatever the database and however it ends. -/
theorem changesOwn_perform (w : LibraryWrite) (db : Database) :
    w.ChangesOwn db (w.perform.outcome db).2 := by
  cases w with
  | replaceLibrary tracks => exact Store.database_replaceLibrary tracks db
  | upsertArtists artists =>
    by_cases h : db.HasArtists
    · rw [perform, Store.outcome_upsertArtists artists h]
      rfl
    · obtain ⟨e, hsame⟩ := Store.exists_upsertArtists_error artists h
      rw [perform, hsame]
      rfl
  | upsertFeatures features =>
    by_cases h : db.audioFeatures.isSome
    · rw [perform, Store.outcome_upsertFeatures features h]
      rfl
    · obtain ⟨e, hsame⟩ := Store.exists_upsertFeatures_error features h
      rw [perform, hsame]
      rfl

/-- **Each write is mirrored.** -/
theorem exists_perform {done : Written} {db : Database} (h : db.Mirrors done) (w : LibraryWrite) :
    ∃ after, w.perform.outcome db = (.ok w.count, after) ∧ after.Mirrors (done.and w) := by
  cases w with
  | replaceLibrary tracks =>
    exact ⟨_, Store.outcome_replaceLibrary tracks h.hasTracks, h.withLibrary tracks⟩
  | upsertArtists artists =>
    exact ⟨_, Store.outcome_upsertArtists artists h.hasArtists, h.withArtists artists⟩
  | upsertFeatures features =>
    exact ⟨_, Store.outcome_upsertFeatures features h.hasFeatures, h.withFeatures features⟩

/-- So are writes one after another. -/
theorem exists_mapM_perform {done : Written} {db : Database} (h : db.Mirrors done)
    (writes : List LibraryWrite) :
    ∃ after, (writes.mapM perform).outcome db = (.ok (writes.map count), after) ∧
      after.Mirrors (writes.foldl Written.and done) := by
  induction writes generalizing done db with
  | nil => exact ⟨db, rfl, h⟩
  | cons w writes ih =>
    obtain ⟨mid, hfirst, hmid⟩ := exists_perform h w
    obtain ⟨after, hrest, hafter⟩ := ih hmid
    refine ⟨after, ?_, hafter⟩
    rw [List.mapM_cons, Store.outcome_bind_of_ok hfirst, Store.outcome_bind_of_ok hrest]
    rfl

/-- **The tables are maps after any writes** into an empty library.  Every write succeeds and gives
the number of its records; each table then has the rows of `Database.Mirrors`, in which a stored time
is read back and a stored feature is the number that was reported; and no write, wherever it is
performed, changes the tables of another. -/
theorem mapM_perform_mirrors (db : Database) (writes : List LibraryWrite) :
    (∃ after, (writes.mapM perform).outcome db.withEmptyLibrary
          = (.ok (writes.map count), after) ∧
        after.Mirrors (.of writes)) ∧
      (∀ t : LibraryTrack, Moment.ofStoredText? t.row.dateAdded = some t.dateAdded) ∧
      (∀ (f : FeatureRecord) (x : Feature), f.row.extended? x = f.extended? x) ∧
      ∀ (w : LibraryWrite) (before : Database),
        w.ChangesOwn before (w.perform.outcome before).2 :=
  ⟨exists_mapM_perform (.withEmptyLibrary db) writes,
    fun t => Moment.ofStoredText?_storedText t.dateAdded, FeatureRecord.extended?_row,
    changesOwn_perform⟩

/-- A new database has an empty library. -/
example : Database.fresh.withEmptyLibrary = Database.fresh := rfl

end LibraryWrite

end SmartPlaylist
