import SmartPlaylist.Credential.Cache
import SmartPlaylist.Proofs.Playlist.Candidates
import SmartPlaylist.Store.History
import SmartPlaylist.Store.Library

/-!
# Operations on the store

A database starts without rows, and the program changes it by a few operations only.  An operation
may fail, and then what is left of it counts too.  What all of them keep holds in every database
that the program can meet: the tables are there, plays bear texts of moments, and the keys that the
schema declares are kept.

## Main definitions

* `Store.Operation`, `Store.Operation.run` — what the program does to its database.
* `Store.runAll` — one operation after another.
* `Store.WellFormed` — what every operation keeps.

## Main results

* `Store.wellFormed_run` — **each operation keeps the database well formed.**
* `Store.wellFormed_runAll` — so does any number of them.
-/

namespace SmartPlaylist.Store

/-! ### Operations -/

/-- What the program does to its database. -/
inductive Operation where
  | initSchema
  | replaceLibrary (tracks : List LibraryTrack)
  | upsertArtists (artists : List ArtistRecord)
  | upsertFeatures (features : List FeatureRecord)
  | appendPlays (plays : List Play)
  | storeRoot (root : RootPlaylist)
  | pruneRoots (keep : List String)
  | compile (d : Definition) (policy : UnresolvedPolicy)
  | setCredential (key : CipherKey) (nonce : Nonce) (service : String) (value : Json)

/-- The database after an operation, whether it succeeds or fails. -/
def Operation.run (db : Database) : Operation → Database
  | .initSchema => (Store.initSchema.outcome db).2
  | .replaceLibrary tracks => ((Store.replaceLibrary tracks).outcome db).2
  | .upsertArtists artists => ((Store.upsertArtists artists).outcome db).2
  | .upsertFeatures features => ((Store.upsertFeatures features).outcome db).2
  | .appendPlays plays => ((Store.appendPlays plays).outcome db).2
  | .storeRoot root => ((Store.storeRoot root).outcome db).2
  | .pruneRoots keep => ((Store.pruneRoots keep).outcome db).2
  | .compile d policy =>
    ((SmartPlaylist.compile d policy : Job Unit CompileError RootPlaylist).outcome
      { database := db, remote := (), entropy := { word := fun _ => 0 } }).2.database
  | .setCredential key nonce service value => ((Cache.set key nonce service value).run db).2

/-- The database after several operations. -/
def runAll (ops : List Operation) (db : Database) : Database := ops.foldl Operation.run db

/-! ### Well-formed databases -/

/-- What every operation keeps. -/
structure WellFormed (db : Database) : Prop where
  /-- No table is missing. -/
  complete : db.withSchema = db
  /-- Plays bear texts of moments. -/
  plays : ∀ r ∈ db.playHistory.getD [], ∃ m : Moment, r.playedAt = m.storedText
  roots : RootsKeyed (db.rootPlaylists.getD [])
  features : ((db.audioFeatures.getD []).map FeatureRow.trackId).Nodup

namespace WellFormed

variable {db : Database}

theorem exists_playHistory (h : WellFormed db) : ∃ plays, db.playHistory = some plays :=
  ⟨_, (congrArg Database.playHistory h.complete).symm⟩

theorem exists_rootPlaylists (h : WellFormed db) : ∃ stored, db.rootPlaylists = some stored :=
  ⟨_, (congrArg Database.rootPlaylists h.complete).symm⟩

theorem rootsKeyed (h : WellFormed db) {rows : List RootRow}
    (hrows : db.rootPlaylists = some rows) : RootsKeyed rows := by
  have hkey := h.roots
  rwa [hrows] at hkey

theorem nodup_features (h : WellFormed db) {rows : List FeatureRow}
    (hrows : db.audioFeatures = some rows) : (rows.map FeatureRow.trackId).Nodup := by
  have hkey := h.features
  rwa [hrows] at hkey

end WellFormed

theorem wellFormed_fresh : WellFormed Database.fresh where
  complete := rfl
  plays := List.forall_mem_nil _
  roots := List.Pairwise.nil
  features := List.Pairwise.nil

/-! ### Tables without constraints -/

section free

variable {ρ κ : Type}

/-- A table whose rows may be any. -/
class Free (t : Table ρ) : Prop where
  wellFormed_set : ∀ {db : Database} {rows : List ρ}, WellFormed db →
    WellFormed (t.set (some rows) db)

instance : Free .libraryTracks where
  wellFormed_set h :=
    ⟨congrArg (Table.libraryTracks.set (some _)) h.complete, h.plays, h.roots, h.features⟩
instance : Free .trackArtists where
  wellFormed_set h :=
    ⟨congrArg (Table.trackArtists.set (some _)) h.complete, h.plays, h.roots, h.features⟩
instance : Free .artists where
  wellFormed_set h :=
    ⟨congrArg (Table.artists.set (some _)) h.complete, h.plays, h.roots, h.features⟩
instance : Free .artistGenres where
  wellFormed_set h :=
    ⟨congrArg (Table.artistGenres.set (some _)) h.complete, h.plays, h.roots, h.features⟩
instance : Free .credentials where
  wellFormed_set h :=
    ⟨congrArg (Table.credentials.set (some _)) h.complete, h.plays, h.roots, h.features⟩

theorem keeps_modifyRows (t : Table ρ) [Free t] (f : List ρ → List ρ) :
    Keeps WellFormed (modifyRows t f) :=
  Keeps.modifyRows fun _ _ _ h => Free.wellFormed_set h

theorem keeps_deleteWhere (t : Table ρ) [Free t] (p : ρ → Bool) :
    Keeps WellFormed (deleteWhere t p) := keeps_modifyRows t _

theorem keeps_insert (t : Table ρ) [Free t] (row : ρ) : Keeps WellFormed (insert t row) :=
  keeps_modifyRows t _

theorem keeps_insertOrIgnore [DecidableEq κ] (t : Table ρ) [Free t] (key : ρ → κ) (row : ρ) :
    Keeps WellFormed (insertOrIgnore t key row) := keeps_modifyRows t _

theorem keeps_insertOrReplace [DecidableEq κ] (t : Table ρ) [Free t] (key : ρ → κ) (row : ρ) :
    Keeps WellFormed (insertOrReplace t key row) := keeps_modifyRows t _

end free

/-! ### The library -/

theorem keeps_writeTrack (track : LibraryTrack) : Keeps WellFormed (writeTrack track) :=
  (keeps_insertOrReplace .libraryTracks _ _).bind fun _ =>
    Keeps.forM (fun _ => keeps_insertOrIgnore .trackArtists _ _) track.artistIds

theorem keeps_replaceLibrary (tracks : List LibraryTrack) :
    Keeps WellFormed (replaceLibrary tracks) :=
  Keeps.transaction <| (keeps_deleteWhere .trackArtists _).bind fun _ =>
    (keeps_deleteWhere .libraryTracks _).bind fun _ =>
      (Keeps.forM keeps_writeTrack tracks).bind fun _ => .pure _

theorem keeps_writeArtist (artist : ArtistRecord) : Keeps WellFormed (writeArtist artist) :=
  (keeps_insertOrReplace .artists _ _).bind fun _ =>
    (keeps_deleteWhere .artistGenres _).bind fun _ =>
      Keeps.forM (fun _ => keeps_insertOrIgnore .artistGenres _ _) artist.genres

theorem keeps_upsertArtists (artists : List ArtistRecord) :
    Keeps WellFormed (upsertArtists artists) :=
  Keeps.transaction <| (Keeps.prepare .artists).bind fun _ =>
    (Keeps.prepare .artistGenres).bind fun _ =>
      (Keeps.forM keeps_writeArtist artists).bind fun _ => .pure _

/-- The row in whose place another is put is taken out first. -/
theorem keeps_writeFeatures (row : FeatureRow) :
    Keeps WellFormed (insertOrReplace .audioFeatures FeatureRow.trackId row) := by
  refine Keeps.modifyRows fun db rows hget h => ?_
  have hkey : (rows.map FeatureRow.trackId).Nodup := h.nodup_features hget
  refine ⟨congrArg (Table.audioFeatures.set (some _)) h.complete, h.plays, h.roots, ?_⟩
  show (((rows.filter fun r => r.trackId ≠ row.trackId) ++ [row]).map FeatureRow.trackId).Nodup
  rw [List.map_append, List.nodup_append]
  -- the rows that are left have other ids than the new one
  refine ⟨(List.filter_sublist.map _).nodup hkey, List.pairwise_singleton _ _, ?_⟩
  intro id hid id' hid'
  obtain ⟨r, hr, rfl⟩ := List.mem_map.mp hid
  rw [List.map_singleton, List.mem_singleton] at hid'
  rw [hid']
  simpa using (List.mem_filter.mp hr).2

theorem keeps_upsertFeatures (features : List FeatureRecord) :
    Keeps WellFormed (upsertFeatures features) :=
  Keeps.transaction <| (Keeps.prepare .audioFeatures).bind fun _ =>
    (Keeps.forM (fun _ => keeps_writeFeatures _) features).bind fun _ => .pure _

/-! ### Plays -/

theorem keeps_readTime {p : Database → Prop} (text : String) : Keeps p (readTime text) := by
  unfold readTime
  split
  · exact .pure _
  · exact .throw _

theorem keeps_latestPlayedAt {p : Database → Prop} : Keeps p latestPlayedAt := by
  refine (Keeps.rows .playHistory).bind fun plays => ?_
  split
  · exact (keeps_readTime _).bind fun _ => .pure _
  · exact .pure _

theorem keeps_insert_play (trackId : String) (m : Moment) :
    Keeps WellFormed (insert .playHistory ⟨trackId, m.storedText⟩) := by
  refine Keeps.modifyRows fun db rows hget h => ?_
  have hrows : db.playHistory = some rows := hget
  refine ⟨congrArg (Table.playHistory.set (some _)) h.complete, fun r hr => ?_, h.roots,
    h.features⟩
  rcases List.mem_append.mp (show r ∈ rows ++ [_] from hr) with hr | hr
  · exact h.plays r (by rwa [hrows, Option.getD_some])
  · -- the new row bears the text of the moment it was made from
    exact ⟨m, congrArg PlayRow.playedAt (List.mem_singleton.mp hr)⟩

theorem keeps_appendPlays (plays : List Play) : Keeps WellFormed (appendPlays plays) :=
  keeps_latestPlayedAt.bind fun newest => Keeps.transaction <|
    (Keeps.prepare .playHistory).bind fun _ =>
      (Keeps.forM (fun play => keeps_insert_play play.trackId play.playedAt)
        (plays.filter (isNew newest))).bind fun _ => .pure _

/-! ### Root playlists -/

theorem keeps_deleteRoots (p : RootRow → Bool) :
    Keeps WellFormed (deleteWhere .rootPlaylists p) := by
  refine Keeps.modifyRows fun db rows hget h => ?_
  have hkey : RootsKeyed rows := h.rootsKeyed hget
  exact ⟨congrArg (Table.rootPlaylists.set (some _)) h.complete, h.plays, hkey.filter _,
    h.features⟩

theorem keeps_insertRoot (row : RootRow) :
    Keeps WellFormed (insertUnique .rootPlaylists (fun r => (r.name, r.trackId)) row) := by
  refine Keeps.insertUnique fun db rows hget hnew h => ?_
  have hkey : RootsKeyed rows := h.rootsKeyed hget
  refine ⟨congrArg (Table.rootPlaylists.set (some _)) h.complete, h.plays, ?_, h.features⟩
  -- the new row has a key of its own
  refine List.pairwise_append.mpr ⟨hkey, List.pairwise_singleton _ _, fun r hr r' hr' => ?_⟩
  rw [List.mem_singleton.mp hr']
  exact hnew r hr

theorem keeps_storeRoot (root : RootPlaylist) : Keeps WellFormed (storeRoot root) :=
  Keeps.transaction <| (keeps_deleteRoots _).bind fun _ =>
    Keeps.forM (fun _ => keeps_insertRoot _) root.tracks

theorem keeps_rootNames {p : Database → Prop} : Keeps p rootNames :=
  (Keeps.rows .rootPlaylists).bind fun _ => .pure _

theorem keeps_pruneRoots (keep : List String) : Keeps WellFormed (pruneRoots keep) := by
  unfold pruneRoots
  split
  · exact .pure _
  · refine keeps_rootNames.bind fun names => ?_
    exact (Keeps.transaction (Keeps.forM (fun _ => keeps_deleteRoots _) _)).bind fun _ => .pure _

/-- Compiling writes by storing a root playlist, or not at all. -/
theorem wellFormed_compile {σ : Type} {d : Definition} {policy : UnresolvedPolicy}
    {s : Session σ} (h : WellFormed s.database) :
    WellFormed ((compile d policy).outcome s).2.database := by
  have hmid := (Compile.readsLibrary_candidates d policy).database s
  rw [compile, Job.outcome_bind]
  rcases hrun : (Compile.candidates d policy).outcome s with ⟨e | root, mid⟩
  · rw [hrun] at hmid
    rw [show mid.database = s.database from hmid]
    exact h
  · rw [hrun] at hmid
    have hstore := keeps_storeRoot root mid.database
      ((show mid.database = s.database from hmid) ▸ h)
    simp only [Job.outcome_bind, Job.outcome_failAs, Job.outcome_store]
    rcases hrun' : (storeRoot root).outcome mid.database with ⟨e | ⟨⟩, after⟩
    · rwa [hrun'] at hstore
    · rwa [hrun'] at hstore

/-! ### Credentials -/

theorem keeps_replaceCredential (service stored : String) :
    Keeps WellFormed (transaction do
      deleteWhere .credentials fun r => r.service = service
      insert .credentials ⟨service, stored⟩) :=
  Keeps.transaction <| (keeps_deleteWhere .credentials _).bind fun _ =>
    keeps_insert .credentials _

theorem run_ofStore {α : Type} (a : Action α) (db : Database) :
    ((Cache.ofStore a).run db).2 = (a.outcome db).2 := by
  simp only [Cache.ofStore, ExceptT.run, ExceptT.mk]
  rcases a.outcome db with ⟨e | x, after⟩ <;> rfl

/-! ### Any operation -/

variable {db : Database}

/-- **Each operation keeps the database well formed.** -/
theorem wellFormed_run (op : Operation) (h : WellFormed db) : WellFormed (op.run db) := by
  cases op with
  | initSchema =>
    show WellFormed db.withSchema
    rw [h.complete]
    exact h
  | replaceLibrary tracks => exact keeps_replaceLibrary tracks db h
  | upsertArtists artists => exact keeps_upsertArtists artists db h
  | upsertFeatures features => exact keeps_upsertFeatures features db h
  | appendPlays plays => exact keeps_appendPlays plays db h
  | storeRoot root => exact keeps_storeRoot root db h
  | pruneRoots keep => exact keeps_pruneRoots keep db h
  | compile d policy => exact wellFormed_compile h
  | setCredential key nonce service value =>
    rw [Operation.run, Cache.set, run_ofStore]
    exact keeps_replaceCredential service _ db h

/-- Any number of operations keep it well formed. -/
theorem wellFormed_runAll (ops : List Operation) (h : WellFormed db) :
    WellFormed (runAll ops db) := by
  induction ops generalizing db with
  | nil => exact h
  | cons op ops ih => exact ih (wellFormed_run op h)

end SmartPlaylist.Store
