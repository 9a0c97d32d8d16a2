import SmartPlaylist.Library.Pull
import SmartPlaylist.Proofs.Remote.Batch
import SmartPlaylist.Proofs.Session.Trace
import SmartPlaylist.Proofs.Store.Library

/-!
# Fetching what is missing

Artists and features are fetched in the same way: the missing ids are read off the tables and asked
for part by part, and what is found is written before the next part is asked for.  So when a call
fails, everything that was answered before is stored, and the next run asks for the rest.

What is found need not be what was asked for: an answer may leave ids out, repeat some, or bring
others.

## Main definitions

* `Fetch` — how a fetch went: what was answered, and what failed.
* `MetadataJob` — what fetching artists and fetching features have in common, as `artistsJob` and
  `featuresJob`.
* `MetadataJob.Progress` — what one run of such a job comes to.

## Main results

* `Pull.exists_inBatches` — what asking for one part after another comes to.
* `pullMetadata_progress` — **each run makes exactly the missing progress.**
-/

namespace SmartPlaylist

variable {σ α : Type}

/-! ### Part by part -/

/-- How a fetch went. -/
structure Fetch (α : Type) where
  /-- The parts that were answered, with what was found. -/
  answered : List (List String × List α) := []
  /-- The part for which the call failed; none was asked for after it. -/
  failed : Option (List String × RemoteError) := none

namespace Fetch

/-- The parts that were asked for. -/
def asked (f : Fetch α) : List (List String) :=
  f.answered.map Prod.fst ++ (f.failed.map Prod.fst).toList

/-- Everything that was found. -/
def found (f : Fetch α) : List α := f.answered.flatMap Prod.snd

/-- The calls that were made. -/
def calls (mark : List String → Except RemoteError (List α) → LibraryCall) (f : Fetch α) :
    List LibraryCall :=
  (f.answered.map fun p => mark p.1 (.ok p.2)) ++
    (f.failed.map fun p => mark p.1 (.error p.2)).toList

/-- What the job gives: how many records it wrote, or the failure. -/
def result (f : Fetch α) : Except RunError Nat :=
  match f.failed with
  | none => .ok f.found.length
  | some (_, e) => .error (.remote e)

/-- The fetch with an answered part before it. -/
def behind (ids : List String) (found : List α) (f : Fetch α) : Fetch α :=
  { f with answered := (ids, found) :: f.answered }

theorem result_behind (ids : List String) (found : List α) (f : Fetch α) :
    (f.behind ids found).result = f.result.map (found.length + ·) := by
  rcases f with ⟨answered, _ | ⟨ids', e⟩⟩
  · simp [behind, result, Fetch.found, Except.map]
  · rfl

/-- What was found for each part, and the failure, are answers of a service. -/
structure GivenBy (f : Fetch α) (ask : List String → Call σ (List α)) : Prop where
  answered : ∀ p ∈ f.answered, ∃ r, (ask p.1 r).1.result = .ok p.2
  failed : ∀ p, f.failed = some p → ∃ r, (ask p.1 r).1.result = .error p.2

/-- A fetch asked for parts until none was left or a call failed, left the calls in the trace, and
put what it found into the database. -/
structure Describes (f : Fetch α) (parts : List (List String)) (ask : List String → Call σ (List α))
    (mark : List String → Except RemoteError (List α) → LibraryCall)
    (put : Database → List α → Database) (s after : Session (Traced σ LibraryCall)) : Prop where
  asked_prefix : f.asked <+: parts
  asked_eq : f.failed = none → f.asked = parts
  given : f.GivenBy ask
  trace_eq : after.remote.trace = s.remote.trace ++ f.calls mark
  database_eq : after.database = put s.database f.found

end Fetch

/-- **What asking for one part after another comes to**, when writing cannot fail. -/
theorem Pull.exists_inBatches (ask : List String → Call σ (List α))
    (mark : List String → Except RemoteError (List α) → LibraryCall)
    {write : List α → Store.Action Nat} {put : Database → List α → Database}
    {Ready : Database → Prop} (hnil : ∀ db, put db [] = db)
    (happend : ∀ db xs ys, put db (xs ++ ys) = put (put db xs) ys)
    (hwrite : ∀ found db, Ready db →
      (write found).outcome db = (.ok found.length, put db found) ∧ Ready (put db found))
    (parts : List (List String)) (written : Nat) (s : Session (Traced σ LibraryCall))
    (h : Ready s.database) :
    ∃ (fetch : Fetch α) (after : Session (Traced σ LibraryCall)),
      (Pull.inBatches (fun ids => traceCall (mark ids) (ask ids)) write parts written).outcome s
        = (fetch.result.map (written + ·), after) ∧
      fetch.Describes parts ask mark put s after := by
  induction parts generalizing written s with
  | nil =>
    refine ⟨{}, s, rfl, ⟨List.prefix_rfl, fun _ => rfl, ⟨List.forall_mem_nil _, fun _ => (nomatch ·)⟩,
      (List.append_nil _).symm, ?_⟩⟩
    exact (hnil s.database).symm
  | cons ids parts ih =>
    obtain ⟨mid, hcall, hdb, htrace, -⟩ := Job.exists_traceCall (mark ids) (ask ids) s
    rw [inBatches]
    rcases hanswer : (ask ids s.remote.state).1.result with e | found
    · -- the call fails, and nothing is written
      rw [hanswer] at hcall htrace
      have hfailed : ((Job.call (traceCall (mark ids) (ask ids))).failAs RunError.remote).outcome s
          = (.error (.remote e), mid) := by
        rw [Job.outcome_failAs, hcall]
      refine ⟨⟨[], some (ids, e)⟩, mid, Job.outcome_bind_of_error hfailed, ?_⟩
      refine ⟨⟨parts, rfl⟩, (nomatch ·), ⟨List.forall_mem_nil _, fun p hp => ?_⟩, htrace,
        hdb.trans (hnil s.database).symm⟩
      exact Option.some.inj hp ▸ ⟨s.remote.state, hanswer⟩
    · -- the answer is written before the rest is asked for
      rw [hanswer] at hcall htrace
      rw [← hdb] at h
      obtain ⟨hwritten, hready⟩ := hwrite found mid.database h
      have hasked : ((Job.call (traceCall (mark ids) (ask ids))).failAs RunError.remote).outcome s
          = (.ok found, mid) := Job.outcome_failAs_eq_ok.mpr hcall
      have hstored : ((Job.store (write found)).failAs RunError.store).outcome mid
          = (.ok found.length, { mid with database := put mid.database found }) := by
        rw [Job.outcome_failAs_eq_ok, Job.outcome_store, hwritten]
      obtain ⟨fetch, after, hrest, hfetch⟩ :=
        ih (written + found.length) { mid with database := put mid.database found } hready
      refine ⟨fetch.behind ids found, after, ?_, ?_⟩
      · rw [Job.outcome_bind_of_ok hasked, Job.outcome_bind_of_ok hstored, hrest,
          Fetch.result_behind]
        cases fetch.result <;> simp [Except.map, Nat.add_assoc]
      · refine ⟨?_, fun hall => ?_, ⟨?_, hfetch.given.failed⟩, ?_, ?_⟩
        · exact List.cons_prefix_cons.mpr ⟨rfl, hfetch.asked_prefix⟩
        · exact congrArg (ids :: ·) (hfetch.asked_eq hall)
        · exact List.forall_mem_cons.mpr ⟨⟨s.remote.state, hanswer⟩, hfetch.given.answered⟩
        · refine hfetch.trace_eq.trans ?_
          rw [htrace, List.append_assoc]
          rfl
        · refine hfetch.database_eq.trans ?_
          rw [← happend, hdb]
          rfl

/-! ### Fetching what is missing -/

/-- A job that fetches the records of missing ids: how it asks and writes, what it finds in the
database, and what it makes of it. -/
structure MetadataJob (α : Type) where
  job {σ : Type} (service : LibraryService σ) : Job σ RunError Nat
  ask {σ : Type} (service : LibraryService σ) : List String → Call σ (List α)
  /-- How a call is kept in the trace. -/
  mark : List String → Except RemoteError (List α) → LibraryCall
  missing : Store.Action (List String)
  write : List α → Store.Action Nat
  /-- How many ids are asked for at once. -/
  size : Nat
  idOf : α → String
  /-- What the job relies on in the database: its tables are there, with their keys. -/
  Ready : Database → Prop
  referenced : Database → List String
  known : Database → List String
  /-- The database with records put into it. -/
  put : Database → List α → Database
  size_pos : 0 < size
  job_eq {σ : Type} (service : LibraryService σ) : job service = do
    let ids ← (Job.store missing).failAs .store
    Pull.inBatches (ask service) write (batches size ids) 0
  ask_traced {σ : Type} (service : LibraryService σ) :
    ask service.traced = fun ids => traceCall (mark ids) (ask service ids)
  exists_missing {db : Database} (h : Ready db) :
    ∃ ids, missing.outcome db = (.ok ids, db) ∧ Store.MissingFrom (referenced db) (known db) ids
  outcome_write {db : Database} (h : Ready db) (found : List α) :
    (write found).outcome db = (.ok found.length, put db found)
  ready_put {db : Database} (h : Ready db) (found : List α) : Ready (put db found)
  put_nil (db : Database) : put db [] = db
  put_append (db : Database) (xs ys : List α) : put db (xs ++ ys) = put (put db xs) ys
  referenced_put (db : Database) (found : List α) : referenced (put db found) = referenced db
  mem_known_put {db : Database} (h : Ready db) (found : List α) (id : String) :
    id ∈ known (put db found) ↔ id ∈ known db ∨ id ∈ found.map idOf

namespace MetadataJob

/-- What one run of a job comes to. -/
structure Progress (J : MetadataJob α) (service : LibraryService σ)
    (s : Session (Traced σ LibraryCall)) (missing : List String) (fetch : Fetch α)
    (after : Session (Traced σ LibraryCall)) : Prop where
  /-- What is missing is what the library refers to and the database does not know. -/
  missing_from : Store.MissingFrom (J.referenced s.database) (J.known s.database) missing
  /-- The job gives the number of records found, or the failure. -/
  outcome_eq : (J.job service.traced).outcome s = (fetch.result, after)
  /-- Without a trace it does the same. -/
  untraced_eq : (J.job service).outcome s.untraced = (fetch.result, after.untraced)
  /-- What it found are the answers of the service. -/
  given : fetch.GivenBy (J.ask service)
  /-- It made these calls and no others. -/
  trace_eq : after.remote.trace = s.remote.trace ++ fetch.calls J.mark
  /-- The calls ask for one part of the missing ids after another. -/
  part_eq : ∀ (i : Nat) (ids : List String), fetch.asked[i]? = some ids →
    ids = (missing.drop (J.size * i)).take J.size ∧ ids ≠ []
  /-- No id is asked for twice. -/
  nodup : fetch.asked.flatten.Nodup
  /-- Unless a call fails, every missing id is asked for. -/
  complete : fetch.failed = none → fetch.asked.flatten = missing
  /-- The database has the records that were found put into it, in order. -/
  database_eq : after.database = J.put s.database fetch.found
  /-- Afterwards those ids are missing for which nothing was found. -/
  still_missing : J.missing.outcome after.database
    = (.ok (missing.filter fun id => id ∉ fetch.found.map J.idOf), after.database)
  /-- If something was found for every missing id, another run makes no call. -/
  finished : (∀ id ∈ missing, id ∈ fetch.found.map J.idOf) →
    ∀ t : Session (Traced σ LibraryCall), t.database = after.database →
      (J.job service.traced).outcome t = (.ok 0, t)

/-- A job does the same without a trace. -/
theorem projects (J : MetadataJob α) (service : LibraryService σ) :
    Projects (Session.map Traced.state) (J.job service.traced) (J.job service) := by
  have hbatches : ∀ (parts : List (List String)) (written : Nat),
      Projects (Session.map Traced.state)
        (Pull.inBatches (J.ask service.traced) J.write parts written)
        (Pull.inBatches (J.ask service) J.write parts written) := by
    intro parts
    rw [J.ask_traced]
    induction parts with
    | nil => exact fun written => .pure written
    | cons ids parts ih =>
      intro written
      rw [Pull.inBatches, Pull.inBatches]
      refine (Job.projects_failAs (Job.projects_traceCall _ _)).bind fun found => ?_
      exact (Job.projects_failAs (Job.projects_store _)).bind fun n => ih (written + n)
  rw [J.job_eq, J.job_eq]
  exact (Job.projects_failAs (Job.projects_store _)).bind fun ids => hbatches _ 0

/-- **One run of a job**, whatever the service answers. -/
theorem exists_progress (J : MetadataJob α) (service : LibraryService σ)
    (s : Session (Traced σ LibraryCall)) (h : J.Ready s.database) :
    ∃ missing fetch after, J.Progress service s missing fetch after := by
  obtain ⟨missing, hread, hmissing⟩ := J.exists_missing h
  obtain ⟨fetch, after, hrun, hfetch⟩ := Pull.exists_inBatches (J.ask service) J.mark J.put_nil
    J.put_append (fun found db h => ⟨J.outcome_write h found, J.ready_put h found⟩)
    (batches J.size missing) 0 s h
  obtain ⟨hpart, hbegins⟩ := parts_of_prefix J.size_pos hfetch.asked_prefix
  -- the tables that say what is missing change by what was found only
  have hready : J.Ready after.database := hfetch.database_eq ▸ J.ready_put h _
  obtain ⟨left, hleft, hstill⟩ := J.exists_missing hready
  have hfiltered : left = missing.filter fun id => id ∉ fetch.found.map J.idOf := by
    rw [hfetch.database_eq, J.referenced_put] at hstill
    exact hstill.unique (hmissing.filter (J.mem_known_put h fetch.found))
  have houtcome : (J.job service.traced).outcome s = (fetch.result, after) := by
    have hstored : ((Job.store J.missing).failAs RunError.store).outcome s = (.ok missing, s) := by
      rw [Job.outcome_failAs_eq_ok, Job.outcome_store, hread]
    rw [J.job_eq, Job.outcome_bind_of_ok hstored, J.ask_traced, hrun]
    cases fetch.result <;> simp [Except.map]
  refine ⟨missing, fetch, after, hmissing, houtcome, (J.projects service).run_eq houtcome,
    hfetch.given, hfetch.trace_eq, hpart, ?_, ?_, hfetch.database_eq, hfiltered ▸ hleft, ?_⟩
  · exact (Text.nodup_of_pairwise hmissing.pairwise_lt).sublist hbegins.sublist
  · intro hall
    rw [hfetch.asked_eq hall, flatten_batches J.size_pos]
  · intro hfound t ht
    have hnone : left = [] := by
      rw [hfiltered, List.filter_eq_nil_iff]
      simpa using hfound
    have hstored : ((Job.store J.missing).failAs RunError.store).outcome t = (.ok [], t) := by
      rw [Job.outcome_failAs_eq_ok, Job.outcome_store, ht, hleft, hnone, ← ht]
    rw [J.job_eq, Job.outcome_bind_of_ok hstored]
    rfl

end MetadataJob

/-! ### Artists and features -/

/-- An artist as a record for the store. -/
def RemoteArtist.record (a : RemoteArtist) : ArtistRecord := ⟨a.id, a.name, a.genres⟩

/-- Features as a record for the store. -/
def RemoteFeatures.record (f : RemoteFeatures) : FeatureRecord := ⟨f.id, f.values⟩

/-- Fetching the artists of saved tracks. -/
def artistsJob : MetadataJob RemoteArtist where
  job := pullArtists
  ask service := service.artists
  mark := .artists
  missing := Store.missingArtistIds
  write found := Store.upsertArtists (found.map RemoteArtist.record)
  size := 50
  idOf := RemoteArtist.id
  Ready db := db.trackArtists.isSome ∧ db.HasArtists
  referenced db := (db.trackArtists.getD []).map TrackArtistRow.artistId
  known db := (db.artists.getD []).map ArtistRow.id
  put db found := db.withArtists (found.map RemoteArtist.record)
  size_pos := by decide
  job_eq _ := rfl
  ask_traced _ := rfl
  exists_missing := by
    rintro db ⟨hlinks, hartists, -⟩
    obtain ⟨links, hlinks⟩ := Option.isSome_iff_exists.mp hlinks
    obtain ⟨artists, hartists⟩ := Option.isSome_iff_exists.mp hartists
    rw [hlinks, hartists]
    exact Store.exists_missingArtistIds hlinks hartists
  outcome_write h found := by
    rw [Store.outcome_upsertArtists _ h.2, List.length_map]
  ready_put h found := ⟨h.1, h.2.withArtists _⟩
  put_nil := Database.withArtists_nil
  put_append db xs ys := by rw [List.map_append, Database.withArtists_append]
  referenced_put _ _ := rfl
  mem_known_put := by
    rintro db ⟨-, hartists, -⟩ found id
    obtain ⟨artists, hartists⟩ := Option.isSome_iff_exists.mp hartists
    rw [Database.withArtists, hartists]
    refine (Store.mem_map_foldl_replaced ArtistRecord.row).trans (or_congr_right ?_)
    rw [List.map_map]
    rfl

/-- Fetching the features of saved tracks. -/
def featuresJob : MetadataJob RemoteFeatures where
  job := pullFeatures
  ask service := service.audioFeatures
  mark := .audioFeatures
  missing := Store.missingFeatureIds
  write found := Store.upsertFeatures (found.map RemoteFeatures.record)
  size := 100
  idOf := RemoteFeatures.id
  Ready db := db.libraryTracks.isSome ∧ db.audioFeatures.isSome ∧
    ((db.libraryTracks.getD []).map LibraryTrackRow.trackId).Nodup
  referenced db := (db.libraryTracks.getD []).map LibraryTrackRow.trackId
  known db := (db.audioFeatures.getD []).map FeatureRow.trackId
  put db found := db.withFeatures (found.map RemoteFeatures.record)
  size_pos := by decide
  job_eq _ := rfl
  ask_traced _ := rfl
  exists_missing := by
    rintro db ⟨htracks, hfeatures, hkey⟩
    obtain ⟨tracks, htracks⟩ := Option.isSome_iff_exists.mp htracks
    obtain ⟨features, hfeatures⟩ := Option.isSome_iff_exists.mp hfeatures
    rw [htracks] at hkey
    rw [htracks, hfeatures]
    exact Store.exists_missingFeatureIds htracks hfeatures hkey
  outcome_write h found := by
    rw [Store.outcome_upsertFeatures _ h.2.1, List.length_map]
  ready_put h found := ⟨h.1, by simpa [Database.withFeatures] using h.2.1, h.2.2⟩
  put_nil := Database.withFeatures_nil
  put_append db xs ys := by rw [List.map_append, Database.withFeatures_append]
  referenced_put _ _ := rfl
  mem_known_put := by
    rintro db ⟨-, hfeatures, -⟩ found id
    obtain ⟨features, hfeatures⟩ := Option.isSome_iff_exists.mp hfeatures
    rw [Database.withFeatures, hfeatures]
    refine (Store.mem_map_foldl_replaced FeatureRecord.row).trans (or_congr_right ?_)
    rw [List.map_map]
    rfl

/-- **Each run makes exactly the missing progress**, whatever the service answers: for artists and
for features, the missing ids are asked for part by part, each at most once, until a call fails; what
the answered calls found is put into the database, in order, and no other table changes; and what is
missing afterwards is what nothing was found for.  So a run that found something for every missing id
leaves nothing for the next one to ask for. -/
theorem pullMetadata_progress (service : LibraryService σ) (s : Session (Traced σ LibraryCall)) :
    (artistsJob.Ready s.database →
      ∃ missing fetch after, (pullArtists service.traced).outcome s = (fetch.result, after) ∧
        artistsJob.Progress service s missing fetch after ∧
        after.database = { s.database with
          artists := after.database.artists
          artistGenres := after.database.artistGenres }) ∧
    (featuresJob.Ready s.database →
      ∃ missing fetch after, (pullFeatures service.traced).outcome s = (fetch.result, after) ∧
        featuresJob.Progress service s missing fetch after ∧
        after.database = { s.database with audioFeatures := after.database.audioFeatures }) := by
  constructor
  · intro h
    obtain ⟨missing, fetch, after, hprogress⟩ := artistsJob.exists_progress service s h
    refine ⟨missing, fetch, after, hprogress.outcome_eq, hprogress, ?_⟩
    rw [hprogress.database_eq]
    rfl
  · intro h
    obtain ⟨missing, fetch, after, hprogress⟩ := featuresJob.exists_progress service s h
    refine ⟨missing, fetch, after, hprogress.outcome_eq, hprogress, ?_⟩
    rw [hprogress.database_eq]
    rfl

/-! #### A service that knows little -/

/-- Of the artists it knows one, it brings another that nobody asked for, and it gives no features. -/
def spottyService : LibraryService Unit where
  savedTracks _ _ := fun _ => (⟨.ok ⟨[], false⟩, []⟩, ())
  recentlyPlayed _ := fun _ => (⟨.ok [], []⟩, ())
  artists ids := fun _ =>
    (⟨.ok (⟨"z", "Z", []⟩ :: (ids.filter (· = "c")).map fun id => ⟨id, "C", ["folk"]⟩), []⟩, ())
  audioFeatures _ := fun _ => (⟨.error (.http .unreachable), []⟩, ())

/-- Two tracks by three artists, of whom one is known. -/
def threeArtists : Session (Traced Unit LibraryCall) where
  database := { Database.fresh with
    libraryTracks := some [⟨"t", "T", ""⟩, ⟨"s", "S", ""⟩]
    trackArtists := some [⟨"t", "c"⟩, ⟨"t", "b"⟩, ⟨"s", "a"⟩, ⟨"s", "c"⟩]
    artists := some [⟨"b", "B"⟩] }
  remote := { state := () }
  entropy := { word := fun _ => 0 }

/-- Two artists are asked for and one of them is found, so one is asked for the next time; and the
tracks are still without features. -/
theorem pullMetadata_spottyService :
    (∃ fetch after, (pullArtists spottyService.traced).outcome threeArtists = (.ok 2, after) ∧
      artistsJob.Progress spottyService threeArtists ["a", "c"] fetch after ∧
      Store.MissingFrom (artistsJob.referenced after.database) (artistsJob.known after.database)
        ["a"]) ∧
    ∃ fetch after, featuresJob.Progress spottyService threeArtists ["s", "t"] fetch after := by
  obtain ⟨hartists, hfeatures⟩ := pullMetadata_progress spottyService threeArtists
  obtain ⟨missing, fetch, after, houtcome, hprogress, -⟩ := hartists ⟨rfl, rfl, rfl⟩
  obtain ⟨missing', fetch', after', -, hprogress', -⟩ := hfeatures ⟨rfl, rfl, by decide⟩
  have hfirst : Store.MissingFrom ["c", "b", "a", "c"] ["b"] ["a", "c"] :=
    .of_pairwise (by decide) (by grind)
  have hnext : Store.MissingFrom ["c", "b", "a", "c"] ["b", "z", "c"] ["a"] :=
    .of_pairwise (by decide) (by grind)
  have htracks : Store.MissingFrom ["t", "s"] [] ["s", "t"] :=
    .of_pairwise (by decide) (by grind)
  obtain rfl := hfirst.unique hprogress.missing_from
  obtain rfl := htracks.unique hprogress'.missing_from
  obtain ⟨ids, hread, hids⟩ := Store.exists_missingArtistIds
    (show threeArtists.database.trackArtists = some _ from rfl) rfl
  obtain rfl := hfirst.unique hids
  have hstored : ((Job.store Store.missingArtistIds).failAs RunError.store).outcome threeArtists
      = (.ok ["a", "c"], threeArtists) := by
    rw [Job.outcome_failAs_eq_ok, Job.outcome_store, hread]
  have hrun := houtcome
  rw [pullArtists, Job.outcome_bind_of_ok hstored] at hrun
  have hresult : fetch.result = .ok 2 := (congrArg Prod.fst hrun).symm
  have hreferenced : artistsJob.referenced after.database = ["c", "b", "a", "c"] :=
    (congrArg (fun r => artistsJob.referenced r.2.database) hrun).symm
  have hknown : artistsJob.known after.database = ["b", "z", "c"] :=
    (congrArg (fun r => artistsJob.known r.2.database) hrun).symm
  rw [hresult] at houtcome
  rw [← hreferenced, ← hknown] at hnext
  exact ⟨⟨fetch, after, houtcome, hprogress, hnext⟩, fetch', after', hprogress'⟩

end SmartPlaylist
