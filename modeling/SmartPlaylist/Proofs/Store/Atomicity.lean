import SmartPlaylist.Proofs.Playlist.Compile
import SmartPlaylist.Proofs.Store.Operation

/-!
# Writes as a whole or not at all

A write is a sequence of statements on one table or several, and any of them may fail: its table may
be missing, or a row may bear a key that is taken.  The statements of every write stand inside one
transaction, and what a write does outside of it is only reading; so a write that fails leaves every
table as it was, however many of its statements had been carried out.

## Main definitions

* `AllOrNothing` — a program on the database whose failure leaves it as it was.
* `Job.onDatabase` — a job as such a program.

## Main results

* `AllOrNothing.transaction`, `AllOrNothing.bind_reading`, `AllOrNothing.bind_pure` — how such
  programs are made.
* `allOrNothing_writes` — **a failed write changes nothing**, whichever of the eight writes it is.
-/

namespace SmartPlaylist

/-- A program on the database that leaves it as it was whenever it fails. -/
def AllOrNothing {ε α : Type} (run : Database → Except ε α × Database) : Prop :=
  ∀ db e after, run db = (.error e, after) → after = db

/-- A job as a program on the database, in a session whose other parts are given. -/
def Job.onDatabase {σ ε α : Type} (j : Job σ ε α) (s : Session σ) (db : Database) :
    Except ε α × Database :=
  let (result, after) := j.outcome { s with database := db }
  (result, after.database)

/-! ### How such programs are made -/

namespace AllOrNothing

variable {α β : Type} {a : Store.Action α} {f : α → Store.Action β}

theorem transaction (a : Store.Action α) : AllOrNothing (Store.transaction a).outcome := by
  intro db e after h
  exact Store.transaction_error h

theorem pure (x : α) : AllOrNothing (Pure.pure x : Store.Action α).outcome := by
  intro db e after h
  simp at h

/-- What only reads may stand before. -/
theorem bind_reading (ha : ∀ db, Store.Keeps (· = db) a)
    (hf : ∀ x, AllOrNothing (f x).outcome) : AllOrNothing (a >>= f).outcome := by
  intro db e after h
  have hdb := Store.Keeps.database_eq ha db
  rw [Store.outcome_bind] at h
  rcases hrun : a.outcome db with ⟨e' | x, mid⟩
  · -- the reading itself has failed
    rw [hrun] at h hdb
    obtain ⟨-, rfl⟩ := Prod.mk.inj h
    exact hdb
  · -- what failed has started where the reading did
    rw [hrun] at h hdb
    obtain rfl : mid = db := hdb
    exact hf x mid e after h

/-- What cannot fail may stand behind. -/
theorem bind_pure (ha : AllOrNothing a.outcome) (g : α → β) :
    AllOrNothing (a >>= fun x => Pure.pure (g x)).outcome := by
  intro db e after h
  rw [Store.outcome_bind] at h
  rcases hrun : a.outcome db with ⟨e' | x, mid⟩
  · rw [hrun] at h
    obtain ⟨-, rfl⟩ := Prod.mk.inj h
    exact ha db e' mid hrun
  · rw [hrun] at h
    simp at h

/-- A failure keeps its effect when it becomes one of the credentials. -/
theorem ofStore (ha : AllOrNothing a.outcome) : AllOrNothing (Cache.ofStore a).run := by
  intro db e after h
  simp only [Cache.ofStore, ExceptT.run, ExceptT.mk] at h
  rcases hrun : a.outcome db with ⟨e' | x, mid⟩
  · rw [hrun] at h
    obtain ⟨-, rfl⟩ := Prod.mk.inj h
    exact ha db e' mid hrun
  · rw [hrun] at h
    simp at h

end AllOrNothing

/-! ### The writes -/

namespace Store

/-- The newest play is read before the transaction starts. -/
theorem allOrNothing_appendPlays (plays : List Play) : AllOrNothing (appendPlays plays).outcome :=
  .bind_reading (fun _ => keeps_latestPlayedAt) fun _ => .transaction _

/-- The stored names are read before the transaction starts. -/
theorem allOrNothing_pruneRoots (keep : List String) :
    AllOrNothing (pruneRoots keep).outcome := by
  unfold pruneRoots
  split
  · exact .pure _
  · refine .bind_reading (fun _ => keeps_rootNames) fun names => ?_
    exact .bind_pure (.transaction _) fun _ => _

end Store

/-- The candidates are read, and only storing them writes. -/
theorem allOrNothing_compile {σ : Type} (d : Definition) (policy : UnresolvedPolicy)
    (s : Session σ) : AllOrNothing ((compile d policy).onDatabase s) := by
  intro db e after h
  simp only [Job.onDatabase] at h
  rcases hrun : (compile d policy).outcome { s with database := db } with ⟨e' | root, s'⟩
  · rw [hrun] at h
    obtain ⟨-, rfl⟩ := Prod.mk.inj h
    exact database_compile_of_error hrun
  · rw [hrun] at h
    simp at h

/-- **A failed write changes nothing**: whatever tables are missing, whatever they hold and whatever
is to be written, a write that fails leaves the database as it was.  The last part is the failure
that comes latest: a set that lists a track twice has its old rows deleted and some of the new ones
inserted before the second row of that track is refused. -/
theorem allOrNothing_writes :
    (∀ tracks, AllOrNothing (Store.replaceLibrary tracks).outcome) ∧
    (∀ artists, AllOrNothing (Store.upsertArtists artists).outcome) ∧
    (∀ features, AllOrNothing (Store.upsertFeatures features).outcome) ∧
    (∀ plays, AllOrNothing (Store.appendPlays plays).outcome) ∧
    (∀ root, AllOrNothing (Store.storeRoot root).outcome) ∧
    (∀ keep, AllOrNothing (Store.pruneRoots keep).outcome) ∧
    (∀ (σ : Type) (s : Session σ) d policy, AllOrNothing ((compile d policy).onDatabase s)) ∧
    (∀ key nonce service value, AllOrNothing (Cache.set key nonce service value).run) ∧
    ∀ (root : RootPlaylist) (db : Database), db.rootPlaylists.isSome →
      ¬(root.tracks.map RootTrack.trackId).Nodup →
      (Store.storeRoot root).outcome db = (.error (.duplicateKey "root_playlists"), db) := by
  refine ⟨fun tracks => .transaction _, fun artists => .transaction _,
    fun features => .transaction _, Store.allOrNothing_appendPlays, fun root => .transaction _,
    Store.allOrNothing_pruneRoots, fun _ s d policy => allOrNothing_compile d policy s,
    fun key nonce service value => .ofStore (.transaction _), ?_⟩
  intro root db htable hrepeated
  obtain ⟨stored, hstored⟩ := Option.isSome_iff_exists.mp htable
  exact Store.outcome_storeRoot_of_repeated hstored hrepeated

/-! #### A track listed twice -/

/-- A database with one stored set and no other table. -/
def mixOnly : Database := { rootPlaylists := some [⟨"mix", "a", true⟩] }

/-- A set in which the third track is the first one again. -/
def twiceListed : RootPlaylist := ⟨"mix", [⟨"b", true⟩, ⟨"c", true⟩, ⟨"b", false⟩]⟩

/-- The statements alone would leave the first two new rows in place of the old one; the write leaves
the old one. -/
theorem storeRoot_twiceListed :
    ((do Store.deleteWhere .rootPlaylists fun r => r.name = "mix"
         twiceListed.tracks.forM fun t => Store.insertUnique .rootPlaylists
          (fun r => (r.name, r.trackId)) ⟨"mix", t.trackId, t.rotate⟩ :
        Store.Action Unit).outcome mixOnly).2
      = { rootPlaylists := some [⟨"mix", "b", true⟩, ⟨"mix", "c", true⟩] } ∧
    (Store.storeRoot twiceListed).outcome mixOnly
      = (.error (.duplicateKey "root_playlists"), mixOnly) :=
  ⟨rfl, allOrNothing_writes.2.2.2.2.2.2.2.2 twiceListed mixOnly rfl (by decide)⟩

end SmartPlaylist
