import SmartPlaylist.Proofs.Store.Outcome
import SmartPlaylist.Proofs.Text.ByteOrder
import SmartPlaylist.Store.RootPlaylists

/-!
# Stored root playlists, read back

Storing a set takes out the rows of its name and puts the new ones last, so the rows of other names
stay as they are.  Loading it sorts the rows of its name; a set that was sorted comes back as it
was.  Pruning takes out the rows of all names that are not kept.

## Main definitions

* `RootPlaylist.rows` — a set as rows.
* `RootPlaylist.Sorted` — its tracks stand in strictly increasing order.
* `Database.withRoot` — a database with a set in place of the one stored under its name.
* `Store.rowsOf` — the rows stored under a name.
* `Store.RootsKeyed` — no two rows have both the name and the track in common.

## Main results

* `Store.outcome_storeRoot` — **what storing a set does to the database.**
* `Store.outcome_loadRoot_of_stored` — a stored set is loaded as it was.
* `Store.exists_loadRoot`, `Store.loadRoot_spec` — what is loaded, whatever is stored.
* `Store.outcome_pruneRoots` — **what pruning does to the database.**
-/

namespace SmartPlaylist

namespace RootPlaylist

/-- A set as rows of the table. -/
def rows (root : RootPlaylist) : List RootRow :=
  root.tracks.map fun t => ⟨root.name, t.trackId, t.rotate⟩

/-- The tracks stand in strictly increasing order of their ids. -/
def Sorted (root : RootPlaylist) : Prop := root.tracks.Pairwise fun a b => a.trackId < b.trackId

theorem Sorted.nodup {root : RootPlaylist} (h : root.Sorted) :
    (root.tracks.map RootTrack.trackId).Nodup :=
  Text.nodup_of_pairwise (List.pairwise_map.mpr h)

end RootPlaylist

/-- The database with a set in place of the one stored under its name. -/
def Database.withRoot (db : Database) (root : RootPlaylist) : Database :=
  { db with
    rootPlaylists := some ((db.rootPlaylists.getD []).filter (·.name ≠ root.name) ++ root.rows) }

namespace Store

variable {db : Database} {root : RootPlaylist} {stored : List RootRow} {name : String}

/-! ### Storing -/

theorem outcome_storeRoot (h : db.rootPlaylists = some stored)
    (hnodup : (root.tracks.map RootTrack.trackId).Nodup) :
    (storeRoot root).outcome db = (.ok (), { db with
      rootPlaylists := some ((stored.filter fun r => r.name ≠ root.name) ++ root.rows) }) := by
  have hdelete : (deleteWhere .rootPlaylists fun r => r.name = root.name).outcome db
      = (.ok (), Table.rootPlaylists.set
          (some (stored.filter fun r => !decide (r.name = root.name))) db) :=
    outcome_deleteWhere h
  have hinsert := outcome_forM_insertUnique (t := .rootPlaylists)
    (fun r : RootRow => (r.name, r.trackId))
    (fun t : RootTrack => RootRow.mk root.name t.trackId t.rotate) root.tracks
    (stored.filter fun r => !decide (r.name = root.name)) _ (Table.Lawful.get_set _ db)
    (by
      rw [List.Nodup, List.pairwise_map] at hnodup ⊢
      exact hnodup.imp fun hne heq => hne (congrArg Prod.snd heq))
    (by
      -- no row of that name is left
      intro t _ r hr heq
      have hname : ¬r.name = root.name := by simpa using (List.mem_filter.mp hr).2
      exact hname (congrArg Prod.fst heq))
  rw [Table.Lawful.set_set] at hinsert
  refine outcome_transaction_of_ok ((outcome_bind_of_ok hdelete).trans (hinsert.trans ?_))
  simp only [decide_not]
  rfl

theorem outcome_storeRoot_of_none (h : db.rootPlaylists = none) :
    (storeRoot root).outcome db = (.error (.missingTable Table.rootPlaylists.name), db) := by
  have hget : Table.rootPlaylists.get db = none := h
  have hdelete : (deleteWhere .rootPlaylists fun r => r.name = root.name).outcome db
      = (.error (.missingTable Table.rootPlaylists.name), db) := by
    rw [deleteWhere, outcome_modifyRows, hget]
  rw [storeRoot, outcome_transaction, outcome_bind_of_error hdelete]

/-- A set that lists a track twice is not stored: by the time the second row fails, the old rows are
deleted and some new ones are in, and all of that is taken back. -/
theorem outcome_storeRoot_of_repeated (h : db.rootPlaylists = some stored)
    (hrepeated : ¬(root.tracks.map RootTrack.trackId).Nodup) :
    (storeRoot root).outcome db = (.error (.duplicateKey Table.rootPlaylists.name), db) := by
  have hdelete : (deleteWhere .rootPlaylists fun r => r.name = root.name).outcome db
      = (.ok (), Table.rootPlaylists.set
          (some (stored.filter fun r => !decide (r.name = root.name))) db) :=
    outcome_deleteWhere h
  obtain ⟨after, hinsert⟩ := exists_forM_insertUnique_error (t := .rootPlaylists)
    (fun r : RootRow => (r.name, r.trackId))
    (fun t : RootTrack => RootRow.mk root.name t.trackId t.rotate) root.tracks
    (stored.filter fun r => !decide (r.name = root.name)) _ (Table.Lawful.get_set _ db)
    (by
      rintro ⟨hnodup, -⟩
      rw [List.Nodup, List.pairwise_map] at hnodup hrepeated
      exact hrepeated (hnodup.imp fun hne heq => hne (congrArg (Prod.mk root.name) heq)))
  rw [storeRoot, outcome_transaction, outcome_bind_of_ok hdelete, hinsert]

/-- Where the table is there, storing a set puts it in place of the one under its name. -/
theorem outcome_storeRoot_eq_withRoot (h : db.rootPlaylists = some stored)
    (hnodup : (root.tracks.map RootTrack.trackId).Nodup) :
    (storeRoot root).outcome db = (.ok (), db.withRoot root) := by
  rw [outcome_storeRoot h hnodup, Database.withRoot, h, Option.getD_some]

/-! ### Loading -/

/-- The order in which a set is loaded. -/
def loadOrder (a b : RootTrack) : Bool := decide (a.trackId ≤ b.trackId)

/-- The candidates stored under a name. -/
def ownTracks (stored : List RootRow) (name : String) : List RootTrack :=
  (stored.filter fun r => r.name = name).map fun r => ⟨r.trackId, r.rotate⟩

theorem outcome_loadRoot (h : db.rootPlaylists = some stored) :
    (loadRoot name).outcome db
      = (.ok ⟨name, (ownTracks stored name).mergeSort loadOrder⟩, db) := by
  rw [loadRoot, outcome_bind_of_ok (outcome_rows_of_some h)]
  rfl

/-- The rows of other names do not show. -/
theorem ownTracks_append_rows :
    ownTracks ((stored.filter fun r => r.name ≠ root.name) ++ root.rows) root.name
      = root.tracks := by
  have hothers : (stored.filter fun r => r.name ≠ root.name).filter (fun r => r.name = root.name)
      = [] := by
    rw [List.filter_filter, List.filter_eq_nil_iff]
    simp
  have hown : root.rows.filter (fun r => r.name = root.name) = root.rows := by
    rw [List.filter_eq_self]
    simp [RootPlaylist.rows]
  rw [ownTracks, List.filter_append, hothers, hown, List.nil_append, RootPlaylist.rows,
    List.map_map]
  exact List.map_id _

/-- **A stored set is loaded as it was.** -/
theorem outcome_loadRoot_of_stored (hroot : root.Sorted)
    (h : db.rootPlaylists = some ((stored.filter fun r => r.name ≠ root.name) ++ root.rows)) :
    (loadRoot root.name).outcome db = (.ok root, db) := by
  have hsorted : root.tracks.Pairwise fun a b => loadOrder a b = true :=
    hroot.imp fun hab => decide_eq_true (String.not_lt.mp (String.lt_asymm hab))
  rw [outcome_loadRoot h, ownTracks_append_rows, List.mergeSort_of_pairwise hsorted]

/-- The rows of other names stay. -/
theorem filter_ne_stored :
    ((stored.filter fun r => r.name ≠ root.name) ++ root.rows).filter (fun r => r.name ≠ root.name)
      = stored.filter fun r => r.name ≠ root.name := by
  have hown : root.rows.filter (fun r => r.name ≠ root.name) = [] := by
    rw [List.filter_eq_nil_iff]
    simp [RootPlaylist.rows]
  rw [List.filter_append, hown, List.append_nil, List.filter_filter]
  simp only [Bool.and_self]

/-- No two rows have both the name and the track in common. -/
def RootsKeyed (stored : List RootRow) : Prop :=
  stored.Pairwise fun r r' => (r.name, r.trackId) ≠ (r'.name, r'.trackId)

theorem mem_ownTracks {t : RootTrack} :
    t ∈ ownTracks stored name ↔ ⟨name, t.trackId, t.rotate⟩ ∈ stored := by
  rw [ownTracks, List.mem_map]
  constructor
  · rintro ⟨r, hr, rfl⟩
    obtain ⟨hr, hname⟩ := List.mem_filter.mp hr
    rw [← of_decide_eq_true hname]
    exact hr
  · intro h
    exact ⟨_, List.mem_filter.mpr ⟨h, decide_eq_true rfl⟩, rfl⟩

theorem pairwise_ownTracks (h : RootsKeyed stored) :
    (ownTracks stored name).Pairwise fun a b => a.trackId ≠ b.trackId := by
  rw [ownTracks, List.pairwise_map]
  have hown : (stored.filter fun r => r.name = name).Pairwise
      fun r r' => (r.name, r.trackId) ≠ (r'.name, r'.trackId) := h.filter _
  refine hown.imp_of_mem fun {r r'} hr hr' hne heq => hne ?_
  have hname : r.name = name := of_decide_eq_true (List.mem_filter.mp hr).2
  have hname' : r'.name = name := of_decide_eq_true (List.mem_filter.mp hr').2
  rw [hname, hname']
  exact congrArg (Prod.mk name) heq

/-- **What is loaded**: the rows of the name, in strictly increasing order of the tracks. -/
theorem exists_loadRoot (h : db.rootPlaylists = some stored) (hkey : RootsKeyed stored)
    (name : String) :
    ∃ root, (loadRoot name).outcome db = (.ok root, db) ∧ root.Sorted ∧
      ∀ t, t ∈ root.tracks ↔ ⟨name, t.trackId, t.rotate⟩ ∈ stored := by
  refine ⟨_, outcome_loadRoot h, ?_, fun t => ?_⟩
  · have hle : ((ownTracks stored name).mergeSort loadOrder).Pairwise
        fun a b => loadOrder a b = true := by
      refine List.pairwise_mergeSort (fun a b c hab hbc => ?_) (fun a b => ?_) _
      · simp only [loadOrder, decide_eq_true_eq] at *
        exact String.le_trans hab hbc
      · simpa only [loadOrder, Bool.or_eq_true, decide_eq_true_eq] using String.le_total _ _
    have hne : ((ownTracks stored name).mergeSort loadOrder).Pairwise
        fun a b => a.trackId ≠ b.trackId :=
      (List.mergeSort_perm _ loadOrder).symm.pairwise (pairwise_ownTracks hkey) fun h => h.symm
    -- in order, and no id twice
    refine List.Pairwise.imp (fun {a b} hab => ?_) (hle.and hne)
    have hab' : a.trackId ≤ b.trackId := of_decide_eq_true hab.1
    exact String.not_le.mp fun hba => hab.2 (String.le_antisymm hab' hba)
  · rw [(List.mergeSort_perm _ _).mem_iff, mem_ownTracks]

/-- What a set is like that was loaded from rows with the key of the table. -/
theorem loadRoot_spec {after : Database} (hkey : RootsKeyed (db.rootPlaylists.getD []))
    (h : (loadRoot name).outcome db = (.ok root, after)) :
    root.Sorted ∧ ∀ t, t ∈ root.tracks ↔
      ⟨name, t.trackId, t.rotate⟩ ∈ db.rootPlaylists.getD [] := by
  cases hstored : db.rootPlaylists with
  | none =>
    have hget : Table.rootPlaylists.get db = none := hstored
    rw [loadRoot, outcome_bind_of_error (outcome_rows_of_none hget)] at h
    exact absurd (Prod.mk.inj h).1 (by simp)
  | some stored =>
    rw [hstored, Option.getD_some] at hkey
    obtain ⟨root', hload, hsorted, hmem⟩ := exists_loadRoot hstored hkey name
    obtain rfl : root' = root := Except.ok.inj (Prod.mk.inj (hload.symm.trans h)).1
    exact ⟨hsorted, hmem⟩

/-! ### The rows of a name -/

/-- The rows stored under a name. -/
def rowsOf (db : Database) (name : String) : List RootRow :=
  (db.rootPlaylists.getD []).filter fun r => r.name = name

/-- Putting in a set changes the rows of its name only. -/
theorem rowsOf_withRoot (db : Database) (root : RootPlaylist) (name : String) :
    rowsOf (db.withRoot root) name = if name = root.name then root.rows else rowsOf db name := by
  unfold rowsOf Database.withRoot
  rw [Option.getD_some, List.filter_append, List.filter_filter]
  by_cases hname : name = root.name
  · have hothers : (db.rootPlaylists.getD []).filter
        (fun r => decide (r.name = name) && decide (r.name ≠ root.name)) = [] := by
      rw [List.filter_eq_nil_iff]
      intro r _
      simp [hname]
    have hown : root.rows.filter (fun r => r.name = name) = root.rows := by
      rw [List.filter_eq_self]
      simp [RootPlaylist.rows, hname]
    rw [hothers, hown, List.nil_append, if_pos hname]
  · have hothers : (db.rootPlaylists.getD []).filter
        (fun r => decide (r.name = name) && decide (r.name ≠ root.name))
          = (db.rootPlaylists.getD []).filter fun r => r.name = name := by
      refine List.filter_congr fun r _ => ?_
      by_cases hr : r.name = name
      · simp [hr, hname]
      · simp [hr]
    have hown : root.rows.filter (fun r => r.name = name) = [] := by
      rw [List.filter_eq_nil_iff]
      simp [RootPlaylist.rows, Ne.symm hname]
    rw [hothers, hown, List.append_nil, if_neg hname]

/-- A set whose rows stand under its name is loaded as it was. -/
theorem outcome_loadRoot_of_rowsOf (h : db.rootPlaylists = some stored) (hroot : root.Sorted)
    (hrows : rowsOf db root.name = root.rows) :
    (loadRoot root.name).outcome db = (.ok root, db) := by
  have hsorted : root.tracks.Pairwise fun a b => loadOrder a b = true :=
    hroot.imp fun hab => decide_eq_true (String.not_lt.mp (String.lt_asymm hab))
  have hown : ownTracks stored root.name = root.tracks := by
    rw [rowsOf, h, Option.getD_some] at hrows
    rw [ownTracks, hrows, RootPlaylist.rows, List.map_map]
    exact List.map_id _
  rw [outcome_loadRoot h, hown, List.mergeSort_of_pairwise hsorted]

/-! ### Pruning -/

/-- Deleting the sets of several names keeps the rows of all others. -/
theorem outcome_forM_deleteRoots : ∀ (names : List String) (stored : List RootRow)
    (db : Database), db.rootPlaylists = some stored →
      (names.forM fun name => deleteWhere .rootPlaylists fun r => r.name = name).outcome db
        = (.ok (), { db with rootPlaylists := some (stored.filter fun r => r.name ∉ names) }) := by
  intro names
  induction names with
  | nil =>
    intro stored db h
    have hall : stored.filter (fun r => r.name ∉ ([] : List String)) = stored := by
      rw [List.filter_eq_self]
      simp
    rw [hall, ← h]
    rfl
  | cons name names ih =>
    intro stored db h
    have hfirst : (deleteWhere .rootPlaylists fun r => r.name = name).outcome db = (.ok (), _) :=
      outcome_deleteWhere h
    have hrest := ih _ (Table.rootPlaylists.set
      (some (stored.filter fun r => !decide (r.name = name))) db) rfl
    refine (outcome_bind_of_ok hfirst).trans (hrest.trans ?_)
    have hboth : (stored.filter fun r => !decide (r.name = name)).filter (fun r => r.name ∉ names)
        = stored.filter fun r => r.name ∉ name :: names := by
      rw [List.filter_filter]
      refine List.filter_congr fun r _ => ?_
      by_cases hname : r.name = name
      · simp [hname]
      · simp [hname]
    rw [hboth]
    rfl

/-- **What pruning does to the database**: the rows of the names to keep stay. -/
theorem outcome_pruneRoots {keep : List String} (h : db.rootPlaylists = some stored)
    (hkeep : keep ≠ []) :
    ∃ removed, (pruneRoots keep).outcome db = (.ok removed,
      { db with rootPlaylists := some (stored.filter fun r => r.name ∈ keep) }) := by
  have hnames : rootNames.outcome db = (.ok (Text.distinct (stored.map RootRow.name)), db) :=
    outcome_bind_of_ok (outcome_rows_of_some h)
  have hdelete := outcome_forM_deleteRoots
    ((Text.distinct (stored.map RootRow.name)).filter fun name => !keep.contains name) stored db h
  -- a stored row goes when its name is not kept
  have hrows : (stored.filter fun r => r.name ∉
      (Text.distinct (stored.map RootRow.name)).filter fun name => !keep.contains name)
        = stored.filter fun r => r.name ∈ keep := by
    refine List.filter_congr fun r hr => ?_
    have hmem : r.name ∈ Text.distinct (stored.map RootRow.name) :=
      Text.mem_distinct.mpr (List.mem_map_of_mem hr)
    simp [List.mem_filter, hmem]
  rw [hrows] at hdelete
  have hempty : keep.isEmpty = false := by
    rw [Bool.eq_false_iff, Ne, List.isEmpty_iff]
    exact hkeep
  refine ⟨(Text.distinct (stored.map RootRow.name)).filter fun name => !keep.contains name, ?_⟩
  unfold pruneRoots
  rw [hempty, if_neg Bool.false_ne_true, outcome_bind_of_ok hnames,
    outcome_bind_of_ok (outcome_transaction_of_ok hdelete)]
  rfl

/-- Where the table is missing, pruning fails and changes nothing. -/
theorem outcome_pruneRoots_of_none {keep : List String} (h : db.rootPlaylists = none)
    (hkeep : keep ≠ []) :
    (pruneRoots keep).outcome db = (.error (.missingTable Table.rootPlaylists.name), db) := by
  have hget : Table.rootPlaylists.get db = none := h
  have hempty : keep.isEmpty = false := by
    rw [Bool.eq_false_iff, Ne, List.isEmpty_iff]
    exact hkeep
  unfold pruneRoots
  rw [hempty, if_neg Bool.false_ne_true]
  exact outcome_bind_of_error (outcome_bind_of_error (outcome_rows_of_none hget))

end Store

end SmartPlaylist
