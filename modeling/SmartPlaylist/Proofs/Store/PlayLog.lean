import SmartPlaylist.Proofs.Selection.Rotation

/-!
# The play history is a log

Plays are only ever added behind those that are there.  Of a batch those are added that are later
than every play stored before the batch; the newest stored play is looked up once a batch, so plays
of one batch are not compared with each other and may come in any order and more than once.  What is
looked up is a text, read back as a moment: the greatest text, and hence the latest play.

## Main definitions

* `Play.row` — a play as it is stored.
* `Store.newPlays`, `Store.additions`, `Store.journal` — what batches add to a log.
* `Store.IsLatestOf`, `Store.HasGreatestText` — the latest time of some plays, and the time with the
  greatest text.

## Main results

* `Store.exists_latestPlayedAt` — what is looked up in any log.
* `Store.outcome_latestPlayedAt`, `Store.exists_lastPlayed_journal` — what is read from a log.
* `Store.outcome_appendPlays` — what one batch does to it.
* `Store.appendPlays_journal` — **the log after any number of batches.**
-/

namespace SmartPlaylist

/-- A play as it is stored. -/
def Play.row (p : Play) : PlayRow := ⟨p.trackId, p.playedAt.storedText⟩

namespace Store

variable {db : Database} {log batch : List Play}

/-! ### Logs -/

/-- The plays of a batch that are later than every play of the log. -/
def newPlays (log batch : List Play) : List Play :=
  batch.filter fun p => ∀ q ∈ log, q.playedAt < p.playedAt

/-- What each of several batches adds to a log. -/
def additions (log : List Play) : List (List Play) → List (List Play)
  | [] => []
  | batch :: rest => newPlays log batch :: additions (log ++ newPlays log batch) rest

/-- The log that batches make of an empty one. -/
def journal (batches : List (List Play)) : List Play := (additions [] batches).flatten

/-- The latest time of some plays; there is one unless there are no plays. -/
def IsLatestOf (plays : List Play) : Option Moment → Prop
  | none => plays = []
  | some m => (∃ p ∈ plays, p.playedAt = m) ∧ ∀ p ∈ plays, p.playedAt ≤ m

/-- The time of a play whose text no other exceeds; there is one unless there are no plays. -/
def HasGreatestText (plays : List Play) : Option Moment → Prop
  | none => plays = []
  | some m => (∃ p ∈ plays, p.playedAt = m) ∧ ∀ p ∈ plays, p.playedAt.storedText ≤ m.storedText

/-- There is only one latest time. -/
theorem IsLatestOf.unique {plays : List Play} {a b : Option Moment} (ha : IsLatestOf plays a)
    (hb : IsLatestOf plays b) : a = b := by
  cases a with
  | none =>
    obtain rfl : plays = [] := ha
    cases b with
    | none => rfl
    | some m => simp [IsLatestOf] at hb
  | some m =>
    obtain ⟨⟨p, hp, rfl⟩, hmax⟩ := ha
    cases b with
    | none => simp [show plays = [] from hb] at hp
    | some m' =>
      obtain ⟨⟨q, hq, rfl⟩, hmax'⟩ := hb
      exact congrArg some (Moment.rank_injective (Int.le_antisymm (hmax' p hp) (hmax q hq)))

/-- More batches add behind what is there. -/
theorem additions_append (log : List Play) (earlier later : List (List Play)) :
    additions log (earlier ++ later)
      = additions log earlier ++ additions (log ++ (additions log earlier).flatten) later := by
  induction earlier generalizing log with
  | nil => simp [additions]
  | cons batch earlier ih => simp [additions, ih]

theorem journal_prefix (earlier later : List (List Play)) :
    journal earlier <+: journal (earlier ++ later) := by
  unfold journal
  rw [additions_append, List.flatten_append]
  exact List.prefix_append _ _

/-- What is added to a log has the years of the batches. -/
theorem hasPlainYear_newPlays (h : ∀ p ∈ batch, p.playedAt.HasPlainYear) :
    ∀ p ∈ newPlays log batch, p.playedAt.HasPlainYear :=
  fun p hp => h p (List.mem_filter.mp hp).1

theorem hasPlainYear_additions {batches : List (List Play)}
    (h : ∀ batch ∈ batches, ∀ p ∈ batch, p.playedAt.HasPlainYear) :
    ∀ p ∈ (additions log batches).flatten, p.playedAt.HasPlainYear := by
  induction batches generalizing log with
  | nil => simp [additions]
  | cons batch batches ih =>
    rw [additions, List.flatten_cons, List.forall_mem_append]
    rw [List.forall_mem_cons] at h
    exact ⟨hasPlainYear_newPlays h.1, ih h.2⟩

/-! ### Reading a log -/

/-- Every stored play bears the text of its moment. -/
theorem exists_storedText_of_mem {r : PlayRow} (h : r ∈ log.map Play.row) :
    ∃ m : Moment, r.playedAt = m.storedText := by
  obtain ⟨p, -, rfl⟩ := List.mem_map.mp h
  exact ⟨p.playedAt, rfl⟩

/-- Different plays are stored as different rows. -/
theorem mem_map_row {id : String} {m : Moment} :
    (⟨id, m.storedText⟩ : PlayRow) ∈ log.map Play.row ↔ ∃ p ∈ log, p.trackId = id ∧
      p.playedAt = m := by
  rw [List.mem_map]
  constructor
  · rintro ⟨p, hp, heq⟩
    obtain ⟨hid, htext⟩ := PlayRow.mk.inj heq
    exact ⟨p, hp, hid, Moment.storedText_injective htext⟩
  · rintro ⟨p, hp, rfl, rfl⟩
    exact ⟨p, hp, rfl⟩

/-- What is looked up in a log is the time of the play with the greatest text. -/
theorem exists_latestPlayedAt (h : db.playHistory = some (log.map Play.row)) :
    ∃ newest, latestPlayedAt.outcome db = (.ok newest, db) ∧ HasGreatestText log newest := by
  have hrows : (rows .playHistory).outcome db = (.ok (log.map Play.row), db) :=
    outcome_rows_of_some h
  have htexts : (log.map Play.row).map PlayRow.playedAt
      = log.map fun p => p.playedAt.storedText := List.map_map
  rw [latestPlayedAt, outcome_bind_of_ok hrows, htexts]
  cases hgreatest : Text.greatest? (log.map fun p => p.playedAt.storedText) with
  | none =>
    have hempty : log = [] := List.map_eq_nil_iff.mp (Text.greatest?_eq_none_iff.mp hgreatest)
    exact ⟨none, rfl, hempty⟩
  | some text =>
    obtain ⟨hmem, hmax⟩ := Text.greatest?_spec hgreatest
    obtain ⟨newest, hnewest, rfl⟩ := List.mem_map.mp hmem
    refine ⟨some newest.playedAt, ?_, ⟨newest, hnewest, rfl⟩, fun p hp => ?_⟩
    · show (readTime newest.playedAt.storedText >>= fun m => pure (some m)).outcome db = _
      rw [readTime, Moment.ofStoredText?_storedText]
      rfl
    · exact hmax _ (List.mem_map_of_mem hp)

/-- The latest play is found by its text: no text is greater, so no time is later. -/
theorem outcome_latestPlayedAt (h : db.playHistory = some (log.map Play.row))
    (hyears : ∀ p ∈ log, p.playedAt.HasPlainYear) :
    ∃ latest, latestPlayedAt.outcome db = (.ok latest, db) ∧ IsLatestOf log latest := by
  obtain ⟨newest, hread, hgreatest⟩ := exists_latestPlayedAt h
  refine ⟨newest, hread, ?_⟩
  cases newest with
  | none => exact hgreatest
  | some m =>
    obtain ⟨⟨latest, hlatest, rfl⟩, hmax⟩ := hgreatest
    refine ⟨⟨latest, hlatest, rfl⟩, fun p hp => ?_⟩
    exact (Moment.storedText_le_iff (hyears p hp) (hyears latest hlatest)).mp (hmax p hp)

/-- The latest play of each track is found by its text. -/
theorem exists_lastPlayed_journal (h : db.playHistory = some (log.map Play.row))
    (hyears : ∀ p ∈ log, p.playedAt.HasPlainYear) :
    ∃ history, lastPlayed.outcome db = (.ok history, db) ∧
      ∀ id, IsLatestOf (log.filter fun p => p.trackId = id) (history.lookup id) := by
  have htexts : ∀ r ∈ log.map Play.row, ∃ m : Moment, r.playedAt = m.storedText :=
    fun _ => exists_storedText_of_mem
  obtain ⟨history, houtcome, hlookup⟩ := exists_lastPlayed h htexts
  refine ⟨history, houtcome, fun id => ?_⟩
  have hplain : ∀ m : Moment, ⟨id, m.storedText⟩ ∈ log.map Play.row → m.HasPlainYear := by
    intro m hm
    obtain ⟨p, hp, -, rfl⟩ := mem_map_row.mp hm
    exact hyears p hp
  have hspec := lastPlay_spec htexts hplain
  rw [hlookup]
  cases hlast : lastPlay (log.map Play.row) id with
  | none =>
    rw [hlast] at hspec
    refine List.filter_eq_nil_iff.mpr fun p hp hid => ?_
    exact hspec p.playedAt (mem_map_row.mpr ⟨p, hp, of_decide_eq_true hid, rfl⟩)
  | some latest =>
    rw [hlast] at hspec
    obtain ⟨hmem, hmax⟩ := hspec
    obtain ⟨p, hp, hid, hlatest⟩ := mem_map_row.mp hmem
    refine ⟨⟨p, List.mem_filter.mpr ⟨hp, decide_eq_true hid⟩, hlatest⟩, fun q hq => ?_⟩
    obtain ⟨hq, hqid⟩ := List.mem_filter.mp hq
    exact hmax q.playedAt (mem_map_row.mpr ⟨q, hq, of_decide_eq_true hqid, rfl⟩)

/-! ### Adding to a log -/

/-- A play later than the latest one is later than all. -/
theorem isNew_iff {latest : Option Moment} (h : IsLatestOf log latest) (p : Play) :
    isNew latest p = true ↔ ∀ q ∈ log, q.playedAt < p.playedAt := by
  cases latest with
  | none =>
    obtain rfl : log = [] := h
    simp [isNew]
  | some m =>
    obtain ⟨⟨q, hq, rfl⟩, hmax⟩ := h
    simp only [isNew, Bool.not_eq_true', decide_eq_false_iff_not]
    constructor
    · intro hlater q' hq'
      exact Int.lt_of_le_of_lt (hmax q' hq') (Int.not_le.mp hlater)
    · intro hall
      exact Int.not_le.mpr (hall q hq)

theorem filter_isNew {latest : Option Moment} (h : IsLatestOf log latest) (batch : List Play) :
    batch.filter (isNew latest) = newPlays log batch := by
  refine List.filter_congr fun p _ => ?_
  rw [Bool.eq_iff_iff, isNew_iff h p, decide_eq_true_eq]

/-- A batch adds what is later than the time that was looked up. -/
theorem outcome_appendPlays_of_read {newest : Option Moment}
    (h : db.playHistory = some (log.map Play.row))
    (hread : latestPlayedAt.outcome db = (.ok newest, db)) (batch : List Play) :
    (appendPlays batch).outcome db = (.ok (batch.filter (isNew newest)).length, { db with
      playHistory := some ((log ++ batch.filter (isNew newest)).map Play.row) }) := by
  have hprepare : (prepare .playHistory).outcome db = (.ok (), db) := by
    rw [prepare, outcome_bind_of_ok (outcome_rows_of_some h)]
    rfl
  have hinsert :=
    outcome_forM_insert (t := .playHistory) Play.row (batch.filter (isNew newest)) _ db h
  rw [← List.map_append] at hinsert
  rw [appendPlays, outcome_bind_of_ok hread]
  refine outcome_transaction_of_ok ?_
  rw [outcome_bind_of_ok hprepare]
  exact outcome_bind_of_ok hinsert

/-- **What one batch does to a log**: its new plays are added behind, and counted. -/
theorem outcome_appendPlays (h : db.playHistory = some (log.map Play.row))
    (hyears : ∀ p ∈ log, p.playedAt.HasPlainYear) (batch : List Play) :
    (appendPlays batch).outcome db = (.ok (newPlays log batch).length, { db with
      playHistory := some ((log ++ newPlays log batch).map Play.row) }) := by
  obtain ⟨latest, hread, hlatest⟩ := outcome_latestPlayedAt h hyears
  rw [← filter_isNew hlatest batch]
  exact outcome_appendPlays_of_read h hread batch

/-- What several batches do to a log, one after another. -/
theorem outcome_mapM_appendPlays {batches : List (List Play)}
    (h : db.playHistory = some (log.map Play.row)) (hlog : ∀ p ∈ log, p.playedAt.HasPlainYear)
    (hbatches : ∀ batch ∈ batches, ∀ p ∈ batch, p.playedAt.HasPlainYear) :
    (batches.mapM appendPlays).outcome db
      = (.ok ((additions log batches).map List.length), { db with
          playHistory := some ((log ++ (additions log batches).flatten).map Play.row) }) := by
  induction batches generalizing log db with
  | nil =>
    rw [additions, List.flatten_nil, List.append_nil, ← h]
    rfl
  | cons batch batches ih =>
    -- the rest of the batches meets the log that the first one leaves
    rw [List.forall_mem_cons] at hbatches
    have hlog' : ∀ p ∈ log ++ newPlays log batch, p.playedAt.HasPlainYear :=
      List.forall_mem_append.mpr ⟨hlog, hasPlainYear_newPlays hbatches.1⟩
    rw [List.mapM_cons, outcome_bind_of_ok (outcome_appendPlays h hlog batch),
      outcome_bind_of_ok (ih rfl hlog' hbatches.2), additions, List.flatten_cons, List.map_cons,
      List.append_assoc]
    rfl

/-- **The log after any number of batches** on an empty history: what is stored is, batch by batch,
the plays later than all stored before the batch; each call gives their number; the latest play of
all and of each track is found; and what was stored after fewer batches still stands in front. -/
theorem appendPlays_journal (hempty : db.playHistory = some []) (batches : List (List Play))
    (hyears : ∀ batch ∈ batches, ∀ p ∈ batch, p.playedAt.HasPlainYear) :
    ∃ after, (batches.mapM appendPlays).outcome db
        = (.ok ((additions [] batches).map List.length), after) ∧
      after = { db with playHistory := some ((journal batches).map Play.row) } ∧
      (∃ latest, latestPlayedAt.outcome after = (.ok latest, after) ∧
        IsLatestOf (journal batches) latest) ∧
      (∃ history, lastPlayed.outcome after = (.ok history, after) ∧
        ∀ id, IsLatestOf ((journal batches).filter fun p => p.trackId = id)
          (history.lookup id)) ∧
      ∀ earlier later, batches = earlier ++ later → journal earlier <+: journal batches := by
  have hjournal : ∀ p ∈ journal batches, p.playedAt.HasPlainYear := hasPlainYear_additions hyears
  have hnil : db.playHistory = some (([] : List Play).map Play.row) := hempty
  refine ⟨_, outcome_mapM_appendPlays hnil (List.forall_mem_nil _) hyears, rfl,
    outcome_latestPlayedAt rfl hjournal, exists_lastPlayed_journal rfl hjournal, ?_⟩
  rintro earlier later rfl
  exact journal_prefix earlier later

/-! #### Two batches that overlap -/

/-- The middle of a leap second at the end of a day. -/
def leapSecond (day : Nat) : Moment where
  date := .ofDayNumber day
  second := 86399
  nano := 1_500_000_000
  second_lt := by decide
  nano_lt := by decide
  leap_ends_minute := by decide

/-- The second batch repeats a play of the first, and has its own latest play twice. -/
def overlapping : List (List Play) :=
  [[⟨"b", midnight 3⟩, ⟨"a", midnight 2⟩],
    [⟨"c", leapSecond 3⟩, ⟨"b", midnight 3⟩, ⟨"a", midnight 4⟩, ⟨"a", midnight 4⟩]]

/-- The repeated play is skipped; the leap second comes before the midnight that follows it. -/
theorem appendPlays_overlapping :
    ∃ after, (overlapping.mapM appendPlays).outcome Database.fresh = (.ok [2, 3], after) ∧
      latestPlayedAt.outcome after = (.ok (some (midnight 4)), after) ∧
      (journal overlapping).map Play.trackId = ["b", "a", "c", "a", "a"] := by
  have hyears : ∀ batch ∈ overlapping, ∀ p ∈ batch, p.playedAt.HasPlainYear := by
    unfold overlapping Moment.HasPlainYear
    decide
  have hempty : Database.fresh.playHistory = some [] := rfl
  obtain ⟨after, hrun, -, ⟨latest, hlatest, hspec⟩, -⟩ :=
    appendPlays_journal hempty overlapping hyears
  have hmidnight : IsLatestOf (journal overlapping) (some (midnight 4)) := by
    unfold IsLatestOf
    decide
  rw [hspec.unique hmidnight] at hlatest
  exact ⟨after, hrun, hlatest, by decide⟩

end Store

end SmartPlaylist
