import SmartPlaylist.Library.Pull
import SmartPlaylist.Proofs.Session.Outcome
import SmartPlaylist.Proofs.Store.PlayLog
import SmartPlaylist.Proofs.Time.Timestamp

/-!
# Pulling a page of plays again

A pull adds the plays of a page that are later than the newest play stored, so a second pull of the
page should find nothing to add.  The newest play is looked up by its text.  An offset from UTC can
lead a timestamp of the year 9999 into the year after it, whose texts come before those of all
other years.  Such a play is the newest one that is found only while there are no others; otherwise
it is overlooked, and added by every pull of a page that has it.

## Main definitions

* `Play.IsPast` — a play past the year 9999.
* `Store.visible` — the plays of a log among which the newest one is found.
* `Store.repeated` — what is added again by the second pull of a page.
* `PulledRows` — histories that come of pulls only.
* `LibraryService.AnswersHistory` — a service that answers with this page of plays.

## Main results

* `Store.HasGreatestText.isLatestOf_visible` — the newest play that is found.
* `Store.newPlays_visible_again` — what a batch adds when it comes again.
* `PulledRows.exists_log` — a history that comes of pulls is a log of nearby years.
* `pullHistory_again` — **a second pull of a page adds its plays past the year 9999, unless no
  others are stored, and nothing else.**
-/

namespace SmartPlaylist

/-- A play past the year 9999. -/
def Play.IsPast (p : Play) : Prop := 9999 < p.playedAt.date.year

instance (p : Play) : Decidable p.IsPast :=
  inferInstanceAs (Decidable (9999 < p.playedAt.date.year))

/-- A play past the year 9999 is later than one that is not. -/
theorem Play.IsPast.lt {p q : Play} (hp : p.IsPast) (hq : ¬q.IsPast) : q.playedAt < p.playedAt := by
  have hyear : q.playedAt.date.year < p.playedAt.date.year :=
    Int.lt_of_le_of_lt (Int.not_lt.mp hq) hp
  exact Moment.rank_lt_iff.mpr (Or.inl (Or.inl hyear))

/-- The database with a log for its history. -/
def Database.withLog (db : Database) (log : List Play) : Database :=
  { db with playHistory := some (log.map Play.row) }

theorem Database.withLog_eq_self {db : Database} {log : List Play}
    (h : db.playHistory = some (log.map Play.row)) : db.withLog log = db := by
  rw [withLog, ← h]

namespace Store

variable {db : Database} {log batch : List Play}

/-! ### What is found in a log -/

/-- The plays among which the newest one is found: those up to the year 9999, or all if there are
none. -/
def visible (log : List Play) : List Play :=
  if ∀ p ∈ log, p.IsPast then log else log.filter fun p => ¬p.IsPast

theorem visible_of_forall (h : ∀ p ∈ log, p.IsPast) : visible log = log := if_pos h

theorem visible_of_not_forall (h : ¬∀ p ∈ log, p.IsPast) :
    visible log = log.filter fun p => ¬p.IsPast := if_neg h

theorem mem_of_mem_visible {p : Play} (h : p ∈ visible log) : p ∈ log := by
  unfold visible at h
  split at h
  · exact h
  · exact (List.mem_filter.mp h).1

/-- The time with the greatest text is the latest of those plays. -/
theorem HasGreatestText.isLatestOf_visible {newest : Option Moment}
    (h : HasGreatestText log newest) (hyears : ∀ p ∈ log, p.playedAt.HasNearYear) :
    IsLatestOf (visible log) newest := by
  cases newest with
  | none =>
    obtain rfl : log = [] := h
    exact visible_of_forall (List.forall_mem_nil _)
  | some m =>
    obtain ⟨⟨q, hq, rfl⟩, hmax⟩ := h
    have hle : ∀ p ∈ log, (p.IsPast ↔ q.IsPast) → p.playedAt ≤ q.playedAt := by
      intro p hp hside
      have hside' : p.playedAt.date.year ≤ 9999 ↔ q.playedAt.date.year ≤ 9999 := by
        rw [← Int.not_lt, ← Int.not_lt]
        exact not_congr hside
      exact (Moment.storedText_le_iff_of_near (hyears p hp) (hyears q hq) hside').mp (hmax p hp)
    by_cases hall : ∀ p ∈ log, p.IsPast
    · rw [visible_of_forall hall]
      exact ⟨⟨q, hq, rfl⟩, fun p hp => hle p hp (iff_of_true (hall p hp) (hall q hq))⟩
    · have hnot : ¬q.IsPast := by
        intro hpast
        refine hall fun p hp => ?_
        by_contra hnot
        -- the text of this play would be greater
        have hlt := Moment.storedText_lt_of_past hpast (Int.not_lt.mp hnot)
        exact absurd (hmax p hp) (String.not_le.mpr hlt)
      rw [visible_of_not_forall hall]
      refine ⟨⟨q, List.mem_filter.mpr ⟨hq, decide_eq_true hnot⟩, rfl⟩, ?_⟩
      intro p hp
      obtain ⟨hp, hside⟩ := List.mem_filter.mp hp
      exact hle p hp (iff_of_false (of_decide_eq_true hside) hnot)

/-! ### What is added again -/

/-- The plays of a batch that are added although they are in the log: those past the year 9999,
unless the log has no others. -/
def repeated (log batch : List Play) : List Play :=
  if ∀ p ∈ log, p.IsPast then [] else batch.filter fun p => p.IsPast

theorem repeated_eq_nil_iff :
    repeated log batch = [] ↔ (∀ p ∈ batch, ¬p.IsPast) ∨ ∀ p ∈ log, p.IsPast := by
  unfold repeated
  split
  next hall => exact iff_of_true rfl (Or.inr hall)
  next hnot =>
    simp only [List.filter_eq_nil_iff, decide_eq_true_eq]
    exact ⟨Or.inl, fun h => h.resolve_right hnot⟩

/-- A play is not later than itself. -/
theorem not_forall_lt_of_mem {plays : List Play} {p : Play} (h : p ∈ plays) :
    ¬∀ q ∈ plays, q.playedAt < p.playedAt := fun hall => Int.lt_irrefl _ (hall p h)

/-- Where a play up to the year 9999 is in the log after a batch, the batch was compared with no
play past that year. -/
theorem not_isPast_of_mem_visible {q : Play}
    (hsome : ¬∀ r ∈ log ++ newPlays (visible log) batch, r.IsPast) (hq : q ∈ visible log) :
    ¬q.IsPast := by
  by_cases hold : ∀ r ∈ log, r.IsPast
  · -- what is new is later than this play, and so it is past the year 9999 if this one is
    intro hpast
    refine hsome (List.forall_mem_append.mpr ⟨hold, fun r hr => ?_⟩)
    by_contra hnot
    have hnew := of_decide_eq_true (List.mem_filter.mp hr).2
    exact absurd (hnew q hq) (Int.lt_asymm (hpast.lt hnot))
  · rw [visible_of_not_forall hold] at hq
    exact of_decide_eq_true (List.mem_filter.mp hq).2

/-- **What a batch adds when it comes again**: its plays past the year 9999, if any others are in the
log by then, and nothing else. -/
theorem newPlays_visible_again (log batch : List Play) :
    newPlays (visible (log ++ newPlays (visible log) batch)) batch
      = repeated (log ++ newPlays (visible log) batch) batch := by
  have hadded : ∀ p ∈ batch, (∀ q ∈ visible log, q.playedAt < p.playedAt) →
      p ∈ log ++ newPlays (visible log) batch := by
    intro p hp hnew
    exact List.mem_append_right _ (List.mem_filter.mpr ⟨hp, decide_eq_true hnew⟩)
  unfold repeated
  split
  next hall =>
    rw [visible_of_forall hall, newPlays, List.filter_eq_nil_iff]
    intro p hp hlater
    have hlater := of_decide_eq_true hlater
    by_cases hnew : ∀ q ∈ visible log, q.playedAt < p.playedAt
    · exact not_forall_lt_of_mem (hadded p hp hnew) hlater
    · exact hnew fun q hq => hlater q (List.mem_append_left _ (mem_of_mem_visible hq))
  next hsome =>
    rw [visible_of_not_forall hsome]
    refine List.filter_congr fun p hp => ?_
    rw [decide_eq_decide]
    constructor
    · intro hlater
      by_contra hnot
      -- the play is there itself, or one that is not earlier was there before
      by_cases hnew : ∀ q ∈ visible log, q.playedAt < p.playedAt
      · exact not_forall_lt_of_mem
          (List.mem_filter.mpr ⟨hadded p hp hnew, decide_eq_true hnot⟩) hlater
      · refine hnew fun q hq => hlater q (List.mem_filter.mpr ⟨?_, ?_⟩)
        · exact List.mem_append_left _ (mem_of_mem_visible hq)
        · exact decide_eq_true (not_isPast_of_mem_visible hsome hq)
    · intro hpast q hq
      exact hpast.lt (of_decide_eq_true (List.mem_filter.mp hq).2)

/-- What a batch does to a log of nearby years: it adds what is later than the newest play that is
found. -/
theorem exists_newest_appendPlays (h : db.playHistory = some (log.map Play.row))
    (hyears : ∀ p ∈ log, p.playedAt.HasNearYear) :
    ∃ newest, latestPlayedAt.outcome db = (.ok newest, db) ∧
      ∀ batch, (appendPlays batch).outcome db = (.ok (newPlays (visible log) batch).length,
        db.withLog (log ++ newPlays (visible log) batch)) := by
  obtain ⟨newest, hread, hgreatest⟩ := exists_latestPlayedAt h
  refine ⟨newest, hread, fun batch => ?_⟩
  rw [← filter_isNew (hgreatest.isLatestOf_visible hyears) batch]
  exact outcome_appendPlays_of_read h hread batch

end Store

open Store

variable {σ : Type}

/-! ### Pulls -/

/-- A pull looks up the newest play and asks for those since; then it fails with the service, or adds
the plays that it was given. -/
theorem exists_pullHistory (service : LibraryService σ) {s : Session σ} {newest : Option Moment}
    (hread : latestPlayedAt.outcome s.database = (.ok newest, s.database)) :
    ∃ mid : Session σ, mid.database = s.database ∧
      (pullHistory service).outcome s
        = match (service.recentlyPlayed newest s.remote).1.result with
          | .error e => (.error (.remote e), mid)
          | .ok page => ((Job.store (appendPlays (page.filterMap Pull.play?))).failAs
              RunError.store).outcome mid := by
  have hlatest : ((Job.store latestPlayedAt).failAs RunError.store).outcome s
      = (.ok newest, s) := by
    rw [Job.outcome_failAs_eq_mapError, Job.outcome_store, hread]
    rfl
  have hasked : ((Job.call (service.recentlyPlayed newest)).failAs RunError.remote).outcome s
      = ((service.recentlyPlayed newest s.remote).1.result.mapError .remote,
          ((Job.call (service.recentlyPlayed newest)).outcome s).2) := by
    rw [Job.outcome_failAs_eq_mapError]
    rfl
  refine ⟨((Job.call (service.recentlyPlayed newest)).outcome s).2, rfl, ?_⟩
  rw [pullHistory, Job.outcome_bind_of_ok hlatest]
  cases hanswer : (service.recentlyPlayed newest s.remote).1.result with
  | error e =>
    rw [hanswer] at hasked
    exact Job.outcome_bind_of_error hasked
  | ok page =>
    rw [hanswer] at hasked
    exact Job.outcome_bind_of_ok hasked

/-- Histories that come of pulls only, whatever the services answer, and whatever is done to the
other tables between the pulls. -/
inductive PulledRows : List PlayRow → Prop
  | empty : PulledRows []
  | pull {σ : Type} {service : LibraryService σ} {s : Session σ} {rows rows' : List PlayRow}
    (hrows : PulledRows rows) (hbefore : s.database.playHistory = some rows)
    (hafter : ((pullHistory service).outcome s).2.database.playHistory = some rows') :
    PulledRows rows'

/-- The plays of a page are of nearby years. -/
theorem hasNearYear_of_mem_page {page : List PlayedTrack} {p : Play}
    (h : p ∈ page.filterMap Pull.play?) : p.playedAt.HasNearYear := by
  obtain ⟨played, -, hplay⟩ := List.mem_filterMap.mp h
  unfold Pull.play? at hplay
  obtain ⟨id, -, hplay⟩ := Option.bind_eq_some_iff.mp hplay
  obtain ⟨m, hparse, hplay⟩ := Option.bind_eq_some_iff.mp hplay
  obtain rfl := Option.some.inj hplay
  exact Rfc3339.hasNearYear_of_parse hparse

/-- What a pull does to a log of nearby years: nothing, or what the page does that it was given. -/
theorem pullHistory_cases (service : LibraryService σ) {s : Session σ} {log : List Play}
    (h : s.database.playHistory = some (log.map Play.row))
    (hyears : ∀ p ∈ log, p.playedAt.HasNearYear) :
    ∃ (newest : Option Moment) (after : Session σ),
      (∃ e, (service.recentlyPlayed newest s.remote).1.result = .error e ∧
        (pullHistory service).outcome s = (.error (.remote e), after) ∧
        after.database = s.database) ∨
      ∃ page, (service.recentlyPlayed newest s.remote).1.result = .ok page ∧
        (pullHistory service).outcome s
          = (.ok (newPlays (visible log) (page.filterMap Pull.play?)).length, after) ∧
        after.database = s.database.withLog
          (log ++ newPlays (visible log) (page.filterMap Pull.play?)) := by
  obtain ⟨newest, hread, hadd⟩ := exists_newest_appendPlays h hyears
  obtain ⟨mid, hmid, hpull⟩ := exists_pullHistory service hread
  cases hanswer : (service.recentlyPlayed newest s.remote).1.result with
  | error e =>
    rw [hanswer] at hpull
    exact ⟨newest, mid, Or.inl ⟨e, hanswer, hpull, hmid⟩⟩
  | ok page =>
    rw [hanswer] at hpull
    have hwrite : ((Job.store (appendPlays (page.filterMap Pull.play?))).failAs
        RunError.store).outcome mid
          = (.ok (newPlays (visible log) (page.filterMap Pull.play?)).length, { mid with
              database := s.database.withLog
                (log ++ newPlays (visible log) (page.filterMap Pull.play?)) }) := by
      rw [Job.outcome_failAs_eq_mapError, Job.outcome_store, hmid, hadd]
      rfl
    exact ⟨newest, _, Or.inr ⟨page, hanswer, hpull.trans hwrite, rfl⟩⟩

/-- A history that comes of pulls is a log of nearby years. -/
theorem PulledRows.exists_log {rows : List PlayRow} (h : PulledRows rows) :
    ∃ log : List Play, rows = log.map Play.row ∧ ∀ p ∈ log, p.playedAt.HasNearYear := by
  induction h with
  | empty => exact ⟨[], rfl, List.forall_mem_nil _⟩
  | @pull σ service s rows rows' _ hbefore hafter ih =>
    obtain ⟨log, rfl, hyears⟩ := ih
    obtain ⟨newest, after, ⟨e, -, hrun, hdb⟩ | ⟨page, -, hrun, hdb⟩⟩ :=
      pullHistory_cases service hbefore hyears
    · rw [hrun, hdb, hbefore] at hafter
      exact ⟨log, (Option.some.inj hafter).symm, hyears⟩
    · rw [hrun, hdb] at hafter
      refine ⟨_, (Option.some.inj hafter).symm, List.forall_mem_append.mpr ⟨hyears, ?_⟩⟩
      intro p hp
      exact hasNearYear_of_mem_page (List.mem_filter.mp hp).1

/-- In this state the service answers with this page of plays, whatever time it is asked from. -/
def LibraryService.AnswersHistory (service : LibraryService σ) (r : σ)
    (page : List PlayedTrack) : Prop :=
  ∀ newest, (service.recentlyPlayed newest r).1.result = .ok page

/-- A pull that is answered with a page adds what the page adds to the log. -/
theorem exists_pullHistory_of_answers {service : LibraryService σ} {s : Session σ}
    {log : List Play} {page : List PlayedTrack}
    (h : s.database.playHistory = some (log.map Play.row))
    (hyears : ∀ p ∈ log, p.playedAt.HasNearYear) (hanswers : service.AnswersHistory s.remote page) :
    ∃ after, (pullHistory service).outcome s
        = (.ok (newPlays (visible log) (page.filterMap Pull.play?)).length, after) ∧
      after.database = s.database.withLog
        (log ++ newPlays (visible log) (page.filterMap Pull.play?)) := by
  obtain ⟨newest, after, ⟨e, hanswer, -⟩ | ⟨page', hanswer, hrun, hdb⟩⟩ :=
    pullHistory_cases service h hyears
  · rw [hanswers newest] at hanswer
    exact absurd hanswer (by simp)
  · rw [hanswers newest] at hanswer
    obtain rfl := Except.ok.inj hanswer
    exact ⟨after, hrun, hdb⟩

/-- Two pulls of a page, from a log of nearby years on. -/
theorem exists_pullHistory_twice {service : LibraryService σ} {s : Session σ} {log : List Play}
    {page : List PlayedTrack} (h : s.database.playHistory = some (log.map Play.row))
    (hyears : ∀ p ∈ log, p.playedAt.HasNearYear) (hfirst : service.AnswersHistory s.remote page) :
    ∃ (added : List Play) (mid : Session σ),
      added = newPlays (visible log) (page.filterMap Pull.play?) ∧
      (pullHistory service).outcome s = (.ok added.length, mid) ∧
      mid.database = s.database.withLog (log ++ added) ∧
      (service.AnswersHistory mid.remote page →
        ∃ after, (pullHistory service).outcome mid
            = (.ok (repeated (log ++ added) (page.filterMap Pull.play?)).length, after) ∧
          after.database = mid.database.withLog
            (log ++ added ++ repeated (log ++ added) (page.filterMap Pull.play?))) := by
  obtain ⟨mid, hrun, hdb⟩ := exists_pullHistory_of_answers h hyears hfirst
  refine ⟨_, mid, rfl, hrun, hdb, fun hsecond => ?_⟩
  have hstored : mid.database.playHistory
      = some ((log ++ newPlays (visible log) (page.filterMap Pull.play?)).map Play.row) := by
    rw [hdb]
    rfl
  have hyears' : ∀ p ∈ log ++ newPlays (visible log) (page.filterMap Pull.play?),
      p.playedAt.HasNearYear := by
    refine List.forall_mem_append.mpr ⟨hyears, fun p hp => ?_⟩
    exact hasNearYear_of_mem_page (List.mem_filter.mp hp).1
  obtain ⟨after, hagain, hafter⟩ := exists_pullHistory_of_answers hstored hyears' hsecond
  rw [newPlays_visible_again] at hagain hafter
  exact ⟨after, hagain, hafter⟩

/-- **A second pull of a page adds its plays past the year 9999, unless no others are stored, and
nothing else.**  So it gives 0 and leaves the database as it is, exactly when the page has no such
play or nothing else is stored. -/
theorem pullHistory_again (service : LibraryService σ) (s : Session σ) (page : List PlayedTrack)
    {rows : List PlayRow} (hrows : PulledRows rows) (hstored : s.database.playHistory = some rows)
    (hfirst : service.AnswersHistory s.remote page) :
    ∃ (log : List Play) (n : Nat) (mid : Session σ),
      (pullHistory service).outcome s = (.ok n, mid) ∧
      mid.database.playHistory = some (log.map Play.row) ∧
      (service.AnswersHistory mid.remote page →
        ∃ after, (pullHistory service).outcome mid
            = (.ok (repeated log (page.filterMap Pull.play?)).length, after) ∧
          after.database = mid.database.withLog
            (log ++ repeated log (page.filterMap Pull.play?)) ∧
          ((∀ p ∈ page.filterMap Pull.play?, ¬p.IsPast) ∨ (∀ p ∈ log, p.IsPast) ↔
            (pullHistory service).outcome mid = (.ok 0, after) ∧
              after.database = mid.database)) := by
  obtain ⟨log, rfl, hyears⟩ := hrows.exists_log
  obtain ⟨added, mid, -, hrun, hdb, hsecond⟩ := exists_pullHistory_twice hstored hyears hfirst
  have hstored' : mid.database.playHistory = some ((log ++ added).map Play.row) := by
    rw [hdb]
    rfl
  refine ⟨log ++ added, added.length, mid, hrun, hstored', fun hanswers => ?_⟩
  obtain ⟨after, hagain, hafter⟩ := hsecond hanswers
  refine ⟨after, hagain, hafter, ?_⟩
  rw [← repeated_eq_nil_iff, hagain]
  constructor
  · intro hnil
    rw [hnil, List.append_nil, Database.withLog_eq_self hstored'] at hafter
    rw [hnil]
    exact ⟨rfl, hafter⟩
  · rintro ⟨hzero, -⟩
    exact List.length_eq_zero_iff.mp (Except.ok.inj (congrArg Prod.fst hzero))

/-! #### The ends of the years -/

/-- A service whose history is always this page. -/
def historyService (page : List PlayedTrack) : LibraryService Unit where
  savedTracks _ _ := fun _ => (⟨.ok ⟨[], false⟩, []⟩, ())
  recentlyPlayed _ := fun _ => (⟨.ok page, []⟩, ())
  artists _ := fun _ => (⟨.ok [], []⟩, ())
  audioFeatures _ := fun _ => (⟨.ok [], []⟩, ())

theorem answersHistory_historyService (page : List PlayedTrack) (r : Unit) :
    (historyService page).AnswersHistory r page := fun _ => rfl

/-- A session in which nothing was pulled. -/
def unpulled : Session Unit where
  database := .fresh
  remote := ()
  entropy := { word := fun _ => 0 }

theorem playHistory_unpulled :
    unpulled.database.playHistory = some (([] : List Play).map Play.row) := rfl

/-- A leap second, and an hour that an offset leads to before the year 0. -/
def earlyPage : List PlayedTrack :=
  [⟨⟨some "a", "One", []⟩, "2016-12-31T23:59:60Z"⟩,
    ⟨⟨some "b", "Two", []⟩, "0000-01-01T00:00:00+01:00"⟩]

/-- Both plays are stored by the first pull, and none by the second. -/
theorem pullHistory_earlyPage :
    ∃ mid after, (pullHistory (historyService earlyPage)).outcome unpulled = (.ok 2, mid) ∧
      (pullHistory (historyService earlyPage)).outcome mid = (.ok 0, after) ∧
      after.database = mid.database := by
  obtain ⟨log, n, mid, hrun, -, hagain⟩ :=
    pullHistory_again (historyService earlyPage) unpulled earlyPage .empty rfl
      (answersHistory_historyService earlyPage ())
  obtain ⟨after, -, -, hiff⟩ := hagain (answersHistory_historyService earlyPage ())
  have hplain : ∀ p ∈ earlyPage.filterMap Pull.play?, ¬p.IsPast := by decide +kernel
  obtain ⟨hsecond, hdb⟩ := hiff.mp (Or.inl hplain)
  obtain ⟨added, mid', hadded, hrun', -, -⟩ := exists_pullHistory_twice playHistory_unpulled
    (List.forall_mem_nil _) (answersHistory_historyService earlyPage ())
  have hcount : added.length = 2 := by
    rw [hadded]
    decide +kernel
  rw [hrun, hcount] at hrun'
  obtain rfl : n = 2 := Except.ok.inj (congrArg Prod.fst hrun')
  exact ⟨mid, after, hrun, hsecond, hdb⟩

/-- An hour before the end of the year 9999, and a time that an offset leads to after it. -/
def latePage : List PlayedTrack :=
  [⟨⟨some "a", "One", []⟩, "9999-12-31T23:00:00Z"⟩,
    ⟨⟨some "b", "Two", []⟩, "9999-12-31T23:30:00-01:00"⟩]

/-- A second pull of a page may well add something: the later play, which is overlooked. -/
theorem pullHistory_latePage :
    ¬∀ (σ : Type) (service : LibraryService σ) (s : Session σ) (page : List PlayedTrack)
      (rows : List PlayRow) (n : Nat) (mid : Session σ), PulledRows rows →
      s.database.playHistory = some rows → service.AnswersHistory s.remote page →
      (pullHistory service).outcome s = (.ok n, mid) → service.AnswersHistory mid.remote page →
      ∃ after, (pullHistory service).outcome mid = (.ok 0, after) ∧
        after.database.playHistory = mid.database.playHistory := by
  intro h
  obtain ⟨added, mid, hadded, hrun, -, hsecond⟩ := exists_pullHistory_twice playHistory_unpulled
    (List.forall_mem_nil _) (answersHistory_historyService latePage ())
  obtain ⟨after, hagain, -⟩ := hsecond (answersHistory_historyService latePage _)
  have hcount : (repeated added (latePage.filterMap Pull.play?)).length = 1 := by
    rw [hadded]
    decide +kernel
  obtain ⟨after', hzero, -⟩ := h Unit (historyService latePage) unpulled latePage [] _ mid .empty
    rfl (answersHistory_historyService latePage ()) hrun (answersHistory_historyService latePage _)
  rw [List.nil_append, hcount, hzero] at hagain
  exact absurd (Except.ok.inj (congrArg Prod.fst hagain)) (by decide)

end SmartPlaylist
