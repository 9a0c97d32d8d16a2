import Mathlib.Data.Rat.Floor
import SmartPlaylist.Proofs.Library.History
import SmartPlaylist.Proofs.Time.Offset
import SmartPlaylist.Proofs.WebApi.Retry

/-!
# The cursor of the play history

The service is asked for the plays after a cursor, a number of milliseconds since the start of 1970,
which is taken from the newest play stored.  A timestamp denotes one moment, whatever its offset, and
the milliseconds of a moment are the exact ones rounded down, before 1970 too.  So of two moments the
later one never has the smaller number, unless the earlier one is in a leap second, which counts as
if it reached into the minute that follows; and no play newer than those stored lies before the
cursor.

## Main definitions

* `Client.playsAfter` — the plays after a cursor, as the service is asked for them.
* `Client.PullsAfter` — a pull of the history asks for the plays after this cursor.

## Main results

* `Moment.unixMillis_eq_floor` — milliseconds are rounded down.
* `Moment.unixMillis_le` — **a later moment never has fewer of them.**
* `Client.exists_pullsAfter` — the cursor is that of the newest play that is found.
* `Client.timestamps_denote_instants` — **timestamps denote instants**, and the cursor passes no play
  by.
-/

namespace SmartPlaylist

/-! ### Milliseconds -/

namespace Moment

variable {a b : Moment}

theorem unixMillis_eq_ediv (m : Moment) : m.unixMillis = m.unixNanos / 1_000_000 := by
  unfold unixMillis unixNanos unixSeconds
  simp only [nanosPerSecond]
  omega

/-- **Milliseconds are rounded down**, from the nanoseconds in whole days, counted one by one, and
in the time of day. -/
theorem unixMillis_eq_floor (m : Moment) :
    ∃ days : Int, Date.epoch.plusDays days = m.date ∧
      m.unixMillis
        = ⌊(((days * 86400 + m.second) * 1_000_000_000 + m.nano : Int) : ℚ) / 1_000_000⌋ := by
  refine ⟨m.date.dayNumber, m.date.plusDays_dayNumber, ?_⟩
  have hfloor : ⌊(m.unixNanos : ℚ) / 1_000_000⌋ = m.unixNanos / 1_000_000 := by
    exact_mod_cast Rat.floor_intCast_div_natCast m.unixNanos 1_000_000
  rw [unixMillis_eq_ediv, ← hfloor]
  rfl

/-- **A later moment never has fewer milliseconds**, if the earlier one is in no leap second. -/
theorem unixMillis_le (ha : a.isLeapSecond = false) (h : a ≤ b) : a.unixMillis ≤ b.unixMillis := by
  rw [unixMillis_eq_ediv, unixMillis_eq_ediv]
  apply Int.ediv_le_ediv
  · decide
  · exact unixNanos_le_of_rank_le ha h

end Moment

/-! ### Cursors -/

namespace Client

open Store

variable {τ : Type}

/-- The latest plays, after a cursor if one is given. -/
def playsAfter (cfg : Config τ) (cursor : Option Int) : Action τ (List PlayedTrack) :=
  read cfg "/me/player/recently-played" (("limit", Decimal.digitText recentPlaysLimit) ::
    (cursor.map fun millis => ("after", toString millis)).toList) recentPlays

theorem recentlyPlayed_eq_playsAfter (cfg : Config τ) (newest : Option Moment) :
    recentlyPlayed cfg newest = playsAfter cfg (newest.map Moment.unixMillis) := by
  rw [recentlyPlayed, playsAfter, Option.map_map]
  rfl

/-- A pull asks for the plays after this cursor; then it fails with the service, or adds the plays
that it was given. -/
def PullsAfter (cfg : Config τ) (s : Session (Client τ)) (cursor : Option Int) : Prop :=
  ∃ mid : Session (Client τ), mid.database = s.database ∧
    (pullHistory (libraryService cfg)).outcome s
      = match (call (playsAfter cfg cursor) s.remote).1.result with
        | .error e => (.error (.remote e), mid)
        | .ok page => ((Job.store (appendPlays (page.filterMap Pull.play?))).failAs
            RunError.store).outcome mid

/-- The cursor is that of the newest play that is found. -/
theorem exists_pullsAfter (cfg : Config τ) {s : Session (Client τ)} {log : List Play}
    (h : s.database.playHistory = some (log.map Play.row)) :
    ∃ newest, latestPlayedAt.outcome s.database = (.ok newest, s.database) ∧
      HasGreatestText log newest ∧ PullsAfter cfg s (newest.map Moment.unixMillis) := by
  obtain ⟨newest, hread, hgreatest⟩ := exists_latestPlayedAt h
  obtain ⟨mid, hmid, hrun⟩ := exists_pullHistory (libraryService cfg) hread
  refine ⟨newest, hread, hgreatest, mid, hmid, ?_⟩
  rw [← recentlyPlayed_eq_playsAfter]
  exact hrun

/-- No newer play lies before the cursor. -/
theorem cursor_le {log : List Play} {newest : Option Moment} (h : HasGreatestText log newest)
    (hleap : ∀ q ∈ log, q.playedAt.isLeapSecond = false) {p : Play}
    (hnewer : ∀ q ∈ log, q.playedAt < p.playedAt) :
    ∀ cursor ∈ newest.map Moment.unixMillis, cursor ≤ p.playedAt.unixMillis := by
  intro cursor hcursor
  cases newest with
  | none => simp at hcursor
  | some m =>
    obtain ⟨⟨q, hq, rfl⟩, -⟩ := h
    obtain rfl : q.playedAt.unixMillis = cursor := by simpa using hcursor
    exact Moment.unixMillis_le (hleap q hq) (Int.le_of_lt (hnewer q hq))

/-- **Timestamps denote instants.**  At every offset of whole minutes a clock shows one thing at a
moment, and if that is in a year of four digits, every way of writing it as a timestamp is read as
the moment, leap seconds included.  The milliseconds of a moment are the exact ones since the start
of 1970 rounded down, and away from leap seconds a later moment never has fewer.  So a pull of the
history asks for the plays after a cursor, that of the newest stored play, before which no newer play
lies. -/
theorem timestamps_denote_instants :
    (∀ (m : Moment) (east : Int), east.natAbs ≤ 23 * 60 + 59 →
      (∃! civil, Moment.IsLocal east m civil) ∧
      ∀ civil, Moment.IsLocal east m civil → civil.HasPlainYear →
        ∀ mark ∈ Rfc3339.marks, ∀ places ≤ 9, 10 ^ (9 - places) ∣ m.nano →
          ∀ zone ∈ Rfc3339.zoneTexts east,
            Rfc3339.parse (Rfc3339.text mark places zone civil) = some m) ∧
    (∀ m : Moment, ∃ days : Int, Date.epoch.plusDays days = m.date ∧ m.unixMillis
      = ⌊(((days * 86400 + m.second) * 1_000_000_000 + m.nano : Int) : ℚ) / 1_000_000⌋) ∧
    (∀ earlier later : Moment, earlier.isLeapSecond = false → earlier ≤ later →
      earlier.unixMillis ≤ later.unixMillis) ∧
    ∀ (τ : Type) (cfg : Config τ) (s : Session (Client τ)) (log : List Play),
      s.database.playHistory = some (log.map Play.row) →
      (∀ q ∈ log, q.playedAt.isLeapSecond = false) →
      ∃ newest, HasGreatestText log newest ∧
        ((∀ q ∈ log, q.playedAt.HasPlainYear) → IsLatestOf log newest) ∧
        PullsAfter cfg s (newest.map Moment.unixMillis) ∧
        ∀ p : Play, (∀ q ∈ log, q.playedAt < p.playedAt) →
          ∀ cursor ∈ newest.map Moment.unixMillis, cursor ≤ p.playedAt.unixMillis := by
  refine ⟨?_, Moment.unixMillis_eq_floor, fun _ _ => Moment.unixMillis_le, ?_⟩
  · intro m east heast
    have heast : east.natAbs < 24 * 60 := by omega
    refine ⟨m.existsUnique_isLocal heast, ?_⟩
    intro civil hcivil hyear mark hmark places hplaces hexact zone hzone
    exact Rfc3339.parse_text heast hcivil hyear hmark hplaces hexact hzone
  · intro τ cfg s log hlog hleap
    obtain ⟨newest, hread, hgreatest, hpull⟩ := exists_pullsAfter cfg hlog
    refine ⟨newest, hgreatest, ?_, hpull, ?_⟩
    · intro hyears
      obtain ⟨latest, hlatest, hspec⟩ := outcome_latestPlayedAt hlog hyears
      rw [hread] at hlatest
      obtain rfl : newest = latest := Except.ok.inj (congrArg Prod.fst hlatest)
      exact hspec
    · intro p hnewer
      exact cursor_le hgreatest hleap hnewer

/-! #### The end of the year before the year 0 -/

/-- A quarter of an hour before the year 0, and a tenth of a microsecond more. -/
def beforeYearZero : Moment :=
  (Moment.ofNumbers? ((Date.ofNumbers? (-1) 12 31).get rfl) 23 45 0 100).get rfl

/-- What a clock half an hour ahead shows then. -/
def afterYearZero : Moment :=
  (Moment.ofNumbers? ((Date.ofNumbers? 0 1 1).get rfl) 0 15 0 100).get rfl

/-- A history of one play then, and no network. -/
def earlySession : Session (Client Unit) where
  database := Database.fresh.withLog [⟨"a", beforeYearZero⟩]
  remote := { network := (), token := ⟨"", "", "", 0, 0⟩, database := .fresh }
  entropy := { word := fun _ => 0 }

/-- The local year is a year later.  The milliseconds are rounded down from a negative number, and
the pull asks for the plays after them; a play half an hour later is not passed by. -/
theorem timestamps_denote_beforeYearZero :
    Rfc3339.parse "0000-01-01T00:15:00.0000001+00:30" = some beforeYearZero ∧
      beforeYearZero.unixMillis = -62167220100000 ∧
      beforeYearZero.unixMillis ≤ afterYearZero.unixMillis ∧
      PullsAfter idleConfig earlySession (some beforeYearZero.unixMillis) := by
  obtain ⟨hread, -, hmono, hcursor⟩ := timestamps_denote_instants
  obtain ⟨-, hparse⟩ := hread beforeYearZero 30 (by decide)
  have hclock : Moment.IsLocal 30 beforeYearZero afterYearZero := ⟨by decide, rfl⟩
  have htext : Rfc3339.text 'T' 7 "+00:30" afterYearZero = "0000-01-01T00:15:00.0000001+00:30" := by
    decide +kernel
  have hdenotes := hparse afterYearZero hclock ⟨by decide, by decide⟩ 'T' (by decide) 7 (by decide)
    (by decide) "+00:30" (by decide +kernel)
  rw [htext] at hdenotes
  obtain ⟨newest, hgreatest, -, hpull, -⟩ := hcursor Unit idleConfig earlySession
    [⟨"a", beforeYearZero⟩] rfl (by decide)
  cases newest with
  | none => exact absurd hgreatest (by simp [HasGreatestText])
  | some m =>
    obtain ⟨⟨q, hq, rfl⟩, -⟩ := hgreatest
    obtain rfl := List.mem_singleton.mp hq
    exact ⟨hdenotes, by decide, hmono _ _ rfl (by decide), hpull⟩

end Client

end SmartPlaylist
