import SmartPlaylist.Proofs.Selection.Violations
import SmartPlaylist.Proofs.Store.PlayLog
import SmartPlaylist.Proofs.Time.LeapSecond

/-!
# Once rested, always rested

While no play is recorded, a track that may be picked may be picked later as well, since the
distance from its last play grows.  The one exception is the distance that falls back when a day is
over that ends in a leap second: a track whose last play lies two weeks before the turn of that day,
to the second, may be picked in the leap second, not for a part of the second after it, and then
again.

## Main results

* `isEligible_later_iff` — a candidate that may be picked now, later.
* `Store.eligibleTracks_later` — **the same for the eligible tracks of a playlist.**
-/

namespace SmartPlaylist

open Moment (TurnsBack)

variable {now later : Moment}

/-- A candidate that may be picked now may be picked later, but for the turn of a day. -/
theorem isEligible_later_iff {rotate : Bool} {lastPlayed : Option Moment} (hle : now ≤ later)
    (hnow : isEligible rotate lastPlayed now = true) :
    isEligible rotate lastPlayed later = false ↔
      rotate = true ∧ ∃ played, lastPlayed = some played ∧ TurnsBack 14 played now later := by
  have hwindow : rotationWindow = 14 * Moment.dayNanos := rfl
  rw [Store.not_isEligible_iff]
  refine and_congr_right fun hrotate => exists_congr fun played => and_congr_right fun hlast => ?_
  have hpast : 14 * Moment.dayNanos < now.since played := by
    rw [hrotate, hlast] at hnow
    exact of_decide_eq_true hnow
  rw [← Moment.turnsBack_iff hle, hwindow, Int.not_lt]
  exact (and_iff_right hpast).symm

namespace Store

/-- The time matters only for the candidates that are left out, not for what is read. -/
theorem outcome_eligibleTracks_atAnyTime (name : String) (db : Database) :
    (∃ e, ∀ now, (eligibleTracks name now).outcome db = (.error e, db)) ∨
    ∃ (root : RootPlaylist) (history : List (String × Moment)),
      lastPlayed.outcome db = (.ok history, db) ∧ ∀ now, (eligibleTracks name now).outcome db =
        (.ok (root.tracks.filter fun t =>
          isEligible t.rotate (history.lookup t.trackId) now), db) := by
  obtain ⟨e | root, hload⟩ := Keeps.exists_outcome (fun _ => keeps_loadRoot name) db
  · exact .inl ⟨e, fun now => outcome_bind_of_error hload⟩
  obtain ⟨e | history, hhistory⟩ := Keeps.exists_outcome (fun _ => keeps_lastPlayed) db
  · refine .inl ⟨e, fun now => ?_⟩
    rw [eligibleTracks, outcome_bind_of_ok hload, outcome_bind_of_error hhistory]
  · refine .inr ⟨root, history, hhistory, fun now => ?_⟩
    exact outcome_eligibleTracks_eq_ok.mpr ⟨root, history, hload, hhistory, rfl, rfl⟩

/-- **Once rested, always rested.**  Either neither time has an answer, for the same reason, or the
tracks that may be picked now may be picked later, all but those that rotate and whose last play
lies two weeks before the turn of a day that falls between the two times. -/
theorem eligibleTracks_later (db : Database) (name : String) (hle : now ≤ later) :
    (∃ e, (eligibleTracks name now).outcome db = (.error e, db) ∧
      (eligibleTracks name later).outcome db = (.error e, db)) ∨
    ∃ history tracks tracks', lastPlayed.outcome db = (.ok history, db) ∧
      (eligibleTracks name now).outcome db = (.ok tracks, db) ∧
      (eligibleTracks name later).outcome db = (.ok tracks', db) ∧
      ∀ t ∈ tracks, t ∉ tracks' ↔ t.rotate = true ∧
        ∃ played, history.lookup t.trackId = some played ∧ TurnsBack 14 played now later := by
  obtain ⟨e, herror⟩ | ⟨root, history, hhistory, htracks⟩ :=
    outcome_eligibleTracks_atAnyTime name db
  · exact .inl ⟨e, herror now, herror later⟩
  refine .inr ⟨history, _, _, hhistory, htracks now, htracks later, fun t ht => ?_⟩
  obtain ⟨hcandidate, hnow⟩ := List.mem_filter.mp ht
  rw [← isEligible_later_iff hle hnow, List.mem_filter, and_iff_right hcandidate,
    Bool.not_eq_true]

/-- A candidate that rotates, and its only play, at the start of 1970. -/
def onePlay : Database where
  rootPlaylists := some [⟨"mix", "a", true⟩]
  playHistory := some [⟨"a", "1970-01-01 00:00:00"⟩]

theorem outcome_loadRoot_onePlay :
    (loadRoot "mix").outcome onePlay = (.ok ⟨"mix", [⟨"a", true⟩]⟩, onePlay) := by
  have hsorted : RootPlaylist.Sorted ⟨"mix", [⟨"a", true⟩]⟩ := by
    unfold RootPlaylist.Sorted
    decide
  have hrows : rowsOf onePlay "mix" = RootPlaylist.rows ⟨"mix", [⟨"a", true⟩]⟩ := by decide
  exact outcome_loadRoot_of_rowsOf rfl hsorted hrows

theorem outcome_lastPlayed_onePlay :
    lastPlayed.outcome onePlay = (.ok [("a", midnight 0)], onePlay) := by
  have hids : Text.distinct ["a"] = ["a"] :=
    Text.distinct_eq_of_pairwise (by decide) fun _ => Iff.rfl
  have hrows : (rows .playHistory).outcome onePlay = (.ok (onePlay.playHistory.getD []), onePlay) :=
    rfl
  rw [lastPlayed, outcome_bind_of_ok hrows]
  show ((Text.distinct ["a"]).filterMapM _ : Action _).outcome onePlay = _
  rw [hids]
  decide +kernel

/-- The candidate may be picked when more than two weeks are over. -/
theorem outcome_eligibleTracks_onePlay (now : Moment) :
    (eligibleTracks "mix" now).outcome onePlay =
      (.ok ([⟨"a", true⟩].filter fun _ => isEligible true (some (midnight 0)) now), onePlay) :=
  outcome_eligibleTracks_eq_ok.mpr ⟨_, _, outcome_loadRoot_onePlay, outcome_lastPlayed_onePlay,
    rfl, rfl⟩

/-- The candidate may still be picked a day later. -/
theorem eligibleTracks_onePlay :
    midnight 15 ≤ midnight 16 ∧
      (eligibleTracks "mix" (midnight 15)).outcome onePlay = (.ok [⟨"a", true⟩], onePlay) ∧
      ∃ tracks, (eligibleTracks "mix" (midnight 16)).outcome onePlay = (.ok tracks, onePlay) ∧
        ⟨"a", true⟩ ∈ tracks := by
  have hle : midnight 15 ≤ midnight 16 := by decide
  have hnow : (eligibleTracks "mix" (midnight 15)).outcome onePlay = (.ok [⟨"a", true⟩], onePlay) :=
    (outcome_eligibleTracks_onePlay _).trans (by decide)
  refine ⟨hle, hnow, ?_⟩
  obtain ⟨e, herror, -⟩ | ⟨history, tracks, tracks', hhistory, htracks, htracks', hlost⟩ :=
    eligibleTracks_later onePlay "mix" hle
  · rw [hnow] at herror
    exact absurd (congrArg Prod.fst herror) nofun
  obtain rfl : [⟨"a", true⟩] = tracks := by
    rw [hnow] at htracks
    exact Except.ok.inj (congrArg Prod.fst htracks)
  refine ⟨tracks', htracks', ?_⟩
  by_contra hnot
  -- the fifteenth day of 1970 does not end in a leap second
  obtain ⟨-, played, -, hturn⟩ := (hlost _ (List.mem_singleton_self _)).mp hnot
  exact absurd hturn.now_second (by decide)

/-- A leap second completes the two weeks, and is not counted once it is over. -/
theorem eligibleTracks_leapSecond :
    leapSecond 13 ≤ midnight 14 ∧
      (eligibleTracks "mix" (leapSecond 13)).outcome onePlay = (.ok [⟨"a", true⟩], onePlay) ∧
      (eligibleTracks "mix" (midnight 14)).outcome onePlay = (.ok [], onePlay) :=
  ⟨by decide, (outcome_eligibleTracks_onePlay _).trans (by decide),
    (outcome_eligibleTracks_onePlay _).trans (by decide)⟩

end Store

end SmartPlaylist
