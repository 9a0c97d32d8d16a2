import SmartPlaylist.Proofs.Playlist.Load

/-!
# What is reported was recommended

Two questions are asked of one database, with different defaults.  Which tracks are eligible is
decided for the candidates of a set, with their own flags; which picks should have rested is decided
for any tracks, and one that is no candidate counts as one that rotates.  For a candidate both
answers rest on the flag of its only row, so a pick that is reported was not eligible.  A run picks
from the eligible tracks and from recommendations, and from nothing else, so it reports
recommendations only.

## Main results

* `Store.exists_eligibleTracks_disjoint` — nothing that is eligible is a violation.
* `exists_reports` — a run reports recommendations only.
* `Store.rotationViolations_agree` — **the violations agree with what is eligible.**
-/

namespace SmartPlaylist

variable {σ : Type} {db after : Database} {name : String} {now : Moment}

/-! ### One database -/

namespace Store

variable {selection violations : List String} {eligible : List RootTrack}

/-- Where the violations can be told, so can the eligible tracks: the same is read. -/
theorem exists_eligibleTracks_of_violations
    (h : (rotationViolations name selection now).outcome db = (.ok violations, after)) :
    ∃ eligible, (eligibleTracks name now).outcome db = (.ok eligible, db) := by
  obtain ⟨root, history, hload, hhistory, -, -⟩ := outcome_rotationViolations_eq_ok.mp h
  exact ⟨_, outcome_eligibleTracks_eq_ok.mpr ⟨root, history, hload, hhistory, rfl, rfl⟩⟩

/-- Nothing that is eligible is a violation. -/
theorem exists_eligibleTracks_disjoint (hkey : RootsKeyed (db.rootPlaylists.getD []))
    (h : (rotationViolations name selection now).outcome db = (.ok violations, after)) :
    ∃ eligible, (eligibleTracks name now).outcome db = (.ok eligible, db) ∧
      ∀ t ∈ eligible, t.trackId ∉ violations := by
  obtain ⟨eligible, heligible⟩ := exists_eligibleTracks_of_violations h
  obtain ⟨history, hhistory, rfl⟩ := rotationViolations_spec hkey h
  refine ⟨eligible, heligible, ?_⟩
  intro t ht hviolation
  have hrests : Rests (db.rootPlaylists.getD []) history name now t.trackId :=
    of_decide_eq_true (List.mem_filter.mp hviolation).2
  exact not_eligible_of_rests hkey heligible hhistory hrests t ht rfl

end Store

/-! ### Runs -/

/-- What an explained run reports was recommended in it. -/
theorem LoadTrace.Explains.recommended {t : LoadTrace} {options : SelectionOptions}
    {reported : List (String × String)} {result : Except RunError SyncOutcome}
    (h : t.Explains name options now db reported result) :
    ∀ p ∈ reported, p.2 = name ∧ ∃ r ∈ t.requests, p.1 ∈ r.recommended := by
  intro p hp
  cases hsync : t.sync with
  | none =>
    -- a run that ended before the sync reported nothing
    rw [h.reported_of_none hsync] at hp
    exact absurd hp List.not_mem_nil
  | some pushed =>
    obtain ⟨tracks, sync⟩ := pushed
    obtain ⟨hpushes, -⟩ := h.of_sync tracks sync hsync
    obtain ⟨history, -, hreported, hrecommended⟩ := hpushes.exists_history
    rw [hreported] at hp
    obtain ⟨id, hid, rfl⟩ := List.mem_map.mp hp
    obtain ⟨hid, hrests⟩ := List.mem_filter.mp hid
    exact ⟨rfl, hrecommended id hid (of_decide_eq_true hrests)⟩

/-- A run reports recommendations only. -/
theorem exists_reports (service : PlaylistService σ) (name : String) (options : SelectionOptions)
    (now : Moment) (s : Session σ) (hkey : Store.RootsKeyed (s.database.rootPlaylists.getD [])) :
    ∃ (t : LoadTrace) (reported : List (String × String)) (result : Except RunError SyncOutcome)
      (last : Session (Recorded σ)),
      (loadPlaylist service name options now).outcome s = (result, last.forget) ∧
      (loadPlaylist service.recorded name options now).outcome s.recording = (result, last) ∧
      last.remote.calls = t.calls name ∧ last.warned = s.warned ++ reported ∧
      ∀ p ∈ reported, p.2 = name ∧ ∃ r ∈ t.requests, p.1 ∈ r.recommended := by
  obtain ⟨t, reported, result, last, houtcome, hfollows, hexplains⟩ :=
    exists_load service name options now s.recording hkey
  have hmirror := (mirrors_loadPlaylist service name options now).outcome_eq houtcome
  exact ⟨t, reported, result, last, hmirror, houtcome, hfollows.calls_eq, hfollows.warned_eq,
    hexplains.recommended⟩

namespace Store

/-- **The violations agree with what is eligible.**  They are the tracks of the selection, in its
order and as often, that have a last play within the two weeks and are not stored as tracks that do
not rotate.  None of them is eligible in the same database, and so whatever a run on that database
reports was recommended in the run. -/
theorem rotationViolations_agree {selection violations : List String}
    (hkey : RootsKeyed (db.rootPlaylists.getD []))
    (h : (rotationViolations name selection now).outcome db = (.ok violations, after)) :
    after = db ∧
    (∃ history, lastPlayed.outcome db = (.ok history, db) ∧
      violations = selection.filter fun id =>
        Rests (db.rootPlaylists.getD []) history name now id) ∧
    (∃ eligible, (eligibleTracks name now).outcome db = (.ok eligible, db) ∧
      ∀ t ∈ eligible, t.trackId ∉ violations) ∧
    ∀ {σ : Type} (service : PlaylistService σ) (options : SelectionOptions) (s : Session σ),
      s.database = db →
      ∃ (t : LoadTrace) (reported : List (String × String)) (result : Except RunError SyncOutcome)
        (last : Session (Recorded σ)),
        (loadPlaylist service name options now).outcome s = (result, last.forget) ∧
        (loadPlaylist service.recorded name options now).outcome s.recording = (result, last) ∧
        last.remote.calls = t.calls name ∧ last.warned = s.warned ++ reported ∧
        ∀ p ∈ reported, p.2 = name ∧ ∃ r ∈ t.requests, p.1 ∈ r.recommended := by
  obtain ⟨_, _, _, _, _, hafter⟩ := outcome_rotationViolations_eq_ok.mp h
  refine ⟨hafter, rotationViolations_spec hkey h, exists_eligibleTracks_disjoint hkey h, ?_⟩
  intro σ service options s hs
  subst hs
  exact exists_reports service name options now s hkey

/-- Two candidates, of which one does not rotate, and a play of either and of another track. -/
def threePlays : Database where
  rootPlaylists := some [⟨"mix", "a", true⟩, ⟨"mix", "c", false⟩]
  playHistory := some [⟨"a", "1970-01-02 00:00:00"⟩, ⟨"b", "1970-01-11 00:00:00"⟩,
    ⟨"c", "1970-01-16 00:00:00"⟩]

theorem outcome_loadRoot_threePlays :
    (loadRoot "mix").outcome threePlays
      = (.ok ⟨"mix", [⟨"a", true⟩, ⟨"c", false⟩]⟩, threePlays) := by
  have hsorted : RootPlaylist.Sorted ⟨"mix", [⟨"a", true⟩, ⟨"c", false⟩]⟩ := by
    unfold RootPlaylist.Sorted
    decide
  have hrows : rowsOf threePlays "mix"
      = RootPlaylist.rows ⟨"mix", [⟨"a", true⟩, ⟨"c", false⟩]⟩ := by decide
  exact outcome_loadRoot_of_rowsOf rfl hsorted hrows

theorem outcome_lastPlayed_threePlays :
    lastPlayed.outcome threePlays
      = (.ok [("a", midnight 1), ("b", midnight 10), ("c", midnight 15)], threePlays) := by
  have hids : Text.distinct ["a", "b", "c"] = ["a", "b", "c"] :=
    Text.distinct_eq_of_pairwise (by decide) fun _ => Iff.rfl
  have hrows : (rows .playHistory).outcome threePlays
      = (.ok (threePlays.playHistory.getD []), threePlays) := rfl
  rw [lastPlayed, outcome_bind_of_ok hrows]
  show ((Text.distinct ["a", "b", "c"]).filterMapM _ : Action _).outcome threePlays = _
  rw [hids]
  decide +kernel

/-- The other track was played six days ago and is reported each time; the candidate that was
played yesterday does not rotate, and the one that rotates was played fifteen days ago. -/
theorem rotationViolations_threePlays :
    (rotationViolations "mix" ["b", "c", "a", "b"] (midnight 16)).outcome threePlays
        = (.ok ["b", "b"], threePlays) ∧
      (eligibleTracks "mix" (midnight 16)).outcome threePlays
        = (.ok [⟨"a", true⟩, ⟨"c", false⟩], threePlays) ∧
      ∀ t ∈ [RootTrack.mk "a" true, ⟨"c", false⟩], t.trackId ∉ ["b", "b"] := by
  have hkey : RootsKeyed (threePlays.rootPlaylists.getD []) := by
    unfold RootsKeyed
    decide
  have hviolations : (rotationViolations "mix" ["b", "c", "a", "b"] (midnight 16)).outcome
      threePlays = (.ok ["b", "b"], threePlays) :=
    outcome_rotationViolations_eq_ok.mpr ⟨_, _, outcome_loadRoot_threePlays,
      outcome_lastPlayed_threePlays, by decide, rfl⟩
  have htracks : (eligibleTracks "mix" (midnight 16)).outcome threePlays
      = (.ok [⟨"a", true⟩, ⟨"c", false⟩], threePlays) :=
    outcome_eligibleTracks_eq_ok.mpr ⟨_, _, outcome_loadRoot_threePlays,
      outcome_lastPlayed_threePlays, by decide, rfl⟩
  obtain ⟨-, -, ⟨eligible, heligible, hdisjoint⟩, -⟩ := rotationViolations_agree hkey hviolations
  obtain rfl : [⟨"a", true⟩, ⟨"c", false⟩] = eligible := by
    rw [htracks] at heligible
    exact Except.ok.inj (congrArg Prod.fst heligible)
  exact ⟨hviolations, htracks, hdisjoint⟩

end Store

end SmartPlaylist
