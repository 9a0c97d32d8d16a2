import SmartPlaylist.Proofs.Selection.Rotation
import SmartPlaylist.Proofs.Store.RootPlaylists

/-!
# Picks that should have rested

Which candidates may be picked and which picks should have rested is asked separately, of the same
stored set and the same last plays.  A set has each track once, so both find the same flag for it,
and a pick that should have rested is never one that might have been picked.

## Main definitions

* `Store.Rests` — the track was played within the window, and is not stored as one that does not
  rotate.

## Main results

* `Store.outcome_eligibleTracks_eq_ok`, `Store.outcome_rotationViolations_eq_ok` — what both ask.
* `Store.rotationViolations_spec` — **the violations are the picks that rest.**
* `Store.not_eligible_of_rests` — a track that rests is not eligible.
-/

namespace SmartPlaylist.Store

variable {db after : Database} {stored : List RootRow} {root : RootPlaylist} {name id : String}
  {now : Moment} {history : List (String × Moment)} {eligible : List RootTrack}
  {selection violations : List String} {p : Database → Prop}

/-! ### Reading only -/

theorem keeps_loadRoot (name : String) : Keeps p (loadRoot name) :=
  (Keeps.rows _).bind fun _ => .pure _

theorem keeps_lastPlayed : Keeps p lastPlayed := by
  refine (Keeps.rows _).bind fun plays => .filterMapM (fun id => ?_) _
  dsimp only
  split
  · exact (keeps_readTime _).bind fun _ => .pure _
  · exact .pure _

theorem keeps_eligibleTracks (name : String) (now : Moment) : Keeps p (eligibleTracks name now) :=
  (keeps_loadRoot name).bind fun _ => keeps_lastPlayed.bind fun _ => .pure _

theorem keeps_rotationViolations (name : String) (selection : List String) (now : Moment) :
    Keeps p (rotationViolations name selection now) :=
  (keeps_loadRoot name).bind fun _ => keeps_lastPlayed.bind fun _ => .pure _

/-! ### What both ask -/

/-- Both questions read the stored set and the last plays first. -/
theorem outcome_rootAndHistory_eq_ok {α : Type} {f : RootPlaylist → List (String × Moment) → α}
    {x : α} :
    (do let root ← loadRoot name
        let history ← lastPlayed
        return f root history : Action α).outcome db = (.ok x, after) ↔
      ∃ root history, (loadRoot name).outcome db = (.ok root, db) ∧
        lastPlayed.outcome db = (.ok history, db) ∧ x = f root history ∧ after = db := by
  constructor
  · intro h
    obtain ⟨root, mid, hload, hrest⟩ := outcome_bind_eq_ok.mp h
    obtain ⟨history, last, hhistory, hpure⟩ := outcome_bind_eq_ok.mp hrest
    have hmid : mid = db := by
      rw [← Keeps.database_eq (fun _ => keeps_loadRoot name) db, hload]
    have hlast : last = mid := by
      rw [← Keeps.database_eq (fun _ => keeps_lastPlayed) mid, hhistory]
    subst hlast hmid
    obtain ⟨hx, rfl⟩ := Prod.mk.inj hpure
    exact ⟨root, history, hload, hhistory, (Except.ok.inj hx).symm, rfl⟩
  · rintro ⟨root, history, hload, hhistory, rfl, rfl⟩
    rw [outcome_bind_of_ok hload, outcome_bind_of_ok hhistory]
    rfl

theorem outcome_eligibleTracks_eq_ok :
    (eligibleTracks name now).outcome db = (.ok eligible, after) ↔
      ∃ root history, (loadRoot name).outcome db = (.ok root, db) ∧
        lastPlayed.outcome db = (.ok history, db) ∧
        eligible = root.tracks.filter (fun t =>
          isEligible t.rotate (history.lookup t.trackId) now) ∧
        after = db :=
  outcome_rootAndHistory_eq_ok

theorem outcome_rotationViolations_eq_ok :
    (rotationViolations name selection now).outcome db = (.ok violations, after) ↔
      ∃ root history, (loadRoot name).outcome db = (.ok root, db) ∧
        lastPlayed.outcome db = (.ok history, db) ∧
        violations = selection.filter (fun id =>
          !isEligible (rotatesIn root id) (history.lookup id) now) ∧
        after = db :=
  outcome_rootAndHistory_eq_ok

/-! ### Tracks that rest -/

/-- The track was played within the two weeks before `now`, and is not stored as one that does not
rotate. -/
def Rests (stored : List RootRow) (history : List (String × Moment)) (name : String)
    (now : Moment) (id : String) : Prop :=
  ⟨name, id, false⟩ ∉ stored ∧ ∃ played, history.lookup id = some played ∧
    now.since played ≤ 14 * 86400 * 1_000_000_000

theorem not_isEligible_iff {rotate : Bool} {played : Option Moment} :
    isEligible rotate played now = false ↔
      rotate = true ∧ ∃ m, played = some m ∧ now.since m ≤ rotationWindow := by
  unfold isEligible
  rw [Bool.or_eq_false_iff, Bool.not_eq_false']
  refine and_congr_right fun _ => ?_
  cases played with
  | none => simp
  | some m => simp

instance (stored : List RootRow) (history : List (String × Moment)) (name : String) (now : Moment)
    (id : String) : Decidable (Rests stored history name now id) :=
  decidable_of_iff
    (⟨name, id, false⟩ ∉ stored ∧ isEligible true (history.lookup id) now = false)
    (and_congr_right fun _ => not_isEligible_iff.trans (and_iff_right rfl))

/-- The flag of a track in a loaded set is that of its only row. -/
theorem rotatesIn_iff (hsorted : root.Sorted)
    (hmem : ∀ t, t ∈ root.tracks ↔ ⟨name, t.trackId, t.rotate⟩ ∈ stored) :
    rotatesIn root id = true ↔ ⟨name, id, false⟩ ∉ stored := by
  unfold rotatesIn
  cases hfind : root.tracks.find? fun t => decide (t.trackId = id) with
  | none =>
    -- no row at all
    refine iff_of_true rfl fun hrow => ?_
    have hnone := List.find?_eq_none.mp hfind ⟨id, false⟩ ((hmem _).mpr hrow)
    exact hnone (decide_eq_true rfl)
  | some t =>
    have hid : decide (t.trackId = id) = true :=
      List.find?_some (p := fun t : RootTrack => decide (t.trackId = id)) hfind
    obtain rfl : t.trackId = id := of_decide_eq_true hid
    have ht : t ∈ root.tracks := List.mem_of_find?_eq_some hfind
    show t.rotate = true ↔ _
    constructor
    · intro hrotate hrow
      -- two rows of one track are the same
      have heq := List.inj_on_of_nodup_map hsorted.nodup ht ((hmem ⟨t.trackId, false⟩).mpr hrow) rfl
      rw [heq] at hrotate
      exact Bool.false_ne_true hrotate
    · intro hrow
      cases hrotate : t.rotate with
      | true => rfl
      | false =>
        refine absurd ?_ hrow
        rw [← hrotate]
        exact (hmem t).mp ht

/-- **The violations are the picks that rest**, in the order of the selection. -/
theorem rotationViolations_spec (hkey : RootsKeyed (db.rootPlaylists.getD []))
    (h : (rotationViolations name selection now).outcome db = (.ok violations, after)) :
    ∃ history, lastPlayed.outcome db = (.ok history, db) ∧
      violations
        = selection.filter fun id => Rests (db.rootPlaylists.getD []) history name now id := by
  obtain ⟨root, history, hload, hhistory, rfl, -⟩ := outcome_rotationViolations_eq_ok.mp h
  refine ⟨history, hhistory, List.filter_congr fun id _ => ?_⟩
  obtain ⟨hsorted, hmem⟩ := loadRoot_spec hkey hload
  rw [Bool.eq_iff_iff, Bool.not_eq_true', not_isEligible_iff, rotatesIn_iff hsorted hmem,
    decide_eq_true_iff]
  rfl

/-- A track that rests is not eligible. -/
theorem not_eligible_of_rests (hkey : RootsKeyed (db.rootPlaylists.getD []))
    (h : (eligibleTracks name now).outcome db = (.ok eligible, after))
    (hhistory : lastPlayed.outcome db = (.ok history, db))
    (hrests : Rests (db.rootPlaylists.getD []) history name now id) :
    ∀ t ∈ eligible, t.trackId ≠ id := by
  obtain ⟨root, history', hload, hhistory', rfl, -⟩ := outcome_eligibleTracks_eq_ok.mp h
  obtain rfl : history' = history := by
    rw [hhistory] at hhistory'
    exact (Except.ok.inj (Prod.mk.inj hhistory').1).symm
  obtain ⟨hrow, m, hplayed, hwindow⟩ := hrests
  obtain ⟨-, hmem⟩ := loadRoot_spec hkey hload
  rintro t ht rfl
  obtain ⟨ht, heligible⟩ := List.mem_filter.mp ht
  rw [not_isEligible_iff.mpr ⟨?_, m, hplayed, hwindow⟩] at heligible
  · exact Bool.false_ne_true heligible
  · cases hrotate : t.rotate with
    | true => rfl
    | false =>
      refine absurd ?_ hrow
      rw [← hrotate]
      exact (hmem t).mp ht

end SmartPlaylist.Store
