import SmartPlaylist.Proofs.Store.Operation
import SmartPlaylist.Proofs.Time.StoredText
import SmartPlaylist.Selection.Eligibility

/-!
# Rotation

A track that rotates rests for two weeks after every one of its plays.  The program looks only at
the play whose text is greatest.  That one is the latest, since texts are in the order of moments,
and the latest play is the one that rests the track longest; so no other play needs to be looked
at.

## Main definitions

* `Store.HasPlay` — a play of a track is stored.
* `Store.lastPlay` — the play that is looked at.

## Main results

* `Store.exists_lastPlayed` — what the query for the last plays gives.
* `Store.isEligible_lastPlay_iff` — **the latest play decides.**
* `Store.eligibleTracks_runAll` — **the eligible tracks of any database that the program can
  reach.**
-/

namespace SmartPlaylist.Store

/-! ### The last plays -/

section filterMapM

variable {α β : Type} {db : Database} {f : α → Action (Option β)} {g : α → Option β}

/-- Where every step succeeds and leaves the database alone, so do all of them. -/
theorem outcome_filterMapM {xs : List α} (h : ∀ x ∈ xs, (f x).outcome db = (.ok (g x), db)) :
    (xs.filterMapM f).outcome db = (.ok (xs.filterMap g), db) := by
  induction xs with
  | nil => rfl
  | cons x xs ih =>
    have hrest := ih fun y hy => h y (List.mem_cons_of_mem _ hy)
    rw [List.filterMapM_cons, outcome_bind_of_ok (h x (List.mem_cons_self ..)),
      List.filterMap_cons]
    cases g x with
    | none => exact hrest
    | some y =>
      show (xs.filterMapM f >>= fun ys => pure (y :: ys)).outcome db = _
      rw [outcome_bind_of_ok hrest]
      rfl

end filterMapM

theorem lookup_filterMap {β : Type} (g : String → Option β) {ids : List String} {id : String}
    (h : id ∈ ids ∨ g id = none) :
    (ids.filterMap fun x => (g x).map fun y => (x, y)).lookup id = g id := by
  induction ids with
  | nil => simpa [eq_comm] using h
  | cons x xs ih =>
    rw [List.filterMap_cons]
    by_cases hx : id = x
    · subst hx
      cases hg : g id with
      | none => simpa [hg] using ih (Or.inr hg)
      | some y => simp
    · have hrest : id ∈ xs ∨ g id = none := h.imp_left fun hmem =>
        (List.mem_cons.mp hmem).resolve_left hx
      cases hg : g x with
      | none => simpa [hg] using ih hrest
      | some y =>
        have hne : (id == x) = false := by simpa using hx
        simp only [Option.map_some, List.lookup_cons, hne]
        exact ih hrest

/-- The texts of the plays of a track. -/
def playTexts (plays : List PlayRow) (id : String) : List String :=
  (plays.filter fun r => r.trackId = id).map PlayRow.playedAt

/-- The play of a track whose text is greatest. -/
def lastPlay (plays : List PlayRow) (id : String) : Option Moment :=
  (Text.greatest? (playTexts plays id)).bind Moment.ofStoredText?

variable {db : Database} {plays : List PlayRow} {id : String}

theorem mem_playTexts {text : String} : text ∈ playTexts plays id ↔ ⟨id, text⟩ ∈ plays := by
  rw [playTexts, List.mem_map]
  constructor
  · rintro ⟨r, hr, rfl⟩
    obtain ⟨hr, hid⟩ := List.mem_filter.mp hr
    rw [← of_decide_eq_true hid]
    exact hr
  · intro h
    exact ⟨_, List.mem_filter.mpr ⟨h, decide_eq_true rfl⟩, rfl⟩

/-- A track without plays has no last one. -/
theorem lastPlay_of_not_mem (h : id ∉ plays.map PlayRow.trackId) : lastPlay plays id = none := by
  have htexts : playTexts plays id = [] := by
    rw [playTexts, List.map_eq_nil_iff, List.filter_eq_nil_iff]
    intro r hr hid
    exact h (List.mem_map.mpr ⟨r, hr, of_decide_eq_true hid⟩)
  rw [lastPlay, htexts]
  rfl

/-- What the query for the last plays gives, where all plays bear texts of moments. -/
theorem exists_lastPlayed (hget : db.playHistory = some plays)
    (hplays : ∀ r ∈ plays, ∃ m : Moment, r.playedAt = m.storedText) :
    ∃ history, lastPlayed.outcome db = (.ok history, db) ∧
      ∀ id, history.lookup id = lastPlay plays id := by
  refine ⟨_, ?_, fun id => lookup_filterMap (lastPlay plays)
    (show id ∈ Text.distinct (plays.map PlayRow.trackId) ∨ lastPlay plays id = none from ?_)⟩
  · rw [lastPlayed, outcome_bind_of_ok (outcome_rows_of_some hget)]
    refine outcome_filterMapM fun id _ => ?_
    unfold lastPlay playTexts
    dsimp only
    cases hgreatest : Text.greatest? ((plays.filter (·.trackId = id)).map PlayRow.playedAt) with
    | none => rfl
    | some text =>
      obtain ⟨m, hm⟩ := hplays _ (mem_playTexts.mp (Text.greatest?_spec hgreatest).1)
      obtain rfl : text = m.storedText := hm
      have hread : (readTime m.storedText).outcome db = (.ok m, db) := by
        rw [readTime, Moment.ofStoredText?_storedText]
        rfl
      rw [outcome_bind_of_ok hread, Option.bind_some, Moment.ofStoredText?_storedText]
      rfl
  · by_cases hmem : id ∈ plays.map PlayRow.trackId
    · exact Or.inl (Text.mem_distinct.mpr hmem)
    · exact Or.inr (lastPlay_of_not_mem hmem)

/-! ### The latest play -/

/-- A play of a track is stored. -/
def HasPlay (db : Database) (id : String) (m : Moment) : Prop :=
  ⟨id, m.storedText⟩ ∈ db.playHistory.getD []

/-- A moment whose stored text is in the order of moments, and whose distance from others is one of
whole seconds. -/
def Ordinary (m : Moment) : Prop := m.HasPlainYear ∧ m.isLeapSecond = false

/-- The play that is looked at is the latest one. -/
theorem lastPlay_spec (hplays : ∀ r ∈ plays, ∃ m : Moment, r.playedAt = m.storedText)
    (hyear : ∀ m : Moment, ⟨id, m.storedText⟩ ∈ plays → m.HasPlainYear) :
    match lastPlay plays id with
    | some latest => ⟨id, latest.storedText⟩ ∈ plays ∧
        ∀ m : Moment, ⟨id, m.storedText⟩ ∈ plays → m ≤ latest
    | none => ∀ m : Moment, ⟨id, m.storedText⟩ ∉ plays := by
  unfold lastPlay
  cases hgreatest : Text.greatest? (playTexts plays id) with
  | none =>
    intro m hm
    rw [Text.greatest?_eq_none_iff] at hgreatest
    have hmem := mem_playTexts.mpr hm
    rw [hgreatest] at hmem
    exact List.not_mem_nil hmem
  | some text =>
    obtain ⟨hmem, hmax⟩ := Text.greatest?_spec hgreatest
    rw [mem_playTexts] at hmem
    obtain ⟨latest, rfl : text = latest.storedText⟩ := hplays _ hmem
    rw [Option.bind_some, Moment.ofStoredText?_storedText]
    refine ⟨hmem, fun m hm => ?_⟩
    have hle : m.storedText ≤ latest.storedText := hmax _ (mem_playTexts.mpr hm)
    exact (Moment.storedText_le_iff (hyear m hm) (hyear latest hmem)).mp hle

/-- **The latest play decides**: it lies outside the window when every play does. -/
theorem isEligible_lastPlay_iff {now : Moment} {rotate : Bool}
    (hplays : ∀ r ∈ plays, ∃ m : Moment, r.playedAt = m.storedText)
    (hordinary : ∀ m : Moment, ⟨id, m.storedText⟩ ∈ plays → Ordinary m)
    (hnow : now.isLeapSecond = false) :
    isEligible rotate (lastPlay plays id) now = true ↔
      rotate = false ∨ ∀ m : Moment, ⟨id, m.storedText⟩ ∈ plays → rotationWindow < now.since m := by
  have hspec := lastPlay_spec hplays fun m hm => (hordinary m hm).1
  unfold isEligible
  rw [Bool.or_eq_true, Bool.not_eq_true']
  refine or_congr_right ?_
  cases hlast : lastPlay plays id with
  | none =>
    rw [hlast] at hspec
    exact iff_of_true rfl fun m hm => absurd hm (hspec m)
  | some latest =>
    rw [hlast] at hspec
    obtain ⟨hmem, hmax⟩ := hspec
    rw [decide_eq_true_eq]
    constructor
    · -- any other play is earlier, hence further from now
      intro hlatest m hm
      have hle : now.since latest ≤ now.since m :=
        Moment.since_le_since hnow (hordinary m hm).2 (hordinary latest hmem).2 (hmax m hm)
      exact Int.lt_of_lt_of_le hlatest hle
    · intro hall
      exact hall latest hmem

/-! ### Eligible tracks -/

/-- The eligible tracks of a well-formed database. -/
theorem exists_eligibleTracks (hwf : WellFormed db) (name : String) {now : Moment}
    (hordinary : ∀ id m, HasPlay db id m → Ordinary m) (hnow : now.isLeapSecond = false) :
    ∃ tracks, (eligibleTracks name now).outcome db = (.ok tracks, db) ∧
      (tracks.Pairwise fun a b => a.trackId < b.trackId) ∧
      ∀ t, t ∈ tracks ↔ ⟨name, t.trackId, t.rotate⟩ ∈ db.rootPlaylists.getD [] ∧
        (t.rotate = false ∨ ∀ m, HasPlay db t.trackId m → rotationWindow < now.since m) := by
  obtain ⟨plays, hget⟩ := hwf.exists_playHistory
  obtain ⟨stored, hroots⟩ := hwf.exists_rootPlaylists
  have hplays := hwf.plays
  have hkey := hwf.roots
  simp only [HasPlay, hget, hroots, Option.getD_some] at hplays hkey hordinary ⊢
  obtain ⟨root, hload, hsorted, hmem⟩ := exists_loadRoot hroots hkey name
  obtain ⟨history, hhistory, hlookup⟩ := exists_lastPlayed hget hplays
  -- filtering keeps the order in which the set is loaded
  refine ⟨root.tracks.filter fun t => isEligible t.rotate (history.lookup t.trackId) now, ?_,
    hsorted.filter _, fun t => ?_⟩
  · rw [eligibleTracks, outcome_bind_of_ok hload, outcome_bind_of_ok hhistory]
    rfl
  · rw [List.mem_filter, hmem, hlookup]
    exact and_congr_right fun _ => isEligible_lastPlay_iff hplays (hordinary t.trackId) hnow

/-- **The eligible tracks of any database that the program can reach**: in byte order and each once,
the tracks of the stored set that do not rotate or have no play within the last two weeks, a play
exactly two weeks old and one in the future included. -/
theorem eligibleTracks_runAll (ops : List Operation) (name : String) {now : Moment}
    (hplays : ∀ id m, HasPlay (runAll ops Database.fresh) id m → Ordinary m)
    (hnow : now.isLeapSecond = false) :
    ∃ tracks, (eligibleTracks name now).outcome (runAll ops Database.fresh)
        = (.ok tracks, runAll ops Database.fresh) ∧
      (tracks.Pairwise fun a b => Text.utf8 a.trackId < Text.utf8 b.trackId) ∧
      ∀ t, t ∈ tracks ↔
        ⟨name, t.trackId, t.rotate⟩ ∈ (runAll ops Database.fresh).rootPlaylists.getD [] ∧
          (t.rotate = false ∨ ∀ m, HasPlay (runAll ops Database.fresh) t.trackId m →
            14 * 86400 * 1_000_000_000 < now.since m) := by
  have hwf : WellFormed (runAll ops Database.fresh) := wellFormed_runAll ops wellFormed_fresh
  obtain ⟨tracks, houtcome, hsorted, hmem⟩ := exists_eligibleTracks hwf name hplays hnow
  exact ⟨tracks, houtcome, hsorted.imp Text.utf8_lt_of_lt, hmem⟩

/-! #### A play exactly two weeks old -/

/-- Midnight, so many days after the start of 1970. -/
def midnight (day : Nat) : Moment where
  date := .ofDayNumber day
  second := 0
  nano := 0
  second_lt := by decide
  nano_lt := by decide
  leap_ends_minute := by decide

/-- Three candidates, of which two were played and one does not rotate. -/
def mixOperations : List Operation :=
  [.storeRoot ⟨"mix", [⟨"a", true⟩, ⟨"b", true⟩, ⟨"c", false⟩]⟩,
    .appendPlays [⟨"b", midnight 1⟩, ⟨"a", midnight 2⟩, ⟨"c", midnight 3⟩]]

theorem hasPlay_mixOperations {id : String} {m : Moment} :
    HasPlay (runAll mixOperations Database.fresh) id m ↔
      id = "b" ∧ m = midnight 1 ∨ id = "a" ∧ m = midnight 2 ∨ id = "c" ∧ m = midnight 3 := by
  have hplays : (runAll mixOperations Database.fresh).playHistory = some
      [⟨"b", (midnight 1).storedText⟩, ⟨"a", (midnight 2).storedText⟩,
        ⟨"c", (midnight 3).storedText⟩] := rfl
  have htext : ∀ day, m.storedText = (midnight day).storedText ↔ m = midnight day :=
    fun day => ⟨Moment.storedText_injective, congrArg _⟩
  simp only [HasPlay, hplays, Option.getD_some, List.mem_cons, List.not_mem_nil, or_false,
    PlayRow.mk.injEq, htext]

/-- The first track was played exactly two weeks ago and rests, the second was played a day
earlier. -/
theorem eligibleTracks_mixOperations :
    ∃ tracks, (eligibleTracks "mix" (midnight 16)).outcome (runAll mixOperations Database.fresh)
        = (.ok tracks, runAll mixOperations Database.fresh) ∧
      ⟨"a", true⟩ ∉ tracks ∧ ⟨"b", true⟩ ∈ tracks ∧ ⟨"c", false⟩ ∈ tracks := by
  have hordinary : ∀ id m, HasPlay (runAll mixOperations Database.fresh) id m → Ordinary m := by
    intro id m h
    rcases hasPlay_mixOperations.mp h with ⟨-, rfl⟩ | ⟨-, rfl⟩ | ⟨-, rfl⟩
    · exact ⟨⟨by decide, by decide⟩, rfl⟩
    · exact ⟨⟨by decide, by decide⟩, rfl⟩
    · exact ⟨⟨by decide, by decide⟩, rfl⟩
  have hroots : (runAll mixOperations Database.fresh).rootPlaylists = some
      [⟨"mix", "a", true⟩, ⟨"mix", "b", true⟩, ⟨"mix", "c", false⟩] := rfl
  obtain ⟨tracks, houtcome, -, hmem⟩ := eligibleTracks_runAll mixOperations "mix" hordinary
    (show (midnight 16).isLeapSecond = false from rfl)
  simp only [hroots, Option.getD_some] at hmem
  refine ⟨tracks, houtcome, ?_, (hmem _).mpr ⟨by decide, Or.inr fun m hm => ?_⟩,
    (hmem _).mpr ⟨by decide, Or.inl rfl⟩⟩
  · intro ha
    rcases ((hmem _).mp ha).2 with hrotate | hall
    · exact absurd hrotate (by decide)
    · exact absurd (hall (midnight 2) (hasPlay_mixOperations.mpr (by simp))) (by decide)
  · rcases hasPlay_mixOperations.mp hm with ⟨-, rfl⟩ | ⟨hid, -⟩ | ⟨hid, -⟩
    · decide
    · exact absurd hid (by decide)
    · exact absurd hid (by decide)

end SmartPlaylist.Store
