import SmartPlaylist.Playlist.Compile
import SmartPlaylist.Proofs.Filter.Matches
import SmartPlaylist.Proofs.Json.Fields
import SmartPlaylist.Proofs.Session.ReadsLibrary
import SmartPlaylist.Proofs.Store.RootPlaylists

/-!
# Candidates of a definition

The candidates are the matches of the filters and the tracks that the pins cover.  They are kept
sorted by id, and every later pin overwrites the flags of the tracks that it covers; so the flag of
a track is that of the last pin that covers it.

Collecting them reads the library and nothing else, which is why they do not depend on the root
playlists stored before.

## Main definitions

* `Pin.Covers` — a pin resolves, and a track is among those that it resolves to.
* `LastCovering` — the last pin of a list that covers a track.

## Main results

* `Compile.mem_assignAll_iff` — the flags after several tracks are set.
* `Compile.addPins_spec` — the flags after all pins.
* `Compile.candidates_spec` — **which tracks are candidates, and with which flags.**
* `Compile.readsLibrary_candidates` — candidates do not depend on the stored root playlists.
-/

namespace SmartPlaylist

/-! ### Flags by id -/

namespace Compile

variable {c : Candidates} {id x : String} {rotate b : Bool} {ids : List String}

/-- The ids are strictly increasing. -/
def Sorted (c : Candidates) : Prop := c.Pairwise fun p q => p.1 < q.1

/-- A flag is set as a field of an object is. -/
theorem assign_eq_insertField (id : String) (rotate : Bool) (c : Candidates) :
    assign id rotate c = Json.insertField id rotate c := by
  induction c with
  | nil => rfl
  | cons q rest ih => rw [assign, Json.insertField, ih]

theorem sorted_assign (h : Sorted c) : Sorted (assign id rotate c) := by
  rw [assign_eq_insertField]
  exact Json.keysSorted_insertField h

theorem mem_assign_iff (h : Sorted c) :
    (x, b) ∈ assign id rotate c ↔ x = id ∧ b = rotate ∨ x ≠ id ∧ (x, b) ∈ c := by
  rw [assign_eq_insertField]
  exact Json.mem_insertField_iff h

theorem sorted_assignAll (h : Sorted c) : Sorted (assignAll ids rotate c) := by
  induction ids generalizing c with
  | nil => exact h
  | cons id rest ih => exact ih (sorted_assign h)

theorem mem_assignAll_iff (h : Sorted c) :
    (x, b) ∈ assignAll ids rotate c ↔ x ∈ ids ∧ b = rotate ∨ x ∉ ids ∧ (x, b) ∈ c := by
  induction ids generalizing c with
  | nil => simp [assignAll]
  | cons id rest ih =>
    show (x, b) ∈ assignAll rest rotate (assign id rotate c) ↔ _
    rw [ih (sorted_assign h), mem_assign_iff h, List.mem_cons]
    by_cases hx : x ∈ rest
    · simp [hx]
    · by_cases hid : x = id
      · subst hid
        simp [hx]
      · simp [hx, hid]

end Compile

/-! ### Pins -/

/-- A pin resolves, and the track is among those that it resolves to: without an artist it must be
the only saved track of its name, and with one it must be linked to an artist of that name. -/
def Pin.Covers (pin : Pin) (db : Database) (id : String) : Prop :=
  (∃ t ∈ db.libraryTracks.getD [], t.trackId = id ∧ t.name = pin.name) ∧
    match pin.artist with
    | none => (db.libraryTracks.getD []).countP (fun t => t.name = pin.name) = 1
    | some artist => ∃ l ∈ db.trackArtists.getD [], l.trackId = id ∧
        ∃ a ∈ db.artists.getD [], a.id = l.artistId ∧ a.name = artist

theorem Store.outcome_resolvePin_of_none {db after : Database} {name : String}
    {named : List String} (h : (resolvePin name none).outcome db = (.ok named, after)) :
    named = Text.sorted (((db.libraryTracks.getD []).filter fun t => t.name = name).map
      LibraryTrackRow.trackId) := by
  simp only [resolvePin, outcome_rows_bind_eq_ok, outcome_pure, Prod.mk.injEq,
    Except.ok.injEq] at h
  obtain ⟨tracks, ht, rfl, -⟩ := h
  rw [show db.libraryTracks = some tracks from ht, Option.getD_some]

theorem Store.mem_resolvePin_of_some {db after : Database} {name artist : String}
    {named : List String} (h : (resolvePin name (some artist)).outcome db = (.ok named, after))
    (id : String) :
    id ∈ named ↔ (Pin.mk name (some artist) true).Covers db id := by
  simp only [resolvePin, outcome_rows_bind_eq_ok, outcome_pure, Prod.mk.injEq,
    Except.ok.injEq] at h
  obtain ⟨tracks, ht, links, hl, artists, ha, rfl, -⟩ := h
  rw [Pin.Covers, show db.libraryTracks = some tracks from ht,
    show db.trackArtists = some links from hl, show db.artists = some artists from ha]
  simp only [Option.getD_some, Text.mem_distinct, List.mem_map, List.mem_filter, List.any_eq_true,
    Bool.and_eq_true, decide_eq_true_eq]
  constructor
  · rintro ⟨t, ⟨ht, hname, l, hl, hid, a, ha⟩, rfl⟩
    exact ⟨⟨t, ht, rfl, hname⟩, l, hl, hid, a, ha⟩
  · rintro ⟨⟨t, ht, rfl, hname⟩, l, hl, hid, a, ha⟩
    exact ⟨t, ⟨ht, hname, l, hl, hid, a, ha⟩, rfl⟩

namespace Compile

variable {pin : Pin} {db after : Database} {named : List String}

/-- The tracks that a pin resolves to are those that it covers. -/
theorem mem_resolution_iff
    (h : (Store.resolvePin pin.name pin.artist).outcome db = (.ok named, after)) (id : String) :
    match resolution pin named with
    | .ok ids => id ∈ ids ↔ pin.Covers db id
    | .error _ => ¬pin.Covers db id := by
  obtain ⟨name, artist, rotate⟩ := pin
  cases artist with
  | none =>
    have hnamed := Store.outcome_resolvePin_of_none h
    have hmem : id ∈ named ↔ ∃ t ∈ db.libraryTracks.getD [], t.trackId = id ∧ t.name = name := by
      simp only [hnamed, Text.mem_sorted, List.mem_map, List.mem_filter, decide_eq_true_eq]
      exact exists_congr fun t => ⟨fun ⟨⟨ht, hn⟩, hid⟩ => ⟨ht, hid, hn⟩,
        fun ⟨ht, hid, hn⟩ => ⟨⟨ht, hn⟩, hid⟩⟩
    have hcount : (db.libraryTracks.getD []).countP (fun t => t.name = name) = named.length := by
      rw [hnamed, Text.sorted, List.length_mergeSort, List.length_map, List.countP_eq_length_filter]
    simp only [Pin.Covers, hcount, ← hmem]
    match named with
    | [] => simp [resolution]
    | [x] => simp [resolution]
    | x :: y :: rest => simp [resolution]
  | some artist =>
    have hmem := Store.mem_resolvePin_of_some h id
    have hcovers : (Pin.mk name (some artist) rotate).Covers db id ↔
        (Pin.mk name (some artist) true).Covers db id := Iff.rfl
    rw [hcovers, ← hmem]
    match named with
    | [] => simp [resolution]
    | [x] => simp [resolution]
    | x :: y :: rest => simp [resolution]

end Compile

/-! ### The last pin -/

section LastCovering

variable {pins rest : List Pin} {db : Database} {id : String} {pin p : Pin}

/-- The pin covers the track, and no later pin of the list does. -/
def LastCovering (pins : List Pin) (db : Database) (id : String) (pin : Pin) : Prop :=
  ∃ before after, pins = before ++ pin :: after ∧ pin.Covers db id ∧
    ∀ p ∈ after, ¬p.Covers db id

theorem not_lastCovering_nil : ¬LastCovering [] db id pin := by
  rintro ⟨before, after, h, -⟩
  exact absurd h (by simp)

theorem lastCovering_cons :
    LastCovering (p :: rest) db id pin ↔
      LastCovering rest db id pin ∨
        pin = p ∧ p.Covers db id ∧ ∀ q ∈ rest, ¬q.Covers db id := by
  constructor
  · rintro ⟨before, after, h, hpin, hafter⟩
    cases before with
    | nil =>
      obtain ⟨rfl, rfl⟩ := List.cons.inj h
      exact Or.inr ⟨rfl, hpin, hafter⟩
    | cons q before =>
      exact Or.inl ⟨before, after, (List.cons.inj h).2, hpin, hafter⟩
  · rintro (⟨before, after, rfl, hpin, hafter⟩ | ⟨rfl, hpin, hrest⟩)
    · exact ⟨p :: before, after, rfl, hpin, hafter⟩
    · exact ⟨[], rest, rfl, hpin, hrest⟩

theorem LastCovering.covers (h : LastCovering pins db id pin) : ∃ p ∈ pins, p.Covers db id := by
  obtain ⟨before, after, rfl, hpin, -⟩ := h
  exact ⟨pin, by simp, hpin⟩

theorem exists_lastCovering (h : ∃ p ∈ pins, p.Covers db id) :
    ∃ pin, LastCovering pins db id pin := by
  induction pins with
  | nil => simp at h
  | cons p rest ih =>
    by_cases hrest : ∃ q ∈ rest, q.Covers db id
    · obtain ⟨pin, hpin⟩ := ih hrest
      exact ⟨pin, lastCovering_cons.mpr (Or.inl hpin)⟩
    · obtain ⟨q, hq, hcovers⟩ := h
      have hqp : q = p := (List.mem_cons.mp hq).resolve_right fun hq => hrest ⟨q, hq, hcovers⟩
      subst hqp
      exact ⟨q, lastCovering_cons.mpr (Or.inr ⟨rfl, hcovers, fun r hr hc => hrest ⟨r, hr, hc⟩⟩)⟩

end LastCovering

/-! ### Collecting candidates -/

theorem Store.readsLibrary_resolvePin (name : String) (artist : Option String) :
    ReadsLibrary (resolvePin name artist) := by
  have htracks := ReadsLibrary.rows (t := .libraryTracks) fun _ _ => rfl
  have hlinks := ReadsLibrary.rows (t := .trackArtists) fun _ _ => rfl
  have hartists := ReadsLibrary.rows (t := .artists) fun _ _ => rfl
  cases artist with
  | none => exact htracks.bind fun _ => .pure _
  | some artist => exact htracks.bind fun _ => hlinks.bind fun _ => hartists.bind fun _ => .pure _

theorem Store.readsLibrary_filterMatches (d : Definition) : ReadsLibrary (filterMatches d) := by
  have htracks := ReadsLibrary.rows (t := .libraryTracks) fun _ _ => rfl
  have hlinks := ReadsLibrary.rows (t := .trackArtists) fun _ _ => rfl
  have hartists := ReadsLibrary.rows (t := .artists) fun _ _ => rfl
  have hgenres := ReadsLibrary.rows (t := .artistGenres) fun _ _ => rfl
  have hfeatures := ReadsLibrary.rows (t := .audioFeatures) fun _ _ => rfl
  unfold filterMatches
  split
  · exact htracks.bind fun _ => hlinks.bind fun _ => hartists.bind fun _ =>
      hgenres.bind fun _ => hfeatures.bind fun _ => .pure _
  · exact .pure _

namespace Compile

variable {σ : Type} {playlist : String} {policy : UnresolvedPolicy} {pins : List Pin}
  {c c' : Candidates} {d : Definition} {root : RootPlaylist} {s s' : Session σ}

theorem readsLibrary_addPins (playlist : String) (policy : UnresolvedPolicy) :
    ∀ (pins : List Pin) (c : Candidates),
      (addPins playlist policy pins c : Job σ CompileError Candidates).ReadsLibrary
  | [], c => .pure c
  | pin :: rest, c => by
    refine (Job.ReadsLibrary.store (Store.readsLibrary_resolvePin _ _)).failAs.bind fun named => ?_
    cases resolution pin named with
    | ok ids => exact readsLibrary_addPins playlist policy rest _
    | error problem =>
      cases policy with
      | skip => exact (Job.ReadsLibrary.tell _).bind fun _ => readsLibrary_addPins playlist _ rest c
      | fail => exact .throw _

/-- Candidates do not depend on the stored root playlists. -/
theorem readsLibrary_candidates (d : Definition) (policy : UnresolvedPolicy) :
    (candidates d policy : Job σ CompileError RootPlaylist).ReadsLibrary :=
  (Job.ReadsLibrary.store (Store.readsLibrary_filterMatches d)).failAs.bind fun _ =>
    (readsLibrary_addPins d.name policy d.pins _).bind fun _ => .pure _

/-- **The flags after all pins**: a track that a pin covers has the flag of the last such pin, and
any other track the flag that it had before. -/
theorem addPins_spec (hc : Sorted c)
    (h : (addPins playlist policy pins c).outcome s = (.ok c', s')) :
    Sorted c' ∧ ∀ id b, (id, b) ∈ c' ↔
      (∃ pin, LastCovering pins s.database id pin ∧ b = pin.rotate) ∨
        (∀ p ∈ pins, ¬p.Covers s.database id) ∧ (id, b) ∈ c := by
  induction pins generalizing c s with
  | nil =>
    obtain ⟨rfl, -⟩ : c = c' ∧ s = s' := by simpa [addPins] using h
    exact ⟨hc, fun id b => by simp [not_lastCovering_nil]⟩
  | cons p rest ih =>
    rw [addPins, Job.outcome_bind_eq_ok] at h
    obtain ⟨named, mid, hread, h⟩ := h
    rw [Job.outcome_failAs_eq_ok, Job.outcome_store_eq_ok] at hread
    obtain ⟨hread, -⟩ := hread
    have hmid : mid.database = s.database := by
      rw [← (Store.readsLibrary_resolvePin p.name p.artist).database s.database, hread]
    have hcovers := fun id => mem_resolution_iff hread id
    -- every way on runs the other pins from the flags that this pin leaves
    have hstep : ∃ c₁ t, Sorted c₁ ∧ t.database = s.database ∧
        (addPins playlist policy rest c₁).outcome t = (.ok c', s') ∧
        ∀ id b, (id, b) ∈ c₁ ↔
          p.Covers s.database id ∧ b = p.rotate ∨ ¬p.Covers s.database id ∧ (id, b) ∈ c := by
      cases hres : resolution p named with
      | ok ids =>
        simp only [hres] at h hcovers
        refine ⟨_, mid, sorted_assignAll hc, hmid, h, fun id b => ?_⟩
        rw [mem_assignAll_iff hc, hcovers]
      | error problem =>
        simp only [hres] at h hcovers
        cases policy with
        | skip =>
          rw [Job.outcome_bind_of_ok (Job.outcome_tell _ mid)] at h
          refine ⟨c, _, hc, ?_, h, fun id b => by simp [hcovers id]⟩
          exact hmid
        | fail => simp at h
    -- a later pin that covers the track comes before this one, and this one before the flag so far
    obtain ⟨c₁, t, hc₁, ht, hrest, hmem⟩ := hstep
    obtain ⟨hsorted, hflags⟩ := ih hc₁ hrest
    refine ⟨hsorted, fun id b => ?_⟩
    rw [hflags, ht, hmem]
    simp only [lastCovering_cons, List.forall_mem_cons]
    constructor
    · rintro (⟨pin, hpin, rfl⟩ | ⟨hnone, ⟨hp, rfl⟩ | ⟨hp, hb⟩⟩)
      · exact Or.inl ⟨pin, Or.inl hpin, rfl⟩
      · exact Or.inl ⟨p, Or.inr ⟨rfl, hp, hnone⟩, rfl⟩
      · exact Or.inr ⟨⟨hp, hnone⟩, hb⟩
    · rintro (⟨pin, hpin | ⟨rfl, hp, hnone⟩, rfl⟩ | ⟨⟨hp, hnone⟩, hb⟩)
      · exact Or.inl ⟨pin, hpin, rfl⟩
      · exact Or.inr ⟨hnone, Or.inl ⟨hp, rfl⟩⟩
      · exact Or.inr ⟨hnone, Or.inr ⟨hp, hb⟩⟩

/-- **Which tracks are candidates, and with which flags.** -/
theorem candidates_spec (h : (candidates d policy).outcome s = (.ok root, s')) :
    root.name = d.name ∧ root.Sorted ∧
      ∃ found, (Store.filterMatches d).outcome s.database = (.ok found, s.database) ∧
        ∀ t, t ∈ root.tracks ↔
          (∃ pin, LastCovering d.pins s.database t.trackId pin ∧ t.rotate = pin.rotate) ∨
            (∀ p ∈ d.pins, ¬p.Covers s.database t.trackId) ∧
              t.trackId ∈ found ∧ t.rotate = true := by
  rw [candidates, Job.outcome_bind_eq_ok] at h
  obtain ⟨found, mid, hfound, h⟩ := h
  rw [Job.outcome_failAs_eq_ok, Job.outcome_store_eq_ok] at hfound
  obtain ⟨hfound, -⟩ := hfound
  have hmid : mid.database = s.database := by
    rw [← (Store.readsLibrary_filterMatches d).database s.database, hfound]
  rw [Job.outcome_bind_eq_ok] at h
  obtain ⟨all, t, hall, h⟩ := h
  obtain ⟨hsorted, hflags⟩ := addPins_spec (sorted_assignAll List.Pairwise.nil) hall
  obtain ⟨rfl, -⟩ : RootPlaylist.mk d.name (all.map fun p => ⟨p.1, p.2⟩) = root ∧ t = s' := by
    simpa using h
  refine ⟨rfl, List.pairwise_map.mpr hsorted, found, hmid ▸ hfound, fun t => ?_⟩
  have hmem : t ∈ all.map (fun p : String × Bool => RootTrack.mk p.1 p.2) ↔
      (t.trackId, t.rotate) ∈ all := by
    rw [List.mem_map]
    constructor
    · rintro ⟨p, hp, rfl⟩
      exact hp
    · intro hp
      exact ⟨_, hp, rfl⟩
  rw [← hmid]
  refine hmem.trans ((hflags _ _).trans ?_)
  rw [mem_assignAll_iff List.Pairwise.nil]
  simp

end Compile

end SmartPlaylist
