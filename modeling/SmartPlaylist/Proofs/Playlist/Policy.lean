import SmartPlaylist.Proofs.List.InOrder
import SmartPlaylist.Proofs.Playlist.Compile

/-!
# Pins that do not resolve

A pin that does not resolve is either skipped with a warning or ends the run.  Skipping leaves no
trace but the warning: the flags are those that the resolving pins set.  Ending the run leaves no
trace at all, because candidates are collected before anything is written.  So the two policies
agree where every pin resolves, and elsewhere skipping comes to what the definition without the
other pins comes to.

Here every table is there; then each step of a run has one outcome, which the lemmas below give.

## Main definitions

* `Pin.Names`, `Pin.named` — the saved tracks that a pin names.
* `Pin.Resolves`, `Pin.problem` — whether a pin resolves, and why it does not.
* `Compile.addPin`, `Compile.gathered` — the flags after one pin, and after all.

## Main results

* `Pin.resolves_iff_covers` — a pin resolves when it covers some track.
* `outcome_compile_of_resolves`, `outcome_compile_skip`, `outcome_compile_fail` — what compiling
  comes to, by policy.
* `compile_policies` — **the two policies agree.**
-/

namespace SmartPlaylist

/-! ### Resolving pins -/

namespace Pin

/-- A saved track bears the pin's name and, where the pin gives an artist, is linked to an artist of
that name. -/
def Names (pin : Pin) (db : Database) (t : LibraryTrackRow) : Prop :=
  t.name = pin.name ∧ ∀ artist ∈ pin.artist, ∃ l ∈ db.trackArtists.getD [],
    l.trackId = t.trackId ∧ ∃ a ∈ db.artists.getD [], a.id = l.artistId ∧ a.name = artist

instance (pin : Pin) (db : Database) : DecidablePred (pin.Names db) :=
  fun _ => inferInstanceAs (Decidable (_ ∧ _))

/-- The saved tracks that a pin names. -/
def named (pin : Pin) (db : Database) : List LibraryTrackRow :=
  (db.libraryTracks.getD []).filter fun t => pin.Names db t

/-- A pin resolves when it names some track, and only one unless it gives an artist. -/
def Resolves (pin : Pin) (db : Database) : Prop :=
  pin.named db ≠ [] ∧ (pin.artist = none → (pin.named db).length = 1)

instance (pin : Pin) (db : Database) : Decidable (pin.Resolves db) :=
  inferInstanceAs (Decidable (_ ∧ _))

/-- Why a pin does not resolve. -/
def problem (pin : Pin) (db : Database) : PinProblem :=
  if pin.named db = [] then .notFound else .ambiguous

/-- The ids that the query for a pin gives. -/
def trackIds (pin : Pin) (db : Database) : List String :=
  match pin.artist with
  | none => Text.sorted ((pin.named db).map LibraryTrackRow.trackId)
  | some _ => Text.distinct ((pin.named db).map LibraryTrackRow.trackId)

variable {pin : Pin} {db : Database} {id : String}

theorem mem_trackIds : id ∈ pin.trackIds db ↔ ∃ t ∈ pin.named db, t.trackId = id := by
  unfold trackIds
  cases pin.artist with
  | none => rw [Text.mem_sorted, List.mem_map]
  | some artist => rw [Text.mem_distinct, List.mem_map]

theorem trackIds_eq_nil_iff : pin.trackIds db = [] ↔ pin.named db = [] := by
  rw [List.eq_nil_iff_forall_not_mem, List.eq_nil_iff_forall_not_mem]
  constructor
  · intro h t ht
    exact h t.trackId (mem_trackIds.mpr ⟨t, ht, rfl⟩)
  · intro h id hid
    obtain ⟨t, ht, -⟩ := mem_trackIds.mp hid
    exact h t ht

/-- Without an artist, every track that is named counts, also one of the same id. -/
theorem length_trackIds_of_none (h : pin.artist = none) :
    (pin.trackIds db).length = (pin.named db).length := by
  simp only [trackIds, h, Text.sorted, List.length_mergeSort, List.length_map]

/-- The query for a pin gives the ids of the tracks that it names. -/
theorem outcome_resolvePin (h : db.withSchema = db) (pin : Pin) :
    (Store.resolvePin pin.name pin.artist).outcome db = (.ok (pin.trackIds db), db) := by
  have htracks : (Store.rows .libraryTracks).outcome db = (.ok (db.libraryTracks.getD []), db) :=
    Store.outcome_rows_of_some (congrArg Database.libraryTracks h).symm
  have hlinks : (Store.rows .trackArtists).outcome db = (.ok (db.trackArtists.getD []), db) :=
    Store.outcome_rows_of_some (congrArg Database.trackArtists h).symm
  have hartists : (Store.rows .artists).outcome db = (.ok (db.artists.getD []), db) :=
    Store.outcome_rows_of_some (congrArg Database.artists h).symm
  obtain ⟨name, artist, rotate⟩ := pin
  unfold Store.resolvePin trackIds named Names
  cases artist with
  | none =>
    rw [Store.outcome_bind_of_ok htracks]
    simp
  | some artist =>
    rw [Store.outcome_bind_of_ok htracks, Store.outcome_bind_of_ok hlinks,
      Store.outcome_bind_of_ok hartists]
    refine congrArg (fun tracks => (Except.ok (Text.distinct
      (tracks.map LibraryTrackRow.trackId)), db)) (List.filter_congr fun t _ => ?_)
    rw [Bool.eq_iff_iff]
    simp

/-- A pin that resolves gives all tracks that it names. -/
theorem resolution_of_resolves (h : pin.Resolves db) :
    Compile.resolution pin (pin.trackIds db) = .ok (pin.trackIds db) := by
  obtain ⟨hne, hone⟩ := h
  rw [Ne, ← trackIds_eq_nil_iff] at hne
  have hlen : pin.artist = none → (pin.trackIds db).length = 1 := fun hartist => by
    rw [length_trackIds_of_none hartist]
    exact hone hartist
  generalize pin.trackIds db = ids at hne hlen
  unfold Compile.resolution
  match ids, hartist : pin.artist with
  | [], _ => exact absurd rfl hne
  | [id], _ => rfl
  | id :: id' :: rest, some _ => rfl
  | id :: id' :: rest, none => exact absurd (hlen hartist) (by simp)

/-- A pin that does not resolve gives its problem. -/
theorem resolution_of_not_resolves (h : ¬pin.Resolves db) :
    Compile.resolution pin (pin.trackIds db) = .error (pin.problem db) := by
  unfold problem
  by_cases hnil : pin.named db = []
  · rw [trackIds_eq_nil_iff.mpr hnil, if_pos hnil]
    rfl
  · -- some track is named, so there must be several, and no artist
    rw [if_neg hnil]
    obtain ⟨hartist, hlen⟩ : pin.artist = none ∧ (pin.named db).length ≠ 1 := by
      simpa [Resolves, hnil] using h
    rw [← trackIds_eq_nil_iff] at hnil
    rw [← length_trackIds_of_none hartist] at hlen
    generalize pin.trackIds db = ids at hnil hlen
    unfold Compile.resolution
    rw [hartist]
    match ids with
    | [] => exact absurd rfl hnil
    | [id] => exact absurd rfl hlen
    | id :: id' :: rest => rfl

/-- A pin whose problem is not that nothing is named gives no artist and names several tracks. -/
theorem ambiguous_of_not_resolves (h : ¬pin.Resolves db) (hne : pin.named db ≠ []) :
    pin.artist = none ∧ 1 < (pin.named db).length := by
  obtain ⟨hartist, hlen⟩ : pin.artist = none ∧ (pin.named db).length ≠ 1 := by
    simpa [Resolves, hne] using h
  have hpos : 0 < (pin.named db).length := List.length_pos_iff.mpr hne
  exact ⟨hartist, by omega⟩

/-- A pin resolves when it covers some track. -/
theorem resolves_iff_covers (h : db.withSchema = db) :
    pin.Resolves db ↔ ∃ id, pin.Covers db id := by
  have hmem := fun id => Compile.mem_resolution_iff (outcome_resolvePin h pin) id
  by_cases hres : pin.Resolves db
  · simp only [resolution_of_resolves hres] at hmem
    obtain ⟨id, hid⟩ := List.exists_mem_of_ne_nil _ (mt trackIds_eq_nil_iff.mp hres.1)
    exact iff_of_true hres ⟨id, (hmem id).mp hid⟩
  · simp only [resolution_of_not_resolves hres] at hmem
    exact iff_of_false hres fun ⟨id, hid⟩ => hmem id hid

end Pin

/-! ### Collecting candidates -/

namespace Compile

variable {σ : Type} {db : Database} {playlist : String} {policy : UnresolvedPolicy} {pin : Pin}
  {pins rest : List Pin} {c : Candidates} {d : Definition} {s : Session σ}

/-- The flags after a pin. -/
def addPin (db : Database) (c : Candidates) (pin : Pin) : Candidates :=
  if pin.Resolves db then assignAll (pin.trackIds db) pin.rotate c else c

/-- What is told about pins that do not resolve. -/
def skipped (playlist : String) (db : Database) (pins : List Pin) : List Notice :=
  (pins.filter fun pin => !decide (pin.Resolves db)).map fun pin =>
    .pinSkipped pin.name playlist (pin.problem db)

theorem sorted_foldl_addPin (h : Sorted c) : Sorted (pins.foldl (addPin db) c) := by
  induction pins generalizing c with
  | nil => exact h
  | cons pin rest ih =>
    refine ih ?_
    unfold addPin
    split
    · exact sorted_assignAll h
    · exact h

/-- Pins that do not resolve leave no trace in the flags. -/
theorem foldl_addPin_filter :
    (pins.filter fun pin => pin.Resolves db).foldl (addPin db) c = pins.foldl (addPin db) c := by
  rw [List.foldl_filter]
  refine congrArg (fun f => pins.foldl f c) (funext fun c => funext fun pin => ?_)
  by_cases hres : pin.Resolves db
  · rw [if_pos (decide_eq_true hres)]
  · rw [if_neg (by simpa using hres), addPin, if_neg hres]

theorem outcome_readPin (h : s.database.withSchema = s.database) (pin : Pin) :
    ((Job.store (Store.resolvePin pin.name pin.artist)).failAs CompileError.store).outcome s
      = (.ok (pin.trackIds s.database), s) :=
  Job.outcome_failAs_eq_ok.mpr (Job.outcome_store_eq_ok.mpr ⟨pin.outcome_resolvePin h, rfl⟩)

/-- A pin that resolves is added, whatever the policy. -/
theorem outcome_addPins_cons_of_resolves (h : s.database.withSchema = s.database)
    (hres : pin.Resolves s.database) :
    (addPins playlist policy (pin :: rest) c).outcome s
      = (addPins playlist policy rest (addPin s.database c pin)).outcome s := by
  rw [addPins, Job.outcome_bind_of_ok (outcome_readPin h pin), Pin.resolution_of_resolves hres,
    addPin, if_pos hres]

/-- A pin that does not resolve is skipped with a warning. -/
theorem outcome_addPins_cons_skip (h : s.database.withSchema = s.database)
    (hres : ¬pin.Resolves s.database) :
    (addPins playlist .skip (pin :: rest) c).outcome s = (addPins playlist .skip rest c).outcome
      { s with notices := s.notices ++
          [.pinSkipped pin.name playlist (pin.problem s.database)] } := by
  rw [addPins, Job.outcome_bind_of_ok (outcome_readPin h pin),
    Pin.resolution_of_not_resolves hres]
  exact Job.outcome_bind_of_ok (Job.outcome_tell _ s)

/-- A pin that does not resolve ends the run. -/
theorem outcome_addPins_cons_fail (h : s.database.withSchema = s.database)
    (hres : ¬pin.Resolves s.database) :
    (addPins playlist .fail (pin :: rest) c).outcome s
      = (.error (.unresolvedTrack playlist pin.name), s) := by
  rw [addPins, Job.outcome_bind_of_ok (outcome_readPin h pin),
    Pin.resolution_of_not_resolves hres]
  rfl

/-- Where every pin resolves, all are added. -/
theorem outcome_addPins_of_resolves (h : s.database.withSchema = s.database)
    (hres : ∀ pin ∈ pins, pin.Resolves s.database) :
    (addPins playlist policy pins c).outcome s = (.ok (pins.foldl (addPin s.database) c), s) := by
  induction pins generalizing c with
  | nil => rfl
  | cons pin rest ih =>
    rw [outcome_addPins_cons_of_resolves h (hres pin (List.mem_cons_self ..)), List.foldl_cons]
    exact ih fun p hp => hres p (List.mem_cons_of_mem _ hp)

/-- Skipping adds the pins that resolve and warns about the others, in order. -/
theorem outcome_addPins_skip (h : s.database.withSchema = s.database) :
    (addPins playlist .skip pins c).outcome s = (.ok (pins.foldl (addPin s.database) c),
      { s with notices := s.notices ++ skipped playlist s.database pins }) := by
  induction pins generalizing c s with
  | nil =>
    rw [skipped, List.filter_nil, List.map_nil, List.append_nil]
    rfl
  | cons pin rest ih =>
    by_cases hres : pin.Resolves s.database
    · have hskipped : skipped playlist s.database (pin :: rest)
          = skipped playlist s.database rest := by
        simp [skipped, hres]
      rw [outcome_addPins_cons_of_resolves h hres, ih h, hskipped, List.foldl_cons]
    · have hskipped : skipped playlist s.database (pin :: rest)
          = .pinSkipped pin.name playlist (pin.problem s.database)
            :: skipped playlist s.database rest := by
        simp [skipped, hres]
      have hsame : addPin s.database c pin = c := if_neg hres
      have hrest := ih (c := c) (s := { s with notices := s.notices ++
        [.pinSkipped pin.name playlist (pin.problem s.database)] }) h
      rw [outcome_addPins_cons_skip h hres, hrest, hskipped, List.foldl_cons, hsame,
        List.append_assoc, List.singleton_append]

/-- The first pin that does not resolve ends the run. -/
theorem outcome_addPins_fail (h : s.database.withSchema = s.database) {before : List Pin}
    (hbefore : ∀ pin ∈ before, pin.Resolves s.database) (hres : ¬pin.Resolves s.database) :
    (addPins playlist .fail (before ++ pin :: rest) c).outcome s
      = (.error (.unresolvedTrack playlist pin.name), s) := by
  induction before generalizing c with
  | nil => exact outcome_addPins_cons_fail h hres
  | cons p before ih =>
    rw [List.cons_append, outcome_addPins_cons_of_resolves h (hbefore p (List.mem_cons_self ..))]
    exact ih fun q hq => hbefore q (List.mem_cons_of_mem _ hq)

/-- Filtering succeeds and gives the matches. -/
theorem exists_filterMatches (h : db.withSchema = db) (d : Definition) :
    ∃ found, (Store.filterMatches d).outcome db = (.ok found, db) := by
  by_cases hf : d.hasFilters
  · exact ⟨_, (Store.outcome_filterMatches_eq_ok hf).mpr ⟨_, _, _, _, _,
      (congrArg Database.libraryTracks h).symm, (congrArg Database.trackArtists h).symm,
      (congrArg Database.artists h).symm, (congrArg Database.artistGenres h).symm,
      (congrArg Database.audioFeatures h).symm, rfl, rfl⟩⟩
  · exact ⟨[], Store.outcome_filterMatches_of_not_hasFilters
      (mt Definition.hasFilters_eq_true_iff.mpr hf) db⟩

/-- The root playlist of some matches and pins. -/
def gathered (db : Database) (name : String) (found : List String) (pins : List Pin) :
    RootPlaylist :=
  ⟨name, (pins.foldl (addPin db) (assignAll found true [])).map fun (id, rotate) => ⟨id, rotate⟩⟩

theorem nodup_gathered (db : Database) (name : String) (found : List String) (pins : List Pin) :
    ((gathered db name found pins).tracks.map RootTrack.trackId).Nodup := by
  have hsorted : Sorted (pins.foldl (addPin db) (assignAll found true [])) :=
    sorted_foldl_addPin (sorted_assignAll List.Pairwise.nil)
  have hroot : (gathered db name found pins).Sorted := List.pairwise_map.mpr hsorted
  exact hroot.nodup

end Compile

/-! ### Compiling under a policy -/

section Policies

open Compile

variable {σ : Type} {d : Definition} {policy : UnresolvedPolicy} {found : List String}
  {s t : Session σ}

/-- Compiling stores what is gathered, once the pins are added. -/
theorem outcome_compile_of_addPins (h : s.database.withSchema = s.database)
    (hfound : (Store.filterMatches d).outcome s.database = (.ok found, s.database))
    (hpins : (addPins d.name policy d.pins (assignAll found true [])).outcome s
      = (.ok (d.pins.foldl (addPin s.database) (assignAll found true [])), t))
    (ht : t.database = s.database) :
    (compile d policy).outcome s = (.ok (gathered s.database d.name found d.pins),
      { t with database := s.database.withRoot (gathered s.database d.name found d.pins) }) := by
  have hread : ((Job.store (Store.filterMatches d)).failAs CompileError.store).outcome s
      = (.ok found, s) :=
    Job.outcome_failAs_eq_ok.mpr (Job.outcome_store_eq_ok.mpr ⟨hfound, rfl⟩)
  have hcandidates : (candidates d policy).outcome s
      = (.ok (gathered s.database d.name found d.pins), t) := by
    rw [candidates, Job.outcome_bind_of_ok hread, Job.outcome_bind_of_ok hpins]
    rfl
  refine outcome_compile_eq_ok.mpr ⟨t, hcandidates, ?_, rfl⟩
  rw [ht]
  exact Store.outcome_storeRoot_eq_withRoot (congrArg Database.rootPlaylists h).symm
    (nodup_gathered _ _ _ _)

/-- Where every pin resolves, the policy does not matter and nothing is told. -/
theorem outcome_compile_of_resolves (h : s.database.withSchema = s.database)
    (hfound : (Store.filterMatches d).outcome s.database = (.ok found, s.database))
    (hres : ∀ pin ∈ d.pins, pin.Resolves s.database) :
    (compile d policy).outcome s = (.ok (gathered s.database d.name found d.pins),
      { s with database := s.database.withRoot (gathered s.database d.name found d.pins) }) :=
  outcome_compile_of_addPins h hfound (outcome_addPins_of_resolves h hres) rfl

/-- Skipping comes to what the resolving pins gather, with a warning for each of the others. -/
theorem outcome_compile_skip (h : s.database.withSchema = s.database)
    (hfound : (Store.filterMatches d).outcome s.database = (.ok found, s.database)) :
    (compile d .skip).outcome s = (.ok (gathered s.database d.name found d.pins),
      { s with
        database := s.database.withRoot (gathered s.database d.name found d.pins)
        notices := s.notices ++ skipped d.name s.database d.pins }) :=
  outcome_compile_of_addPins h hfound (outcome_addPins_skip h) rfl

/-- Otherwise the first pin that does not resolve ends the run, and nothing is changed. -/
theorem outcome_compile_fail (h : s.database.withSchema = s.database) {before rest : List Pin}
    {pin : Pin} (hpins : d.pins = before ++ pin :: rest)
    (hbefore : ∀ p ∈ before, p.Resolves s.database) (hres : ¬pin.Resolves s.database) :
    (compile d .fail).outcome s = (.error (.unresolvedTrack d.name pin.name), s) := by
  obtain ⟨found, hfound⟩ := exists_filterMatches h d
  have hread : ((Job.store (Store.filterMatches d)).failAs CompileError.store).outcome s
      = (.ok found, s) :=
    Job.outcome_failAs_eq_ok.mpr (Job.outcome_store_eq_ok.mpr ⟨hfound, rfl⟩)
  have hstop : (candidates d .fail).outcome s
      = (.error (.unresolvedTrack d.name pin.name), s) := by
    rw [candidates, Job.outcome_bind_of_ok hread, hpins]
    exact Job.outcome_bind_of_error (outcome_addPins_fail h hbefore hres)
  exact Job.outcome_bind_of_error hstop

/-- Some pin is the first that does not resolve, unless all do. -/
theorem exists_first_unresolved {pins : List Pin} {db : Database}
    (h : ¬∀ pin ∈ pins, pin.Resolves db) :
    ∃ before pin rest, pins = before ++ pin :: rest ∧ (∀ p ∈ before, p.Resolves db) ∧
      ¬pin.Resolves db :=
  exists_first_not h

/-- **The two policies agree.**  Where every pin resolves, they come to the same, and nothing is
told.  Elsewhere the first pin that does not resolve ends the run under the one policy, and the
session stays as it was; under the other each such pin gives a warning, in order, and all else is as
if the definition did not have it. -/
theorem compile_policies (d : Definition) {s : Session σ}
    (h : s.database.withSchema = s.database) :
    ((∃ root after, (compile d .fail).outcome s = (.ok root, after)) ↔
      ∀ pin ∈ d.pins, pin.Resolves s.database) ∧
    (∀ root after, (compile d .fail).outcome s = (.ok root, after) →
      (compile d .skip).outcome s = (.ok root, after) ∧ after.notices = s.notices) ∧
    ((¬∀ pin ∈ d.pins, pin.Resolves s.database) →
      ∃ before pin rest, d.pins = before ++ pin :: rest ∧
        (∀ p ∈ before, p.Resolves s.database) ∧ ¬pin.Resolves s.database ∧
        (compile d .fail).outcome s = (.error (.unresolvedTrack d.name pin.name), s)) ∧
    (∃ root after, (compile d .skip).outcome s = (.ok root, after) ∧
      after.notices = s.notices ++
        (d.pins.filter fun pin => !decide (pin.Resolves s.database)).map (fun pin =>
          .pinSkipped pin.name d.name (pin.problem s.database)) ∧
      ∀ policy, (compile { d with pins := d.pins.filter fun pin => pin.Resolves s.database }
        policy).outcome s = (.ok root, { after with notices := s.notices })) ∧
    ∀ pin ∈ d.pins, ¬pin.Resolves s.database →
      (pin.named s.database = [] ∧
        (Notice.pinSkipped pin.name d.name (pin.problem s.database)).text =
          "Pinned track `" ++ pin.name ++ "` for playlist `" ++ d.name ++ "` " ++
            "not found in library" ++ "; skipping.") ∨
      pin.artist = none ∧ 1 < (pin.named s.database).length ∧
        (Notice.pinSkipped pin.name d.name (pin.problem s.database)).text =
          "Pinned track `" ++ pin.name ++ "` for playlist `" ++ d.name ++ "` " ++
            "matches several library tracks, add `artist` to pick one" ++ "; skipping." := by
  obtain ⟨found, hfound⟩ := exists_filterMatches h d
  have hfail : (¬∀ pin ∈ d.pins, pin.Resolves s.database) →
      ∃ before pin rest, d.pins = before ++ pin :: rest ∧
        (∀ p ∈ before, p.Resolves s.database) ∧ ¬pin.Resolves s.database ∧
        (compile d .fail).outcome s = (.error (.unresolvedTrack d.name pin.name), s) := by
    intro hnot
    obtain ⟨before, pin, rest, hpins, hbefore, hpin⟩ := exists_first_unresolved hnot
    exact ⟨before, pin, rest, hpins, hbefore, hpin, outcome_compile_fail h hpins hbefore hpin⟩
  have hiff : (∃ root after, (compile d .fail).outcome s = (.ok root, after)) ↔
      ∀ pin ∈ d.pins, pin.Resolves s.database := by
    constructor
    · rintro ⟨root, after, hok⟩
      by_contra hnot
      obtain ⟨before, pin, rest, -, -, -, herror⟩ := hfail hnot
      rw [hok] at herror
      simp at herror
    · intro hres
      exact ⟨_, _, outcome_compile_of_resolves h hfound hres⟩
  refine ⟨hiff, fun root after hok => ?_, hfail, ⟨_, _, outcome_compile_skip h hfound, rfl,
    fun policy => ?_⟩, fun pin _ hpin => ?_⟩
  · have hres := hiff.mp ⟨root, after, hok⟩
    rw [outcome_compile_of_resolves h hfound hres] at hok
    rw [outcome_compile_of_resolves h hfound hres, hok]
    obtain ⟨-, rfl⟩ := Prod.mk.inj hok
    exact ⟨rfl, rfl⟩
  · -- the matches are the same, and the other pins would have added nothing
    have hres : ∀ pin ∈ d.pins.filter (fun pin => decide (pin.Resolves s.database)),
        pin.Resolves s.database :=
      fun pin hpin => of_decide_eq_true (List.mem_filter.mp hpin).2
    have hkept : (compile { d with pins := d.pins.filter fun pin => pin.Resolves s.database }
        policy).outcome s = _ := outcome_compile_of_resolves h hfound hres
    simp only [gathered, foldl_addPin_filter] at hkept ⊢
    exact hkept
  · by_cases hnil : pin.named s.database = []
    · exact Or.inl ⟨hnil, by rw [Pin.problem, if_pos hnil]; rfl⟩
    · obtain ⟨hartist, hlen⟩ := Pin.ambiguous_of_not_resolves hpin hnil
      exact Or.inr ⟨hartist, hlen, by rw [Pin.problem, if_neg hnil]; rfl⟩

/-! #### A library with twins -/

/-- Three tracks, two of one name. -/
def twinSession : Session Unit where
  database := ({ libraryTracks := some [⟨"t1", "Twin", ""⟩, ⟨"t2", "Twin", ""⟩,
    ⟨"t3", "Solo", ""⟩] } : Database).withSchema
  remote := ()
  entropy := { word := fun _ => 0 }

/-- Of three pins, one resolves: the first names nothing, and the last two tracks. -/
def twinDefinition : Definition where
  name := "twins"
  features := none
  genres := []
  artists := []
  pins := [⟨"Lost", none, false⟩, ⟨"Solo", none, false⟩, ⟨"Twin", none, true⟩]

/-- The pin that names nothing ends the run, or it is skipped along with the ambiguous one. -/
theorem compile_twinDefinition :
    (compile twinDefinition .fail).outcome twinSession
        = (.error (.unresolvedTrack "twins" "Lost"), twinSession) ∧
      ∃ root after, (compile twinDefinition .skip).outcome twinSession = (.ok root, after) ∧
        after.notices = [.pinSkipped "Lost" "twins" .notFound,
          .pinSkipped "Twin" "twins" .ambiguous] := by
  obtain ⟨-, -, hfail, ⟨root, after, hskip, hnotices, -⟩, -⟩ :=
    compile_policies twinDefinition (s := twinSession) rfl
  obtain ⟨before, pin, rest, hpins, hbefore, hpin, herror⟩ := hfail (by decide)
  refine ⟨?_, root, after, hskip, hnotices.trans (by decide)⟩
  -- the first pin does not resolve, so no pin stands before it
  cases before with
  | nil =>
    obtain rfl : pin = ⟨"Lost", none, false⟩ := (List.cons.inj hpins).1.symm
    exact herror
  | cons p before =>
    obtain rfl : p = ⟨"Lost", none, false⟩ := (List.cons.inj hpins).1.symm
    exact absurd (hbefore _ (List.mem_cons_self ..)) (by decide)

end Policies

end SmartPlaylist
