import SmartPlaylist.Playlist.Load
import SmartPlaylist.Proofs.Playlist.Sync
import SmartPlaylist.Proofs.Selection.Accounting
import SmartPlaylist.Proofs.Selection.Violations

/-!
# What a run for one playlist does

A run reads the store, asks for recommendations, reads the store again, reports the picks that
should have rested, and syncs.  Each stage may end the run.  The remote account is only touched in
the last stage, so a run that ends before leaves it as it was; and the tracks of a playlist are
only replaced by the very last call.

## Main definitions

* `LoadTrace` — what a run asked of the service.
* `LoadTrace.Stages` — how far a run came, whatever is stored.
* `LoadTrace.Pushes` — what can be said of the tracks that are pushed.
* `LoadTrace.Explains` — what can be said of a run.

## Main results

* `exists_select`, `exists_checked` — the stages up to the selection, and from the check on.
* `exists_stages` — every run goes through these stages.
* `loadPlaylist_explained` — **what a run for one playlist does**, whatever the service answers.
-/

namespace SmartPlaylist

variable {σ : Type} {name : String} {options : SelectionOptions} {now : Moment}

namespace Selection

/-! ### Selections -/

/-- Every track of a filled list was there before or was recommended. -/
theorem mem_filled {target : Nat} {tracks : List String} {requests : List Request} {id : String}
    (h : id ∈ filled target tracks requests) :
    id ∈ tracks ∨ ∃ r ∈ requests, id ∈ r.recommended := by
  induction requests generalizing tracks with
  | nil => exact Or.inl h
  | cons r rest ih =>
    rcases ih h with hmem | ⟨r', hr', hmem⟩
    · rcases List.mem_append.mp hmem with hmem | hmem
      · exact Or.inl hmem
      · exact Or.inr ⟨r, List.mem_cons_self .., List.mem_of_mem_take hmem⟩
    · exact Or.inr ⟨r', List.mem_cons_of_mem _ hr', hmem⟩

theorem onlyCalls_backfill (service : PlaylistService σ) (name : String)
    (options : SelectionOptions) (tracks : List String) (calls : Nat) :
    (backfill service.recorded name options tracks calls).OnlyCalls service := by
  have hrequest : (request service.recorded options tracks).OnlyCalls service :=
    (Job.OnlyCalls.sample _ tracks).bind fun seeds =>
      .call (.recommendations seeds _) _ fun _ _ _ h => h
  rw [backfill]
  split
  · split
    · exact .throw _
    · refine hrequest.failAs.bind fun ids => ?_
      split
      · exact (Job.OnlyCalls.tell rfl).bind fun _ => .pure _
      · exact onlyCalls_backfill service name options _ _
  · exact .pure _
termination_by options.targetSize - tracks.length
decreasing_by exact shortfall_append_lt ‹_› ‹_›

theorem onlyCalls_select (service : PlaylistService σ) (name : String)
    (eligible : List RootTrack) (options : SelectionOptions) :
    (select service.recorded name eligible options).OnlyCalls service := by
  rw [select]
  split
  · exact .throw _
  · refine (Job.OnlyCalls.sample _ eligible).bind fun sampled => ?_
    refine (onlyCalls_backfill service name options _ 0).bind fun _ => ?_
    exact (Job.OnlyCalls.shuffle _).bind fun _ => .pure _

/-- The tracks of a selection, and the requests made for it. -/
structure Fulfils (requests : List Request) (eligible : List RootTrack)
    (options : SelectionOptions) (tracks : List String) : Prop where
  answered : ∀ r ∈ requests, ∃ ids, r.answer = .ok ids
  length_le : tracks.length ≤ options.targetSize
  source : ∀ id ∈ tracks, (∃ t ∈ eligible, t.trackId = id) ∨ ∃ r ∈ requests, id ∈ r.recommended

theorem Account.Explains.fulfils {a : Account} {eligible : List RootTrack} {selection : Selection}
    (h : a.Explains name eligible options (.ok selection)) :
    Fulfils a.requests eligible options selection.tracks := by
  obtain ⟨hanswered, hcovers⟩ := h.covers_of_ok
  refine ⟨hanswered, hcovers.length_tracks_le, fun id hid => ?_⟩
  rcases mem_filled (hcovers.tracks_perm.mem_iff.mp hid) with hpicked | hrecommended
  · exact Or.inl (List.mem_map.mp (h.picked_subperm.subset hpicked))
  · exact Or.inr hrecommended

end Selection

open Selection

/-- Selecting calls nothing but recommendations, whatever the options are. -/
theorem exists_select (service : PlaylistService σ) (name : String) (eligible : List RootTrack)
    (options : SelectionOptions) (s : Session (Recorded σ)) :
    ∃ (result : Except SelectionError Selection) (requests : List Request)
      (after : Session (Recorded σ)),
      (select service.recorded name eligible options).outcome s = (result, after) ∧
      s.Follows service (requests.map Request.call) [] after ∧
      ∀ selection, result = .ok selection →
        Fulfils requests eligible options selection.tracks := by
  by_cases hroom : options.backfillCount < options.targetSize
  · obtain ⟨a, result, after, houtcome, hcalls, hexplains⟩ :=
      exists_account service name eligible options s hroom
    obtain ⟨calls, hfollows⟩ := onlyCalls_select service name eligible options s
    rw [houtcome] at hfollows
    obtain rfl : calls = a.requests.map Request.call := hfollows.calls_unique hcalls
    refine ⟨result, a.requests, after, houtcome, hfollows, ?_⟩
    rintro selection rfl
    exact hexplains.fulfils
  · -- the options are refused before anything is asked for
    refine ⟨.error (.invalidTarget options.targetSize options.backfillCount), [], s, ?_, .refl s,
      fun _ h => absurd h (by simp)⟩
    rw [select, if_pos (Nat.le_of_not_lt hroom)]
    rfl

/-! ### Runs -/

/-- What a run for one playlist asked of the service: the recommendations, and the tracks that were
selected with what was asked in order to sync them, unless the run ended before. -/
structure LoadTrace where
  requests : List Request
  sync : Option (List String × SyncTrace)

/-- The requests as they are recorded. -/
def LoadTrace.calls (t : LoadTrace) (name : String) : List ServiceCall :=
  t.requests.map Request.call ++
    match t.sync with
    | some (tracks, sync) => sync.calls name tracks
    | none => []

/-- How far a run for one playlist came, whatever is stored. -/
structure LoadTrace.Stages (t : LoadTrace) (name : String) (options : SelectionOptions)
    (now : Moment) (db : Database) (reported : List (String × String))
    (result : Except RunError SyncOutcome) : Prop where
  /-- There is no sync where reading the store or selecting failed. -/
  sync_eq_none_iff : t.sync = none ↔
    (∃ e, result = .error (.store e)) ∨ ∃ e, result = .error (.selection e)
  /-- Otherwise the tracks were selected from what is stored, and checked. -/
  of_checked : ∀ tracks sync, t.sync = some (tracks, sync) → ∃ eligible violations,
    (Store.eligibleTracks name now).outcome db = (.ok eligible, db) ∧
      Fulfils t.requests eligible options tracks ∧
      (Store.rotationViolations name tracks now).outcome db = (.ok violations, db) ∧
      reported = violations.map (·, name)
  /-- The run then comes to what the sync comes to. -/
  of_sync : ∀ tracks sync, t.sync = some (tracks, sync) →
    ∃ outcome, sync.Explains name tracks outcome ∧ result = outcome.mapError .remote
  reported_of_none : t.sync = none → reported = []

/-- What can be said of tracks that are pushed, and of the reports about them. -/
structure LoadTrace.Pushes (t : LoadTrace) (name : String) (options : SelectionOptions)
    (now : Moment) (db : Database) (tracks : List String) (reported : List (String × String)) :
    Prop where
  /-- The stored set could be read, and the tracks come from it or were recommended. -/
  exists_eligible : ∃ eligible,
    (Store.eligibleTracks name now).outcome db = (.ok eligible, db) ∧
      Fulfils t.requests eligible options tracks
  /-- The last plays could be read, and the tracks that should have rested were reported, each of
  which was recommended. -/
  exists_history : ∃ history, Store.lastPlayed.outcome db = (.ok history, db) ∧
    reported = (tracks.filter fun id =>
      Store.Rests (db.rootPlaylists.getD []) history name now id).map (·, name) ∧
    ∀ id ∈ tracks, Store.Rests (db.rootPlaylists.getD []) history name now id →
      ∃ r ∈ t.requests, id ∈ r.recommended

/-- What can be said of a run for one playlist. -/
structure LoadTrace.Explains (t : LoadTrace) (name : String) (options : SelectionOptions)
    (now : Moment) (db : Database) (reported : List (String × String))
    (result : Except RunError SyncOutcome) : Prop where
  /-- There is no sync where reading the store or selecting failed. -/
  sync_eq_none_iff : t.sync = none ↔
    (∃ e, result = .error (.store e)) ∨ ∃ e, result = .error (.selection e)
  /-- Otherwise the run comes to what the sync comes to. -/
  of_sync : ∀ tracks sync, t.sync = some (tracks, sync) →
    t.Pushes name options now db tracks reported ∧
      ∃ outcome, sync.Explains name tracks outcome ∧ result = outcome.mapError .remote
  reported_of_none : t.sync = none → reported = []

namespace LoadTrace

variable {db : Database} {requests : List Request} {reported : List (String × String)}

/-- A run that ended before the sync. -/
theorem stages_of_failed {e : RunError} (he : ∀ e', e ≠ .remote e') :
    (⟨requests, none⟩ : LoadTrace).Stages name options now db [] (.error e) where
  sync_eq_none_iff := by
    refine iff_of_true rfl ?_
    cases e with
    | store e => exact Or.inl ⟨e, rfl⟩
    | selection e => exact Or.inr ⟨e, rfl⟩
    | remote e => exact absurd rfl (he e)
  of_checked _ _ h := absurd h (by simp)
  of_sync _ _ h := absurd h (by simp)
  reported_of_none _ := rfl

/-- A run that came to the sync. -/
theorem stages_of_sync {eligible : List RootTrack} {tracks violations : List String}
    {sync : SyncTrace} {outcome : Except RemoteError SyncOutcome}
    (heligible : (Store.eligibleTracks name now).outcome db = (.ok eligible, db))
    (hfulfils : Fulfils requests eligible options tracks)
    (hviolations : (Store.rotationViolations name tracks now).outcome db = (.ok violations, db))
    (hsync : sync.Explains name tracks outcome) :
    (⟨requests, some (tracks, sync)⟩ : LoadTrace).Stages name options now db
      (violations.map (·, name)) (outcome.mapError .remote) where
  sync_eq_none_iff := by
    refine iff_of_false (by simp) ?_
    cases outcome with
    | error e => simp [Except.mapError]
    | ok outcome => simp [Except.mapError]
  of_checked tracks' sync' h := by
    obtain ⟨rfl, -⟩ := Prod.mk.inj (Option.some.inj h)
    exact ⟨eligible, violations, heligible, hfulfils, hviolations, rfl⟩
  of_sync tracks' sync' h := by
    obtain ⟨rfl, rfl⟩ := Prod.mk.inj (Option.some.inj h)
    exact ⟨outcome, hsync, rfl⟩
  reported_of_none h := absurd h (by simp)

/-- What is pushed once it was checked. -/
theorem pushes_of_checked {t : LoadTrace} {eligible : List RootTrack}
    {tracks violations : List String} (hkey : Store.RootsKeyed (db.rootPlaylists.getD []))
    (heligible : (Store.eligibleTracks name now).outcome db = (.ok eligible, db))
    (hfulfils : Fulfils t.requests eligible options tracks)
    (hviolations : (Store.rotationViolations name tracks now).outcome db = (.ok violations, db)) :
    t.Pushes name options now db tracks (violations.map (·, name)) := by
  obtain ⟨history, hhistory, rfl⟩ := Store.rotationViolations_spec hkey hviolations
  refine ⟨⟨eligible, heligible, hfulfils⟩, history, hhistory, rfl, fun id hid hrests => ?_⟩
  rcases hfulfils.source id hid with ⟨c, hc, hcid⟩ | hrecommended
  · exact absurd hcid (Store.not_eligible_of_rests hkey heligible hhistory hrests c hc)
  · exact hrecommended

/-- Where no candidate is stored twice, the stages say what was pushed and reported. -/
theorem Stages.explains {t : LoadTrace} {result : Except RunError SyncOutcome}
    (h : t.Stages name options now db reported result)
    (hkey : Store.RootsKeyed (db.rootPlaylists.getD [])) :
    t.Explains name options now db reported result where
  sync_eq_none_iff := h.sync_eq_none_iff
  of_sync tracks sync hsome := by
    obtain ⟨eligible, violations, heligible, hfulfils, hviolations, rfl⟩ :=
      h.of_checked tracks sync hsome
    exact ⟨pushes_of_checked hkey heligible hfulfils hviolations, h.of_sync tracks sync hsome⟩
  reported_of_none := h.reported_of_none

end LoadTrace

/-- What is left to do once the tracks are selected. -/
def checkAndSync (service : PlaylistService σ) (name : String) (tracks : List String)
    (now : Moment) : Job σ RunError SyncOutcome := do
  let violations ← (Job.store (Store.rotationViolations name tracks now)).failAs .store
  violations.forM fun id => Job.tell (.recentlyPlayed id name)
  (syncPlaylist service name tracks).failAs .remote

/-- Either the check ends the run, or what was checked is reported and synced. -/
theorem exists_checkAndSync (service : PlaylistService σ) (name : String) (tracks : List String)
    (now : Moment) (s : Session (Recorded σ)) :
    ∃ (result : Except RunError SyncOutcome) (after : Session (Recorded σ)),
      (checkAndSync service.recorded name tracks now).outcome s = (result, after) ∧
      ((∃ e, result = .error (.store e) ∧ after = s) ∨
        ∃ (violations : List String) (sync : SyncTrace) (outcome : Except RemoteError SyncOutcome),
          (Store.rotationViolations name tracks now).outcome s.database
            = (.ok violations, s.database) ∧
          sync.Explains name tracks outcome ∧ result = outcome.mapError .remote ∧
          s.Follows service (sync.calls name tracks) (violations.map (·, name)) after) := by
  have hread : ((Job.store (Store.rotationViolations name tracks now)).failAs
      RunError.store).outcome s = (((Store.rotationViolations name tracks now).outcome
        s.database).1.mapError .store, s) := by
    rw [Job.outcome_failAs_eq_mapError,
      Job.outcome_store_of_keeps (fun _ => Store.keeps_rotationViolations name tracks now)]
  have hkept := Store.Keeps.database_eq
    (fun _ => Store.keeps_rotationViolations name tracks now) s.database
  unfold checkAndSync
  rcases hviolations : (Store.rotationViolations name tracks now).outcome s.database
    with ⟨e | violations, db⟩
  · rw [hviolations] at hread
    exact ⟨_, s, Job.outcome_bind_of_error hread, Or.inl ⟨e, rfl, rfl⟩⟩
  · rw [hviolations] at hread hkept
    obtain rfl : db = s.database := hkept
    -- the reports, and then the sync
    have htell := Job.outcome_forM_tell (ε := RunError) (fun id => .recentlyPlayed id name)
      violations s
    have htold : s.Follows service [] (violations.map (·, name)) { s with
        notices := s.notices ++ violations.map fun id => Notice.recentlyPlayed id name } := by
      refine .of_notices _ ?_
      rw [List.filterMap_map]
      exact congrFun List.filterMap_eq_map violations
    obtain ⟨outcome, sync, after, hsyncing, hsync, hcalls⟩ := exists_syncing service name tracks
      { s with notices := s.notices ++ violations.map fun id => .recentlyPlayed id name }
    refine ⟨outcome.mapError .remote, after, ?_, Or.inr ⟨violations, sync, outcome, rfl,
      hsyncing.explains, rfl, ?_⟩⟩
    · rw [Job.outcome_bind_of_ok hread, Job.outcome_bind_of_ok htell,
        Job.outcome_failAs_eq_mapError, hsync]
    · have hboth := htold.trans hcalls
      rw [List.nil_append, List.append_nil] at hboth
      exact hboth

/-- The stages from the check on complete the trace of a run. -/
theorem exists_checked (service : PlaylistService σ) {requests : List Request}
    {eligible : List RootTrack} {tracks : List String} {s u : Session (Recorded σ)}
    (heligible : (Store.eligibleTracks name now).outcome s.database = (.ok eligible, s.database))
    (hfulfils : Fulfils requests eligible options tracks)
    (hfollows : s.Follows service (requests.map Request.call) [] u) :
    ∃ (t : LoadTrace) (reported : List (String × String)) (result : Except RunError SyncOutcome)
      (after : Session (Recorded σ)),
      (checkAndSync service.recorded name tracks now).outcome u = (result, after) ∧
      s.Follows service (t.calls name) reported after ∧
      t.Stages name options now s.database reported result := by
  obtain ⟨result, after, houtcome, ⟨e, rfl, rfl⟩ | ⟨violations, sync, outcome, hviolations,
    hexplains, rfl, hsync⟩⟩ := exists_checkAndSync service name tracks now u
  · refine ⟨⟨requests, none⟩, [], _, _, houtcome, ?_, LoadTrace.stages_of_failed (by simp)⟩
    rw [← List.append_nil (requests.map Request.call)] at hfollows
    exact hfollows
  · rw [hfollows.database_eq] at hviolations
    exact ⟨⟨requests, some (tracks, sync)⟩, _, _, after, houtcome, hfollows.trans hsync,
      LoadTrace.stages_of_sync heligible hfulfils hviolations hexplains⟩

/-- **Every run on a recorded service goes through these stages**, recorded call by call. -/
theorem exists_stages (service : PlaylistService σ) (name : String) (options : SelectionOptions)
    (now : Moment) (s : Session (Recorded σ)) :
    ∃ (t : LoadTrace) (reported : List (String × String)) (result : Except RunError SyncOutcome)
      (after : Session (Recorded σ)),
      (loadPlaylist service.recorded name options now).outcome s = (result, after) ∧
      s.Follows service (t.calls name) reported after ∧
      t.Stages name options now s.database reported result := by
  have hread : ((Job.store (Store.eligibleTracks name now)).failAs RunError.store).outcome s
      = (((Store.eligibleTracks name now).outcome s.database).1.mapError .store, s) := by
    rw [Job.outcome_failAs_eq_mapError,
      Job.outcome_store_of_keeps (fun _ => Store.keeps_eligibleTracks name now)]
  have hkept := Store.Keeps.database_eq (fun _ => Store.keeps_eligibleTracks name now) s.database
  unfold loadPlaylist
  rcases heligible : (Store.eligibleTracks name now).outcome s.database with ⟨e | eligible, db⟩
  · rw [heligible] at hread
    exact ⟨⟨[], none⟩, [], _, s, Job.outcome_bind_of_error hread, .refl s,
      LoadTrace.stages_of_failed (by simp)⟩
  · rw [heligible] at hread hkept
    obtain rfl : db = s.database := hkept
    -- the count is told, and the selection is made
    have htold : s.Follows service [] []
        { s with notices := s.notices ++ [.eligibleCount name eligible.length] } :=
      .of_notices _ rfl
    obtain ⟨selected, requests, mid, hselect, hcalls, hfulfils⟩ := exists_select service name
      eligible options { s with notices := s.notices ++ [.eligibleCount name eligible.length] }
    have hmid := htold.trans hcalls
    have hselecting : ((select service.recorded name eligible options).failAs
        RunError.selection).outcome { s with
          notices := s.notices ++ [.eligibleCount name eligible.length] }
          = (selected.mapError .selection, mid) := by
      rw [Job.outcome_failAs_eq_mapError, hselect]
    rw [Job.outcome_bind_of_ok hread, Job.outcome_bind_of_ok (Job.outcome_tell _ s)]
    cases selected with
    | error e =>
      refine ⟨⟨requests, none⟩, [], _, mid, Job.outcome_bind_of_error hselecting, ?_,
        LoadTrace.stages_of_failed (by simp)⟩
      rw [← List.append_nil (requests.map Request.call)] at hmid
      exact hmid
    | ok selection =>
      -- whether or not the selection is short, the rest goes on from the same database
      have hpushed := hfulfils selection rfl
      rw [Job.outcome_bind_of_ok hselecting]
      by_cases hshort : selection.isShort options.targetSize = true
      · have hshort' : mid.Follows service [] [] { mid with notices := mid.notices ++
            [.shortSelection name selection.tracks.length options.targetSize] } :=
          .of_notices _ rfl
        have htold' := hmid.trans hshort'
        rw [List.append_nil] at htold'
        obtain ⟨t, reported, result, after, houtcome, hfollows, hstages⟩ :=
          exists_checked service heligible hpushed htold'
        refine ⟨t, reported, result, after, ?_, hfollows, hstages⟩
        rw [if_pos hshort, ← houtcome]
        exact Job.outcome_bind_of_ok (Job.outcome_tell _ mid)
      · obtain ⟨t, reported, result, after, houtcome, hfollows, hstages⟩ :=
          exists_checked service heligible hpushed hmid
        refine ⟨t, reported, result, after, ?_, hfollows, hstages⟩
        rw [if_neg hshort, ← houtcome]
        rfl

/-- **A run on a recorded service is explained by its trace.** -/
theorem exists_load (service : PlaylistService σ) (name : String) (options : SelectionOptions)
    (now : Moment) (s : Session (Recorded σ))
    (hkey : Store.RootsKeyed (s.database.rootPlaylists.getD [])) :
    ∃ (t : LoadTrace) (reported : List (String × String)) (result : Except RunError SyncOutcome)
      (after : Session (Recorded σ)),
      (loadPlaylist service.recorded name options now).outcome s = (result, after) ∧
      s.Follows service (t.calls name) reported after ∧
      t.Explains name options now s.database reported result := by
  obtain ⟨t, reported, result, after, houtcome, hfollows, hstages⟩ :=
    exists_stages service name options now s
  exact ⟨t, reported, result, after, houtcome, hfollows, hstages.explains hkey⟩

theorem mirrors_loadPlaylist (service : PlaylistService σ) (name : String)
    (options : SelectionOptions) (now : Moment) :
    (loadPlaylist service.recorded name options now).Mirrors
      (loadPlaylist service name options now) := by
  have hcheck : ∀ tracks, (checkAndSync service.recorded name tracks now).Mirrors
      (checkAndSync service name tracks now) := fun tracks => by
    refine (Job.Mirrors.store _).failAs.bind fun violations => ?_
    exact (Job.Mirrors.forM_tell _ violations).bind fun _ =>
      (mirrors_syncPlaylist service name tracks).failAs
  refine (Job.Mirrors.store _).failAs.bind fun eligible => (Job.Mirrors.tell _).bind fun _ => ?_
  refine (mirrors_select service name eligible options).failAs.bind fun selection => ?_
  dsimp only
  split
  · exact (Job.Mirrors.tell _).bind fun _ => hcheck selection.tracks
  · exact hcheck selection.tracks

/-! ### Safety -/

theorem LoadTrace.mem_calls {t : LoadTrace} {call : ServiceCall} : call ∈ t.calls name ↔
    (∃ r ∈ t.requests, r.call = call) ∨
      ∃ tracks sync, t.sync = some (tracks, sync) ∧ call ∈ sync.calls name tracks := by
  rw [calls, List.mem_append, List.mem_map]
  cases t.sync with
  | none => simp
  | some pushed => simp [Prod.ext_iff, and_assoc]

/-- Only the last call of a sync asks for a replacement. -/
theorem LoadTrace.replaceTracks_mem_calls {t : LoadTrace} {id : String} {ids : List String}
    {answer : Except RemoteError Unit} : .replaceTracks id ids answer ∈ t.calls name ↔
      ∃ sync, t.sync = some (ids, sync) ∧ sync.replacement = some (id, answer) := by
  rw [mem_calls]
  constructor
  · rintro (⟨r, -, hr⟩ | ⟨tracks, sync, hsome, hcall⟩)
    · exact absurd hr (by simp [Request.call])
    · rcases SyncTrace.mem_calls.mp hcall with ⟨p, -, hp⟩ | ⟨answer', -, hcreate⟩ |
        ⟨id', answer', hreplacement, heq⟩
      · exact absurd hp (by simp [PageRequest.call])
      · exact absurd hcreate (by simp)
      · obtain ⟨rfl, rfl, rfl⟩ := ServiceCall.replaceTracks.inj heq
        exact ⟨sync, hsome, hreplacement⟩
  · rintro ⟨sync, hsome, hreplacement⟩
    refine Or.inr ⟨ids, sync, hsome, ?_⟩
    exact SyncTrace.mem_calls.mpr (Or.inr (Or.inr ⟨id, answer, hreplacement, rfl⟩))

theorem LoadTrace.ne_replaceTracks {t : LoadTrace}
    (hreplacement : ∀ tracks sync, t.sync = some (tracks, sync) → sync.replacement = none) :
    ∀ call ∈ t.calls name, ∀ id ids answer, call ≠ .replaceTracks id ids answer := by
  rintro call hcall id ids answer rfl
  obtain ⟨sync, hsome, hsync⟩ := replaceTracks_mem_calls.mp hcall
  rw [hreplacement ids sync hsome] at hsync
  exact absurd hsync (by simp)

/-- **What a run for one playlist does**, whatever the service answers and the random numbers are.
The database stays as it was.  The calls are recommendations, then pages of the listing, then at
most one creation, then at most one replacement, and the trace explains which of them were made,
what was pushed and what was reported.  Before the replacement, nothing is lost that only a
replacement changes. -/
theorem loadPlaylist_explained (service : PlaylistService σ) (name : String)
    (options : SelectionOptions) (now : Moment) (s : Session σ)
    (hkey : Store.RootsKeyed (s.database.rootPlaylists.getD [])) :
    ∃ (t : LoadTrace) (reported : List (String × String)) (result : Except RunError SyncOutcome)
      (after : Session (Recorded σ)),
      (loadPlaylist service name options now).outcome s = (result, after.forget) ∧
      (loadPlaylist service.recorded name options now).outcome s.recording = (result, after) ∧
      after.database = s.database ∧
      after.remote.calls = t.calls name ∧
      after.warned = s.warned ++ reported ∧
      t.Explains name options now s.database reported result ∧
      ((∀ tracks sync, t.sync = some (tracks, sync) → sync.replacement = none) →
        ∀ P : σ → Prop, service.KeepsButReplacing P → P s.remote → P after.forget.remote) := by
  obtain ⟨t, reported, result, after, houtcome, hfollows, hexplains⟩ :=
    exists_load service name options now s.recording hkey
  have hmirror := mirrors_loadPlaylist service name options now s.recording
  rw [Session.forget_recording, houtcome] at hmirror
  refine ⟨t, reported, result, after, hmirror, houtcome, hfollows.database_eq, hfollows.calls_eq,
    hfollows.warned_eq, hexplains, fun hreplacement P hkeeps hP => ?_⟩
  exact hfollows.runs.keepsButReplacing hkeeps (LoadTrace.ne_replaceTracks hreplacement) hP

/-- A session in which a track that was played six days ago will be recommended. -/
def replayedSession : Session (List (Except RemoteError (List String))) where
  database := {
    rootPlaylists := some [⟨"mix", "a", true⟩]
    playHistory := some [⟨"b", "1970-01-11 00:00:00"⟩] }
  remote := [.ok ["b"]]
  entropy := { word := fun n => n }

/-- The recommended track is pushed, and reported. -/
theorem explains_replayedTrack :
    ∃ t : LoadTrace, t.Explains "mix" { targetSize := 2, backfillCount := 1 } (Store.midnight 16)
      replayedSession.database [("b", "mix")] (.ok ⟨"mix", true, 2⟩) := by
  obtain ⟨t, reported, result, after, houtcome, -, -, -, hwarned, hexplains, -⟩ :=
    loadPlaylist_explained scriptedService "mix" { targetSize := 2, backfillCount := 1 }
      (Store.midnight 16) replayedSession (List.pairwise_singleton _ _)
  have hrun : ((loadPlaylist scriptedService "mix" { targetSize := 2, backfillCount := 1 }
      (Store.midnight 16)).outcome replayedSession).1 = .ok ⟨"mix", true, 2⟩ := by decide +kernel
  have htold : ((loadPlaylist scriptedService "mix" { targetSize := 2, backfillCount := 1 }
      (Store.midnight 16)).outcome replayedSession).2.warned = [("b", "mix")] := by decide +kernel
  rw [houtcome] at hrun htold
  obtain rfl : result = .ok ⟨"mix", true, 2⟩ := hrun
  obtain rfl : reported = [("b", "mix")] := hwarned.symm.trans htold
  exact ⟨t, hexplains⟩

end SmartPlaylist
