import SmartPlaylist.Proofs.Session.CallLog
import SmartPlaylist.Proofs.Session.Sample

/-!
# Runs of a service

Between two states of a service lie the calls made to it.  The record of a recorded service is all
of them: each took the service from one state to the next, with the answer that is recorded.  So
what no kind of call in the record changes, nothing has changed.

## Main definitions

* `ServiceCall.Takes`, `PlaylistService.Runs` — one call, and several in a row.
* `PlaylistService.KeepsButReplacing` — what no call changes except one that replaces tracks.
* `Session.warned` — the tracks that were reported for having been played too recently.
* `Session.Follows` — calls were made and tracks reported, and nothing was done to the database.
* `Job.OnlyCalls` — the job does nothing but call the service and say other things.

## Main results

* `PlaylistService.Runs.keeps` — **what every call keeps, a run keeps.**
* `Job.OnlyCalls.call`, `Job.OnlyCalls.bind`, … — jobs that only call, step by step.
-/

namespace SmartPlaylist

variable {σ ε ε' α β : Type} {service : PlaylistService σ}

/-! ### Runs -/

/-- The call takes a service from one state to another and gives this answer. -/
def Gives (c : Call σ α) (answer : Except RemoteError α) (r r' : σ) : Prop :=
  (c r).1.result = answer ∧ (c r).2 = r'

/-- The call takes the service from one state to another, with the answer that is recorded. -/
def ServiceCall.Takes (service : PlaylistService σ) : ServiceCall → σ → σ → Prop
  | .userPlaylists offset limit answer => Gives (service.userPlaylists offset limit) answer
  | .createPlaylist name answer => Gives (service.createPlaylist name) answer
  | .replaceTracks playlistId trackIds answer =>
    Gives (service.replaceTracks playlistId trackIds) answer
  | .recommendations seeds limit answer => Gives (service.recommendations seeds limit) answer

/-- The calls take the service from one state to another, one after the other. -/
inductive PlaylistService.Runs (service : PlaylistService σ) : σ → List ServiceCall → σ → Prop
  | nil (r : σ) : Runs service r [] r
  | cons {call : ServiceCall} {calls : List ServiceCall} {r r' r'' : σ}
    (hcall : call.Takes service r r') (hrest : Runs service r' calls r'') :
    Runs service r (call :: calls) r''

/-- No call breaks the property, except perhaps one that replaces the tracks of a playlist. -/
def PlaylistService.KeepsButReplacing (service : PlaylistService σ) (P : σ → Prop) : Prop :=
  ∀ call : ServiceCall, (∀ id ids answer, call ≠ .replaceTracks id ids answer) →
    ∀ r r', call.Takes service r r' → P r → P r'

namespace PlaylistService.Runs

variable {call : ServiceCall} {calls calls' : List ServiceCall} {r r' r'' : σ}

theorem single (h : call.Takes service r r') : service.Runs r [call] r' := .cons h (.nil r')

theorem eq_of_nil (h : service.Runs r [] r') : r' = r := by
  cases h
  rfl

theorem exists_of_cons (h : service.Runs r (call :: calls) r'') :
    ∃ r', call.Takes service r r' ∧ service.Runs r' calls r'' := by
  cases h with
  | cons hcall hrest => exact ⟨_, hcall, hrest⟩

theorem takes_of_single (h : service.Runs r [call] r') : call.Takes service r r' := by
  obtain ⟨q, hcall, hrest⟩ := h.exists_of_cons
  rw [hrest.eq_of_nil]
  exact hcall

theorem append (h : service.Runs r calls r') (h' : service.Runs r' calls' r'') :
    service.Runs r (calls ++ calls') r'' := by
  induction h with
  | nil _ => exact h'
  | cons hcall _ ih => exact .cons hcall (ih h')

/-- A run of calls goes through a state after any of them. -/
theorem exists_of_append (h : service.Runs r (calls ++ calls') r'') :
    ∃ r', service.Runs r calls r' ∧ service.Runs r' calls' r'' := by
  induction calls generalizing r with
  | nil => exact ⟨r, .nil r, h⟩
  | cons call calls ih =>
    obtain ⟨q, hcall, hrest⟩ := h.exists_of_cons
    obtain ⟨r', hfirst, hlast⟩ := ih hrest
    exact ⟨r', .cons hcall hfirst, hlast⟩

/-- **What every call keeps, a run keeps.** -/
theorem keeps {P : σ → Prop} (h : service.Runs r calls r')
    (hcalls : ∀ call ∈ calls, ∀ q q', call.Takes service q q' → P q → P q') (hP : P r) :
    P r' := by
  induction h with
  | nil _ => exact hP
  | cons hcall _ ih =>
    have hnext := hcalls _ (List.mem_cons_self ..) _ _ hcall hP
    exact ih (fun call hmem => hcalls call (List.mem_cons_of_mem _ hmem)) hnext

/-- Without a replacement, what only replacements break is kept. -/
theorem keepsButReplacing {P : σ → Prop} (h : service.Runs r calls r')
    (hkeeps : service.KeepsButReplacing P)
    (hcalls : ∀ call ∈ calls, ∀ id ids answer, call ≠ .replaceTracks id ids answer) (hP : P r) :
    P r' :=
  h.keeps (fun call hcall => hkeeps call (hcalls call hcall)) hP

end PlaylistService.Runs

/-! ### What a session says about a run -/

/-- The track and the playlist of a report that a track was played too recently. -/
def Notice.recentlyPlayed? : Notice → Option (String × String)
  | .recentlyPlayed trackId playlist => some (trackId, playlist)
  | _ => none

/-- The tracks that were reported for having been played too recently, with the playlists. -/
def Session.warned (s : Session σ) : List (String × String) :=
  s.notices.filterMap Notice.recentlyPlayed?

/-- From one session to another these calls were made and these tracks reported, and the database
stayed as it was. -/
structure Session.Follows (service : PlaylistService σ) (calls : List ServiceCall)
    (reported : List (String × String)) (s t : Session (Recorded σ)) : Prop where
  database_eq : t.database = s.database
  calls_eq : t.remote.calls = s.remote.calls ++ calls
  runs : service.Runs s.remote.remote calls t.remote.remote
  warned_eq : t.warned = s.warned ++ reported

namespace Session.Follows

variable {calls calls' : List ServiceCall} {reported reported' : List (String × String)}
  {s t u : Session (Recorded σ)}

theorem refl (s : Session (Recorded σ)) : s.Follows service [] [] s where
  database_eq := rfl
  calls_eq := (List.append_nil _).symm
  runs := .nil _
  warned_eq := (List.append_nil _).symm

theorem trans (h : s.Follows service calls reported t) (h' : t.Follows service calls' reported' u) :
    s.Follows service (calls ++ calls') (reported ++ reported') u where
  database_eq := h'.database_eq.trans h.database_eq
  calls_eq := by rw [h'.calls_eq, h.calls_eq, List.append_assoc]
  runs := h.runs.append h'.runs
  warned_eq := by rw [h'.warned_eq, h.warned_eq, List.append_assoc]

/-- The calls that were made are those that were recorded. -/
theorem calls_unique (h : s.Follows service calls reported t)
    (hcalls : t.remote.calls = s.remote.calls ++ calls') : calls = calls' :=
  List.append_cancel_left (h.calls_eq.symm.trans hcalls)

/-- What is told beside the calls. -/
theorem of_notices (told : List Notice)
    (htold : told.filterMap Notice.recentlyPlayed? = reported) :
    s.Follows service [] reported { s with notices := s.notices ++ told } where
  database_eq := rfl
  calls_eq := (List.append_nil _).symm
  runs := .nil _
  warned_eq := by rw [warned, List.filterMap_append, htold, ← warned]

theorem of_sameButEntropy (h : Job.SameButEntropy s t) : s.Follows service [] [] t := by
  rw [h]
  exact ⟨rfl, (List.append_nil _).symm, .nil _, (List.append_nil _).symm⟩

/-- A call whose answer is recorded. -/
theorem of_call (entry : Except RemoteError α → ServiceCall) (c : Call σ α)
    (hentry : ∀ answer r r', Gives c answer r r' → (entry answer).Takes service r r')
    (s : Session (Recorded σ)) :
    s.Follows service [entry (c s.remote.remote).1.result] []
      ((Job.call (recordCall entry c)).outcome s).2 where
  database_eq := rfl
  calls_eq := rfl
  runs := .single (hentry _ _ _ ⟨rfl, rfl⟩)
  warned_eq := by
    -- the remarks of a call are no reports
    have hremarks : ((c s.remote.remote).1.notices.map Notice.remote).filterMap
        Notice.recentlyPlayed? = [] := by
      rw [List.filterMap_map, List.filterMap_eq_nil_iff]
      intro n _
      rfl
    show (s.notices ++ (c s.remote.remote).1.notices.map Notice.remote).filterMap _ = _
    rw [List.filterMap_append, hremarks]
    rfl

end Session.Follows

/-! ### Calls -/

section Calls

variable (service : PlaylistService σ) (s : Session (Recorded σ))

theorem exists_userPlaylists (offset limit : Nat) :
    ∃ answer after,
      (Job.call (service.recorded.userPlaylists offset limit)).outcome s = (answer, after) ∧
      s.Follows service [.userPlaylists offset limit answer] [] after :=
  ⟨_, _, rfl, .of_call (.userPlaylists offset limit) _ (fun _ _ _ h => h) s⟩

theorem exists_createPlaylist (name : String) :
    ∃ answer after,
      (Job.call (service.recorded.createPlaylist name)).outcome s = (answer, after) ∧
      s.Follows service [.createPlaylist name answer] [] after :=
  ⟨_, _, rfl, .of_call (.createPlaylist name) _ (fun _ _ _ h => h) s⟩

theorem exists_replaceTracks (playlistId : String) (trackIds : List String) :
    ∃ answer after,
      (Job.call (service.recorded.replaceTracks playlistId trackIds)).outcome s
        = (answer, after) ∧
      s.Follows service [.replaceTracks playlistId trackIds answer] [] after :=
  ⟨_, _, rfl, .of_call (.replaceTracks playlistId trackIds) _ (fun _ _ _ h => h) s⟩

end Calls

/-! ### Jobs that only call -/

/-- The job does nothing but call the service and tell what is no report. -/
def Job.OnlyCalls (service : PlaylistService σ) (j : Job (Recorded σ) ε α) : Prop :=
  ∀ s : Session (Recorded σ), ∃ calls, s.Follows service calls [] (j.outcome s).2

namespace Job.OnlyCalls

variable {j : Job (Recorded σ) ε α} {f : α → Job (Recorded σ) ε β}

theorem pure (x : α) : OnlyCalls service (Pure.pure x : Job (Recorded σ) ε α) :=
  fun s => ⟨[], .refl s⟩

theorem throw (e : ε) : OnlyCalls service (throw e : Job (Recorded σ) ε α) :=
  fun s => ⟨[], .refl s⟩

theorem tell {n : Notice} (h : n.recentlyPlayed? = none) :
    OnlyCalls service (Job.tell n : Job (Recorded σ) ε Unit) := fun _ =>
  ⟨[], .of_notices [n] (by rw [List.filterMap_cons_none h, List.filterMap_nil])⟩

theorem call (entry : Except RemoteError α → ServiceCall) (c : Call σ α)
    (hentry : ∀ answer r r', Gives c answer r r' → (entry answer).Takes service r r') :
    OnlyCalls service (Job.call (recordCall entry c)) :=
  fun s => ⟨_, .of_call entry c hentry s⟩

theorem bind (h : OnlyCalls service j) (hf : ∀ x, OnlyCalls service (f x)) :
    OnlyCalls service (j >>= f) := by
  intro s
  obtain ⟨calls, hfirst⟩ := h s
  rw [outcome_bind]
  rcases hj : j.outcome s with ⟨e | x, mid⟩
  · rw [hj] at hfirst
    exact ⟨calls, hfirst⟩
  · rw [hj] at hfirst
    obtain ⟨calls', hrest⟩ := hf x mid
    exact ⟨calls ++ calls', hfirst.trans hrest⟩

theorem failAs {g : ε → ε'} (h : OnlyCalls service j) : OnlyCalls service (j.failAs g) := by
  intro s
  obtain ⟨calls, hj⟩ := h s
  rw [outcome_failAs]
  rcases hout : j.outcome s with ⟨e | x, after⟩
  · rw [hout] at hj
    exact ⟨calls, hj⟩
  · rw [hout] at hj
    exact ⟨calls, hj⟩

theorem sample (n : Nat) (xs : List α) :
    OnlyCalls service (Job.sample n xs : Job (Recorded σ) ε (List α)) := by
  intro s
  obtain ⟨chosen, after, hsample, -, -, hsame⟩ := exists_sample (ε := ε) n xs s
  rw [hsample]
  exact ⟨[], .of_sameButEntropy hsame⟩

theorem shuffle (xs : List α) :
    OnlyCalls service (Job.shuffle xs : Job (Recorded σ) ε (List α)) := sample xs.length xs

end Job.OnlyCalls

end SmartPlaylist
