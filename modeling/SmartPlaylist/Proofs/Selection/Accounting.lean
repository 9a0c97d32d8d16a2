import SmartPlaylist.Proofs.List.InOrder
import SmartPlaylist.Proofs.Session.CallLog
import SmartPlaylist.Proofs.Session.Sample
import SmartPlaylist.Selection.Basic

/-!
# What a selection is made of

A selection starts with some of the eligible tracks and is filled up by requests for
recommendations.  Which requests are made depends on the answers to those before, and a service may
answer anything.  Still every request either ends the filling or leaves fewer empty places than
before, so there are no more requests than empty places; and no answer is used beyond the empty
places, so the list never grows too long.

The requests are read off the record of a recorded service, on which a selection comes to what it
comes to on the service itself.

## Main definitions

* `Request` — a request with its answer; `Request.Fits` says what it asks for.
* `filled` — a list after some requests.
* `Filling` — the ways in which a list is filled up, request by request.
* `Account`, `Account.Explains` — what was picked and asked for, and what selecting comes to.

## Main results

* `exists_backfill` — **every run of the loop is such a filling.**
* `Filling.length_le`, `Filling.eq_filled`, `Filling.short_iff` — what all fillings have in common.
* `select_accounting` — **what a selection is made of**, whatever the service answers.
-/

namespace SmartPlaylist.Selection

/-! ### Requests -/

/-- A request for recommendations with its answer. -/
structure Request where
  seeds : List String
  limit : Nat
  answer : Except RemoteError (List String)

namespace Request

/-- The request as it is recorded. -/
def call (r : Request) : ServiceCall := .recommendations r.seeds r.limit r.answer

/-- What the answer offers; a failure offers nothing. -/
def recommended (r : Request) : List String := r.answer.toOption.getD []

/-- The request suits a list: it asks for the places still empty, up to the most that a request may
ask for, and starts from tracks at distinct positions of the list, as many as it may start from. -/
structure Fits (r : Request) (options : SelectionOptions) (tracks : List String) : Prop where
  limit_eq : r.limit = min (options.targetSize - tracks.length) options.maxRecommendationsPerCall
  seeds_subperm : r.seeds.Subperm tracks
  length_seeds : r.seeds.length = min options.maxSeedTracks tracks.length

end Request

/-- A list after some requests, whose answers are cut to the places still empty. -/
def filled (target : Nat) (tracks : List String) (requests : List Request) : List String :=
  requests.foldl (fun tracks r => tracks ++ r.recommended.take (target - tracks.length)) tracks

/-! ### Fillings -/

/-- The ways in which a list is filled up: the requests that are made from a list on, and the list
or the failure in the end. -/
inductive Filling (options : SelectionOptions) :
    List String → List Request → Except RemoteError (List String) → Prop
  /-- No place is empty. -/
  | full {tracks : List String} (h : options.targetSize ≤ tracks.length) :
    Filling options tracks [] (.ok tracks)
  /-- The request fails. -/
  | failed {tracks : List String} {r : Request} {e : RemoteError}
    (hroom : tracks.length < options.targetSize) (hfits : r.Fits options tracks)
    (hanswer : r.answer = .error e) : Filling options tracks [r] (.error e)
  /-- Nothing is recommended. -/
  | exhausted {tracks : List String} {r : Request} (hroom : tracks.length < options.targetSize)
    (hfits : r.Fits options tracks) (hanswer : r.answer = .ok []) :
    Filling options tracks [r] (.ok tracks)
  /-- Something is recommended, and the filling goes on. -/
  | more {tracks ids : List String} {r : Request} {rest : List Request}
    {result : Except RemoteError (List String)} (hroom : tracks.length < options.targetSize)
    (hfits : r.Fits options tracks) (hanswer : r.answer = .ok ids) (hids : ids ≠ [])
    (hrest : Filling options (tracks ++ ids.take (options.targetSize - tracks.length)) rest
      result) : Filling options tracks (r :: rest) result

section Filling

variable {options : SelectionOptions} {tracks final : List String} {requests : List Request}
  {result : Except RemoteError (List String)}

/-- There are no more requests than empty places. -/
theorem Filling.length_le (h : Filling options tracks requests result) :
    requests.length ≤ options.targetSize - tracks.length := by
  induction h with
  | full h => exact Nat.zero_le _
  | failed hroom _ _ =>
    rw [List.length_singleton]
    omega
  | exhausted hroom _ _ =>
    rw [List.length_singleton]
    omega
  | @more tracks ids _ _ _ hroom _ _ hids _ ih =>
    -- a request that does not end the filling fills a place
    have hpos : 0 < ids.length := List.length_pos_iff.mpr hids
    rw [List.length_append, List.length_take] at ih
    rw [List.length_cons]
    omega

/-- Every request suits the list at its time. -/
theorem Filling.fits (h : Filling options tracks requests result) {before after : List Request}
    {r : Request} (hr : requests = before ++ r :: after) :
    r.Fits options (filled options.targetSize tracks before) := by
  induction h generalizing before with
  | full h => simp at hr
  | failed _ hfits _ =>
    obtain ⟨rfl, rfl, -⟩ := eq_of_singleton_eq_append hr
    exact hfits
  | exhausted _ hfits _ =>
    obtain ⟨rfl, rfl, -⟩ := eq_of_singleton_eq_append hr
    exact hfits
  | @more tracks ids q _ _ _ hfits hanswer _ _ ih =>
    cases before with
    | nil =>
      obtain ⟨rfl, -⟩ := List.cons.inj hr
      exact hfits
    | cons p before =>
      obtain ⟨rfl, hrest⟩ := List.cons.inj hr
      have hids : q.recommended = ids := by rw [Request.recommended, hanswer]; rfl
      rw [← hids] at ih
      exact ih hrest

/-- The final list is the first one with all answers. -/
theorem Filling.eq_filled (h : Filling options tracks requests (.ok final)) :
    final = filled options.targetSize tracks requests := by
  generalize hresult : Except.ok final = result at h
  induction h with
  | full _ => exact Except.ok.inj hresult
  | failed _ _ _ => exact absurd hresult (by simp)
  | @exhausted tracks r _ _ hanswer =>
    have hids : r.recommended = [] := by rw [Request.recommended, hanswer]; rfl
    rw [Except.ok.inj hresult, filled, List.foldl_cons, hids, List.take_nil, List.append_nil]
    rfl
  | @more tracks ids r _ _ _ _ hanswer _ _ ih =>
    have hids : r.recommended = ids := by rw [Request.recommended, hanswer]; rfl
    rw [filled, List.foldl_cons, hids]
    exact ih hresult

/-- A failed request is what the filling comes to. -/
theorem Filling.eq_error (h : Filling options tracks requests result) {r : Request}
    {e : RemoteError} (hr : r ∈ requests) (he : r.answer = .error e) : result = .error e := by
  induction h with
  | full _ => exact absurd hr (List.not_mem_nil)
  | failed _ _ hanswer =>
    obtain rfl := List.mem_singleton.mp hr
    rw [← hanswer, he]
  | exhausted _ _ hanswer =>
    obtain rfl := List.mem_singleton.mp hr
    rw [he] at hanswer
    exact absurd hanswer (by simp)
  | more _ _ hanswer _ _ ih =>
    rcases List.mem_cons.mp hr with rfl | hr
    · rw [he] at hanswer
      exact absurd hanswer (by simp)
    · exact ih hr

/-- Every request but the last is answered with something. -/
theorem Filling.answered (h : Filling options tracks requests result)
    {before after : List Request} {r : Request} (hr : requests = before ++ r :: after)
    (hafter : after ≠ []) : ∃ ids, r.answer = .ok ids ∧ ids ≠ [] := by
  induction h generalizing before with
  | full _ => simp at hr
  | failed _ _ _ =>
    obtain ⟨-, -, rfl⟩ := eq_of_singleton_eq_append hr
    exact absurd rfl hafter
  | exhausted _ _ _ =>
    obtain ⟨-, -, rfl⟩ := eq_of_singleton_eq_append hr
    exact absurd rfl hafter
  | @more _ ids _ _ _ _ _ hanswer hids _ ih =>
    cases before with
    | nil =>
      obtain ⟨rfl, -⟩ := List.cons.inj hr
      exact ⟨ids, hanswer, hids⟩
    | cons p before => exact ih (List.cons.inj hr).2

/-- Where no request fails, neither does the filling. -/
theorem Filling.exists_ok (h : Filling options tracks requests result)
    (hok : ∀ r ∈ requests, ∃ ids, r.answer = .ok ids) : ∃ final, result = .ok final := by
  induction h with
  | full _ => exact ⟨_, rfl⟩
  | failed _ _ hanswer =>
    obtain ⟨ids, hids⟩ := hok _ (List.mem_cons_self ..)
    rw [hanswer] at hids
    exact absurd hids (by simp)
  | exhausted _ _ _ => exact ⟨_, rfl⟩
  | more _ _ _ _ _ ih => exact ih fun r hr => hok r (List.mem_cons_of_mem _ hr)

/-- Nothing is lost from the list, and it does not grow beyond the size wanted. -/
theorem Filling.length_le_length (h : Filling options tracks requests (.ok final))
    (hlen : tracks.length ≤ options.targetSize) :
    tracks.length ≤ final.length ∧ final.length ≤ options.targetSize := by
  generalize hresult : Except.ok final = result at h
  induction h with
  | full _ =>
    rw [Except.ok.inj hresult]
    exact ⟨Nat.le_refl _, hlen⟩
  | failed _ _ _ => exact absurd hresult (by simp)
  | exhausted _ _ _ =>
    rw [Except.ok.inj hresult]
    exact ⟨Nat.le_refl _, hlen⟩
  | @more tracks ids _ _ _ _ _ _ _ _ ih =>
    -- the answer is cut to the empty places
    have hnext : (tracks ++ ids.take (options.targetSize - tracks.length)).length
        ≤ options.targetSize := by
      rw [List.length_append, List.length_take]
      omega
    obtain ⟨hge, hle⟩ := ih hnext hresult
    rw [List.length_append] at hge
    exact ⟨by omega, hle⟩

/-- The list stays short when nothing was recommended in the end. -/
theorem Filling.short_iff (h : Filling options tracks requests (.ok final)) :
    final.length < options.targetSize ↔
      ∃ r, requests.getLast? = some r ∧ r.answer = .ok [] := by
  generalize hresult : Except.ok final = result at h
  induction h with
  | full h =>
    rw [Except.ok.inj hresult]
    simpa using h
  | failed _ _ _ => exact absurd hresult (by simp)
  | exhausted hroom _ hanswer =>
    rw [Except.ok.inj hresult]
    exact iff_of_true hroom ⟨_, rfl, hanswer⟩
  | @more tracks ids r rest result _ _ hanswer hids _ ih =>
    rw [ih hresult]
    cases rest with
    | nil =>
      -- the only request was answered with something
      refine iff_of_false (by simp) ?_
      rintro ⟨r', hlast, hempty⟩
      obtain rfl : r = r' := Option.some.inj hlast
      rw [hanswer] at hempty
      exact hids (Except.ok.inj hempty)
    | cons q rest => rw [List.getLast?_cons_cons]

end Filling

/-! ### The loop -/

section Loop

variable {σ : Type} {options : SelectionOptions} {tracks : List String}

/-- A request suits its list, and is recorded with its answer. -/
theorem exists_request (service : PlaylistService σ) (options : SelectionOptions)
    (tracks : List String) (s : Session (Recorded σ)) :
    ∃ (r : Request) (after : Session (Recorded σ)),
      (request service.recorded options tracks).outcome s = (r.answer, after) ∧
      r.Fits options tracks ∧ after.remote.calls = s.remote.calls ++ [r.call] := by
  obtain ⟨seeds, drawn, hsample, hsub, hlen, hsame⟩ :=
    Job.exists_sample (ε := RemoteError) (min options.maxSeedTracks tracks.length) tracks s
  have hremote : drawn.remote = s.remote := by rw [hsame]
  rw [Nat.min_assoc, Nat.min_self] at hlen
  have houtcome : (request service.recorded options tracks).outcome s
      = (Job.call (service.recorded.recommendations seeds (min (options.targetSize - tracks.length)
          options.maxRecommendationsPerCall))).outcome drawn := Job.outcome_bind_of_ok hsample
  rw [Job.outcome_call] at houtcome
  refine ⟨⟨seeds, _, _⟩, _, houtcome, ⟨rfl, hsub, hlen⟩, ?_⟩
  rw [← hremote]
  rfl

/-- **Every run of the loop is a filling**, recorded request by request. -/
theorem exists_backfill (service : PlaylistService σ) (name : String)
    (options : SelectionOptions) (tracks : List String) (calls : Nat) (s : Session (Recorded σ))
    (hne : tracks ≠ []) :
    ∃ (result : Except RemoteError (List String)) (requests : List Request)
      (after : Session (Recorded σ)),
      Filling options tracks requests result ∧
      (backfill service.recorded name options tracks calls).outcome s
        = ((result.mapError .remote).map (·, calls + requests.length), after) ∧
      after.remote.calls = s.remote.calls ++ requests.map Request.call := by
  rw [backfill]
  by_cases hroom : tracks.length < options.targetSize
  · obtain ⟨r, mid, hrequest, hfits, hcalls⟩ := exists_request service options tracks s
    have hempty : tracks.isEmpty = false := by
      rw [Bool.eq_false_iff, Ne, List.isEmpty_iff]
      exact hne
    rw [dif_pos hroom, hempty, if_neg Bool.false_ne_true]
    cases hanswer : r.answer with
    | error e =>
      -- the failure of the request is that of the loop
      rw [hanswer] at hrequest
      refine ⟨.error e, [r], mid, .failed hroom hfits hanswer, ?_, hcalls⟩
      exact Job.outcome_bind_of_error (by rw [Job.outcome_failAs, hrequest])
    | ok ids =>
      rw [hanswer] at hrequest
      rw [Job.outcome_bind_of_ok (Job.outcome_failAs_eq_ok.mpr hrequest)]
      by_cases hids : ids = []
      · subst hids
        exact ⟨.ok tracks, [r], _, .exhausted hroom hfits hanswer, rfl, hcalls⟩
      · -- the loop goes on from a longer list, and its requests come after this one
        have hsome : ¬ids.isEmpty := by rwa [List.isEmpty_iff]
        rw [dif_neg hsome]
        obtain ⟨result, requests, after, hfilling, houtcome, hrest⟩ := exists_backfill service name
          options (tracks ++ ids.take (options.targetSize - tracks.length)) (calls + 1) mid
          (by simp [hne])
        refine ⟨result, r :: requests, after, .more hroom hfits hanswer hids hfilling, ?_, ?_⟩
        · rw [houtcome, List.length_cons, Nat.add_right_comm, Nat.add_assoc]
        · rw [hrest, hcalls, List.append_assoc]
          rfl
  · rw [dif_neg hroom]
    exact ⟨.ok tracks, [], s, .full (Nat.le_of_not_lt hroom), rfl, (List.append_nil _).symm⟩
termination_by options.targetSize - tracks.length
decreasing_by exact shortfall_append_lt ‹_› ‹_›

/-- A list without tracks gives nothing to start from. -/
theorem outcome_backfill_nil (service : PlaylistService σ) (name : String) (calls : Nat)
    (s : Session σ) (hroom : 0 < options.targetSize) :
    (backfill service name options [] calls).outcome s = (.error (.noSeedTracks name), s) := by
  rw [backfill, dif_pos (show ([] : List String).length < options.targetSize from hroom)]
  rfl

/-! ### Recording changes nothing -/

theorem mirrors_request (service : PlaylistService σ) (options : SelectionOptions)
    (tracks : List String) :
    (request service.recorded options tracks).Mirrors (request service options tracks) :=
  (Job.Mirrors.sample _ tracks).bind fun _ => .call _ _

theorem mirrors_backfill (service : PlaylistService σ) (name : String)
    (options : SelectionOptions) (tracks : List String) (calls : Nat) :
    (backfill service.recorded name options tracks calls).Mirrors
      (backfill service name options tracks calls) := by
  rw [backfill, backfill]
  split
  · split
    · exact .throw _
    · refine (mirrors_request service options tracks).failAs.bind fun ids => ?_
      split
      · exact (Job.Mirrors.tell _).bind fun _ => .pure _
      · exact mirrors_backfill service name options _ _
  · exact .pure _
termination_by options.targetSize - tracks.length
decreasing_by exact shortfall_append_lt ‹_› ‹_›

theorem mirrors_select (service : PlaylistService σ) (name : String) (eligible : List RootTrack)
    (options : SelectionOptions) :
    (select service.recorded name eligible options).Mirrors
      (select service name eligible options) := by
  rw [select, select]
  split
  · exact .throw _
  · refine (Job.Mirrors.sample _ eligible).bind fun sampled => ?_
    refine (mirrors_backfill service name options _ 0).bind fun _ => ?_
    exact (Job.Mirrors.shuffle _).bind fun _ => .pure _

end Loop

/-! ### Accounts -/

/-- Where the tracks of a selection come from. -/
structure Account where
  /-- The ids of the tracks drawn from the eligible ones. -/
  picked : List String
  /-- The requests, the oldest first. -/
  requests : List Request

namespace Account

/-- The account covers a selection: its tracks, and the numbers kept about them. -/
structure Covers (a : Account) (options : SelectionOptions) (selection : Selection) : Prop where
  tracks_perm : selection.tracks.Perm (filled options.targetSize a.picked a.requests)
  fromRoot_eq : selection.fromRoot = a.picked.length
  fromRoot_add_recommended : selection.fromRoot + selection.recommended = selection.tracks.length
  length_tracks_le : selection.tracks.length ≤ options.targetSize
  recommendationCalls_eq : selection.recommendationCalls = a.requests.length
  isShort_iff : selection.isShort options.targetSize = true ↔
    ∃ r, a.requests.getLast? = some r ∧ r.answer = .ok []

/-- The account explains what selecting comes to. -/
structure Explains (a : Account) (name : String) (eligible : List RootTrack)
    (options : SelectionOptions) (result : Except SelectionError Selection) : Prop where
  /-- The picked ids stand at distinct positions among the eligible tracks. -/
  picked_subperm : a.picked.Subperm (eligible.map RootTrack.trackId)
  length_picked :
    a.picked.length = min (options.targetSize - options.backfillCount) eligible.length
  length_requests_le : a.requests.length ≤ options.targetSize - a.picked.length
  fits : ∀ before r after, a.requests = before ++ r :: after →
    r.Fits options (filled options.targetSize a.picked before)
  /-- Nothing is asked for after a failure, or after nothing was offered. -/
  answered : ∀ before r after, a.requests = before ++ r :: after → after ≠ [] →
    ∃ ids, r.answer = .ok ids ∧ ids ≠ []
  of_nil : eligible = [] → a.requests = [] ∧ result = .error (.noSeedTracks name)
  of_error : ∀ r ∈ a.requests, ∀ e, r.answer = .error e → result = .error (.remote e)
  of_ok : eligible ≠ [] → (∀ r ∈ a.requests, ∃ ids, r.answer = .ok ids) →
    ∃ selection, result = .ok selection ∧ a.Covers options selection

variable {a : Account} {name : String} {eligible : List RootTrack} {options : SelectionOptions}
  {final shuffled : List String}

/-- The list that the requests lead to is covered, however it is shuffled. -/
theorem covers (h : Filling options a.picked a.requests (.ok final))
    (hlen : a.picked.length ≤ options.targetSize) (hperm : shuffled.Perm final) :
    a.Covers options
      ⟨shuffled, a.picked.length, final.length - a.picked.length, a.requests.length⟩ := by
  obtain ⟨hge, hle⟩ := h.length_le_length hlen
  refine ⟨?_, rfl, ?_, ?_, rfl, ?_⟩
  · rw [← h.eq_filled]
    exact hperm
  · rw [hperm.length_eq]
    exact Nat.add_sub_cancel' hge
  · rw [hperm.length_eq]
    exact hle
  · rw [Selection.isShort, decide_eq_true_iff, hperm.length_eq]
    exact h.short_iff

/-- What a filling comes to is explained by its requests. -/
theorem explains {filling : Except RemoteError (List String)}
    {result : Except SelectionError Selection}
    (hsub : a.picked.Subperm (eligible.map RootTrack.trackId))
    (hpicked : a.picked.length = min (options.targetSize - options.backfillCount) eligible.length)
    (hne : eligible ≠ []) (h : Filling options a.picked a.requests filling)
    (herror : ∀ e, filling = .error e → result = .error (.remote e))
    (hok : ∀ final, filling = .ok final →
      ∃ selection, result = .ok selection ∧ a.Covers options selection) :
    a.Explains name eligible options result where
  picked_subperm := hsub
  length_picked := hpicked
  length_requests_le := h.length_le
  fits _ _ _ hr := h.fits hr
  answered _ _ _ hr hafter := h.answered hr hafter
  of_nil hnil := absurd hnil hne
  of_error _ hr e he := herror e (h.eq_error hr he)
  of_ok _ hanswers := by
    obtain ⟨final, hfinal⟩ := h.exists_ok hanswers
    exact hok final hfinal

/-- What is selected in the end is covered, and every request for it was answered. -/
theorem Explains.covers_of_ok {selection : Selection}
    (h : a.Explains name eligible options (.ok selection)) :
    (∀ r ∈ a.requests, ∃ ids, r.answer = .ok ids) ∧ a.Covers options selection := by
  have hanswered : ∀ r ∈ a.requests, ∃ ids, r.answer = .ok ids := by
    intro r hr
    cases hanswer : r.answer with
    | ok ids => exact ⟨ids, rfl⟩
    | error e => exact absurd (h.of_error r hr e hanswer) (by simp)
  have hne : eligible ≠ [] := fun hnil => absurd (h.of_nil hnil).2 (by simp)
  obtain ⟨selection', heq, hcovers⟩ := h.of_ok hne hanswered
  obtain rfl := Except.ok.inj heq
  exact ⟨hanswered, hcovers⟩

/-- Where nothing is eligible, nothing is picked or asked for. -/
theorem explains_nil (name : String) (options : SelectionOptions) :
    Explains ⟨[], []⟩ name [] options (.error (.noSeedTracks name)) where
  picked_subperm := List.nil_subperm
  length_picked := (Nat.min_zero _).symm
  length_requests_le := Nat.zero_le _
  fits _ _ _ hr := by simp at hr
  answered _ _ _ hr _ := by simp at hr
  of_nil _ := ⟨rfl, rfl⟩
  of_error _ hr := absurd hr List.not_mem_nil
  of_ok hne := absurd rfl hne

end Account

end SmartPlaylist.Selection

namespace SmartPlaylist

variable {σ : Type}

open Selection

/-- Selecting on a recorded service is explained by the record. -/
theorem exists_account (service : PlaylistService σ) (name : String) (eligible : List RootTrack)
    (options : SelectionOptions) (s : Session (Recorded σ))
    (hroom : options.backfillCount < options.targetSize) :
    ∃ (a : Account) (result : Except SelectionError Selection) (after : Session (Recorded σ)),
      (select service.recorded name eligible options).outcome s = (result, after) ∧
      after.remote.calls = s.remote.calls ++ a.requests.map Request.call ∧
      a.Explains name eligible options result := by
  obtain ⟨sampled, drawn, hsample, hsub, hlen, hsame⟩ := Job.exists_sample (ε := SelectionError)
    (min options.rootSampleSize eligible.length) eligible s
  have hremote : drawn.remote = s.remote := by rw [hsame]
  have hpicked : (sampled.map RootTrack.trackId).length
      = min (options.targetSize - options.backfillCount) eligible.length := by
    rw [List.length_map, hlen, Nat.min_assoc, Nat.min_self]
    rfl
  have hsub' : (sampled.map RootTrack.trackId).Subperm (eligible.map RootTrack.trackId) := by
    obtain ⟨taken, hperm, hsublist⟩ := hsub
    exact ⟨taken.map _, hperm.map _, hsublist.map _⟩
  rw [select, if_neg (Nat.not_le.mpr hroom), Job.outcome_bind_of_ok hsample, ← hremote]
  by_cases hnil : eligible = []
  · -- nothing is drawn, and the loop stops before its first request
    subst hnil
    rw [List.length_nil, Nat.min_zero] at hlen
    obtain rfl : sampled = [] := List.length_eq_zero_iff.mp hlen
    refine ⟨⟨[], []⟩, .error (.noSeedTracks name), drawn, ?_, (List.append_nil _).symm, ?_⟩
    · exact Job.outcome_bind_of_error (outcome_backfill_nil _ name 0 drawn (by omega))
    · exact Account.explains_nil name options
  · -- something is drawn, as there is room for it
    have hpos : 0 < eligible.length := List.length_pos_iff.mpr hnil
    have hne : sampled.map RootTrack.trackId ≠ [] := by
      rw [← List.length_pos_iff, hpicked]
      omega
    obtain ⟨filling, requests, asked, hfilling, houtcome, hcalls⟩ :=
      exists_backfill service name options (sampled.map RootTrack.trackId) 0 drawn hne
    rw [Nat.zero_add] at houtcome
    cases filling with
    | error e =>
      refine ⟨⟨_, requests⟩, .error (.remote e), asked, Job.outcome_bind_of_error houtcome, hcalls,
        Account.explains hsub' hpicked hnil hfilling ?_ ?_⟩
      · intro e' he
        rw [Except.error.inj he]
      · intro final hfinal
        exact absurd hfinal (by simp)
    | ok final =>
      obtain ⟨shuffled, after, hshuffle, hperm, hsame'⟩ :=
        Job.exists_shuffle (ε := SelectionError) final asked
      have hremote' : after.remote = asked.remote := by rw [hsame']
      refine ⟨⟨_, requests⟩, .ok ⟨shuffled, (sampled.map RootTrack.trackId).length,
        final.length - (sampled.map RootTrack.trackId).length, requests.length⟩, after, ?_,
        by rw [hremote', hcalls], Account.explains hsub' hpicked hnil hfilling ?_ ?_⟩
      · rw [Job.outcome_bind_of_ok houtcome, Job.outcome_bind_of_ok hshuffle]
        rfl
      · intro e he
        exact absurd he (by simp)
      · intro final' hfinal
        obtain rfl := Except.ok.inj hfinal
        exact ⟨_, rfl, Account.covers hfilling (by rw [hpicked]; omega) hperm⟩

/-- **What a selection is made of**, whatever the service answers and the random numbers are: the
calls made to the service are the requests of an account that explains the result. -/
theorem select_accounting (service : PlaylistService σ) (name : String)
    (eligible : List RootTrack) (options : SelectionOptions) (s : Session σ)
    (hroom : options.backfillCount < options.targetSize) :
    ∃ (a : Account) (result : Except SelectionError Selection) (after : Session (Recorded σ)),
      (select service name eligible options).outcome s = (result, after.forget) ∧
      (select service.recorded name eligible options).outcome s.recording = (result, after) ∧
      after.remote.calls = a.requests.map Request.call ∧
      a.Explains name eligible options result := by
  obtain ⟨a, result, after, houtcome, hcalls, hexplains⟩ :=
    exists_account service name eligible options s.recording hroom
  refine ⟨a, result, after, ?_, houtcome, hcalls, hexplains⟩
  have hmirror := mirrors_select service name eligible options s.recording
  rw [Session.forget_recording, houtcome] at hmirror
  exact hmirror

/-- A service that recommends what a script says, and nothing once the script is used up. -/
def scriptedService : PlaylistService (List (Except RemoteError (List String))) where
  userPlaylists _ _ script := ({ result := .ok { items := [], hasNext := false } }, script)
  createPlaylist name script := ({ result := .ok name }, script)
  replaceTracks _ _ script := ({ result := .ok () }, script)
  recommendations _ _ script := ({ result := script.headD (.ok []) }, script.tail)

/-- A session with two recommendations to come, the second longer than the first. -/
def scriptedSession : Session (List (Except RemoteError (List String))) where
  database := {}
  remote := [.ok ["r"], .ok ["s", "t", "u"]]
  entropy := { word := fun n => 7 * n + 3 }

/-- Two of three tracks are drawn; the second answer is longer than the places still empty. -/
theorem explains_overlongAnswer :
    ∃ a : Account, a.Explains "mix" [⟨"a", true⟩, ⟨"b", false⟩, ⟨"c", true⟩]
      { targetSize := 5, backfillCount := 3 } (.ok ⟨["r", "t", "a", "s", "b"], 2, 3, 2⟩) := by
  obtain ⟨a, result, after, houtcome, -, -, hexplains⟩ :=
    select_accounting scriptedService "mix" [⟨"a", true⟩, ⟨"b", false⟩, ⟨"c", true⟩]
      { targetSize := 5, backfillCount := 3 } scriptedSession (by decide)
  have hresult : result = .ok ⟨["r", "t", "a", "s", "b"], 2, 3, 2⟩ := by
    refine (congrArg Prod.fst houtcome).symm.trans ?_
    decide +kernel
  rw [hresult] at hexplains
  exact ⟨a, hexplains⟩

end SmartPlaylist
