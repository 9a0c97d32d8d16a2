import SmartPlaylist.Proofs.Remote.Account

/-!
# Syncing with an account

A sync goes through the whole listing before it creates a playlist, so it creates one only where
there is none of the name.  From then on there is one, and every later sync finds it.  So however
many syncs are run and whatever fails in between, playlists are only ever added, and no name gets a
second playlist.

## Main definitions

* `RemoteAccount.named`, `RemoteAccount.first` — how many playlists bear a name, and which is the
  first.
* `Circumstances.Syncs` — the ways in which a sync changes an account.
* `syncAll` — several syncs in a row.

## Main results

* `Circumstances.syncs_syncPlaylist` — **every sync changes the account in one of these ways.**
* `Circumstances.Syncs.exists_added`, `Circumstances.Syncs.named_le` — what every sync keeps.
* `syncAll_account` — **what any number of syncs leave**, and what the next one does.
-/

namespace SmartPlaylist

namespace RemoteAccount

/-- How many playlists bear a name. -/
def named (a : RemoteAccount) (name : String) : Nat := a.listing.countP fun p => p.name = name

/-- The id of the first playlist of a name. -/
def first (a : RemoteAccount) (name : String) : Option String :=
  (a.listing.find? fun p => p.name = name).map RemotePlaylist.id

variable {a a' : RemoteAccount} {name id : String}

theorem mem_listing {p : RemotePlaylist} :
    p ∈ a.listing ↔ ∃ q ∈ a.playlists, q.listed = p := List.mem_map

/-- Nothing before the first playlist of a name bears the name. -/
theorem first_eq_some_iff : a.first name = some id ↔
    ∃ front p back, a.playlists = front ++ p :: back ∧ p.id = id ∧ p.name = name ∧
      ∀ q ∈ front, q.name ≠ name := by
  have hfind : a.first name
      = (a.playlists.find? fun p => p.name = name).map AccountPlaylist.id := by
    rw [first, listing, List.find?_map, Option.map_map]
    rfl
  rw [hfind, Option.map_eq_some_iff]
  simp only [List.find?_eq_some_iff_append]
  constructor
  · rintro ⟨p, ⟨hname, front, back, hplaylists, hfront⟩, hid⟩
    exact ⟨front, p, back, hplaylists, hid, of_decide_eq_true hname,
      fun q hq => by simpa using hfront q hq⟩
  · rintro ⟨front, p, back, hplaylists, hid, hname, hfront⟩
    exact ⟨p, ⟨decide_eq_true hname, front, back, hplaylists,
      fun q hq => by simpa using hfront q hq⟩, hid⟩

theorem first_eq_none_iff : a.first name = none ↔ ∀ p ∈ a.playlists, p.name ≠ name := by
  rw [first, Option.map_eq_none_iff, List.find?_eq_none]
  constructor
  · intro h p hp hname
    exact h p.listed (mem_listing.mpr ⟨p, hp, rfl⟩) (decide_eq_true hname)
  · intro h p hp hname
    obtain ⟨q, hq, rfl⟩ := mem_listing.mp hp
    exact h q hq (of_decide_eq_true hname)

theorem named_eq_zero_iff : a.named name = 0 ↔ a.first name = none := by
  rw [first, Option.map_eq_none_iff, named, List.countP_eq_zero, List.find?_eq_none]

/-- What comes later in the listing does not change which is the first. -/
theorem first_of_added {added : List RemotePlaylist} (h : a'.listing = a.listing ++ added)
    (hfirst : a.first name = some id) : a'.first name = some id := by
  obtain ⟨p, hp, hid⟩ := Option.map_eq_some_iff.mp hfirst
  rw [first, h, List.find?_append, hp, Option.some_or, Option.map_some, hid]

end RemoteAccount

namespace Circumstances

/-! ### One sync -/

/-- A sync between two states of the account may fail with the error: a call failed with it, or the
listing is longer than can be counted. -/
def Excuses (c : Circumstances) (a a' : RemoteAccount) (e : RemoteError) : Prop :=
  (∃ k, a.calls ≤ k ∧ k < a'.calls ∧ c.failure k = some e) ∨ listingLimit ≤ a.playlists.length

/-- The ways in which a sync changes an account. -/
inductive Syncs (c : Circumstances) (name : String) (tracks : List String)
    (a a' : RemoteAccount) : Except RemoteError SyncOutcome → Prop
  /-- A call failed, and nothing changed. -/
  | failed {e : RemoteError} (hafter : a'.playlists = a.playlists) (hexcuse : c.Excuses a a' e) :
    Syncs c name tracks a a' (.error e)
  /-- A playlist was created and left empty, as the last call failed. -/
  | leftEmpty {e : RemoteError} {id : String} (hnone : ∀ p ∈ a.playlists, p.name ≠ name)
    (hafter : a'.playlists = a.playlists ++ [⟨id, name, []⟩]) (hexcuse : c.Excuses a a' e) :
    Syncs c name tracks a a' (.error e)
  /-- The tracks of the first playlist of the name were replaced. -/
  | replaced {front back : List AccountPlaylist} {p : AccountPlaylist}
    (hbefore : a.playlists = front ++ p :: back) (hname : p.name = name)
    (hfront : ∀ q ∈ front, q.name ≠ name)
    (hafter : a'.playlists = front ++ { p with tracks } :: back) :
    Syncs c name tracks a a' (.ok ⟨p.id, false, tracks.length⟩)
  /-- A playlist was created and filled. -/
  | created {id : String} (hnone : ∀ p ∈ a.playlists, p.name ≠ name)
    (hafter : a'.playlists = a.playlists ++ [⟨id, name, tracks⟩]) :
    Syncs c name tracks a a' (.ok ⟨id, true, tracks.length⟩)

variable {c : Circumstances} {name : String} {tracks : List String} {a a' : RemoteAccount}
  {result : Except RemoteError SyncOutcome}

/-- A lookup that fails has an excuse. -/
theorem excuses_of_lookup {pages : List PageRequest} {mid : RemoteAccount} {e : RemoteError}
    (h : Lookup name 0 pages (.error e)) (hlists : c.Lists pages a mid) : c.Excuses a mid e := by
  rcases h.of_error with ⟨p, hp, hanswer⟩ | ⟨p, hp, page, hanswer, hnext, hlimit⟩
  · exact Or.inl (hlists.failure_of_error p hp e hanswer)
  · -- there is more of the listing beyond the limit
    obtain ⟨-, -, hmore⟩ := hlists.shows p hp page hanswer
    have hlt := hmore.mp hnext
    have hlen : a.listing.length = a.playlists.length := List.length_map _
    exact Or.inr (by omega)

/-- What is found on the pages is the first playlist of the name. -/
theorem eq_first_of_lookup {pages : List PageRequest} {mid : RemoteAccount}
    {found : Option String} (h : Lookup name 0 pages (.ok found)) (hlists : c.Lists pages a mid) :
    a.first name = found := by
  rw [h.eq_find hlists.shows, List.drop_zero]
  rfl

/-- What the calls of a sync do to the account. -/
theorem syncs_of_runs {trace : SyncTrace} (h : Syncing name tracks trace result)
    (hruns : c.service.Runs a (trace.calls name tracks) a') :
    c.Syncs name tracks a a' result := by
  obtain ⟨mid, hpages, hrest⟩ := hruns.exists_of_append
  have hlists := lists_of_runs hpages
  have hmid := hlists.playlists_eq
  have hcalls := hlists.calls_eq
  cases h with
  | unlisted hlookup =>
    obtain rfl : a' = mid := hrest.eq_of_nil
    exact .failed hmid (excuses_of_lookup hlookup hlists)
  | @found pages id answer hlookup =>
    obtain ⟨front, p, back, hbefore, rfl, hname, hfront⟩ :=
      RemoteAccount.first_eq_some_iff.mp (eq_first_of_lookup hlookup hlists)
    have hlast : (ServiceCall.replaceTracks p.id tracks answer).Takes c.service mid a' :=
      hrest.takes_of_single
    have hbefore' := hmid.trans hbefore
    obtain ⟨hcount, ⟨e, hfailure, rfl, hsame⟩ | ⟨rfl, hreplaced⟩⟩ := takes_replaceTracks hlast
      (by rw [hbefore']; exact List.mem_map_of_mem (List.mem_append_cons_self))
    · exact .failed (hsame.trans hmid) (Or.inl ⟨mid.calls, by omega, by omega, hfailure⟩)
    · exact .replaced hbefore hname hfront
        (hreplaced.trans (RemoteAccount.playlists_replace hbefore' tracks))
  | @uncreated pages e hlookup =>
    have hnone := RemoteAccount.first_eq_none_iff.mp (eq_first_of_lookup hlookup hlists)
    have hlast : (ServiceCall.createPlaylist name (.error e)).Takes c.service mid a' :=
      hrest.takes_of_single
    obtain ⟨hcount, ⟨e', hfailure, he, hsame⟩ | ⟨id, hok, -⟩⟩ := takes_createPlaylist hlast
    · obtain rfl := Except.error.inj he
      exact .failed (hsame.trans hmid) (Or.inl ⟨mid.calls, by omega, by omega, hfailure⟩)
    · exact absurd hok (by simp)
  | @created pages id answer hlookup =>
    have hnone := RemoteAccount.first_eq_none_iff.mp (eq_first_of_lookup hlookup hlists)
    obtain ⟨fresh, hcreate, hreplace⟩ := hrest.exists_of_cons
    have hlast : (ServiceCall.replaceTracks id tracks answer).Takes c.service fresh a' :=
      hreplace.takes_of_single
    obtain ⟨hcount, ⟨e', -, he, -⟩ | ⟨id', hok, hfresh⟩⟩ := takes_createPlaylist hcreate
    · exact absurd he (by simp)
    · obtain rfl := Except.ok.inj hok
      rw [hmid] at hfresh
      obtain ⟨hcount', ⟨e, hfailure, rfl, hsame⟩ | ⟨rfl, hreplaced⟩⟩ := takes_replaceTracks hlast
        (by rw [hfresh]; exact List.mem_map_of_mem (List.mem_append_cons_self))
      · exact .leftEmpty hnone (hsame.trans hfresh)
          (Or.inl ⟨fresh.calls, by omega, by omega, hfailure⟩)
      · exact .created hnone (hreplaced.trans (RemoteAccount.playlists_replace hfresh tracks))

/-- **Every sync changes the account in one of these ways.** -/
theorem syncs_syncPlaylist (c : Circumstances) (name : String) (tracks : List String)
    (s : Session RemoteAccount) :
    c.Syncs name tracks s.remote ((syncPlaylist c.service name tracks).outcome s).2.remote
      ((syncPlaylist c.service name tracks).outcome s).1 := by
  obtain ⟨result, trace, after, hsyncing, houtcome, hfollows⟩ :=
    exists_syncing c.service name tracks s.recording
  rw [(mirrors_syncPlaylist c.service name tracks).outcome_eq houtcome]
  exact syncs_of_runs hsyncing hfollows.runs

namespace Syncs

/-- The listing stays as it was, or a playlist of the name is added where there was none. -/
theorem listing_cases (h : c.Syncs name tracks a a' result) :
    a'.listing = a.listing ∨ (∀ p ∈ a.playlists, p.name ≠ name) ∧
      ∃ id, a'.listing = a.listing ++ [⟨id, name⟩] := by
  unfold RemoteAccount.listing
  cases h with
  | failed hafter _ => exact Or.inl (congrArg _ hafter)
  | @leftEmpty e id hnone hafter _ =>
    refine Or.inr ⟨hnone, id, ?_⟩
    rw [hafter, List.map_append]
    rfl
  | replaced hbefore _ _ hafter =>
    left
    rw [hafter, hbefore, List.map_append, List.map_append]
    rfl
  | @created id hnone hafter =>
    refine Or.inr ⟨hnone, id, ?_⟩
    rw [hafter, List.map_append]
    rfl

/-- No playlist goes, and none gets another name. -/
theorem exists_added (h : c.Syncs name tracks a a' result) :
    ∃ added, a'.listing = a.listing ++ added := by
  rcases h.listing_cases with hsame | ⟨-, id, hadded⟩
  · exact ⟨[], by rw [hsame, List.append_nil]⟩
  · exact ⟨_, hadded⟩

/-- Where there is a playlist of the name, none is added. -/
theorem listing_eq_of_first {id : String} (h : c.Syncs name tracks a a' result)
    (hfirst : a.first name = some id) : a'.listing = a.listing := by
  rcases h.listing_cases with hsame | ⟨hnone, -⟩
  · exact hsame
  · rw [← RemoteAccount.first_eq_none_iff, hfirst] at hnone
    exact absurd hnone (Option.some_ne_none id)

/-- No name gets a second playlist. -/
theorem named_le (h : c.Syncs name tracks a a' result) (n : String) :
    a'.named n ≤ max (a.named n) 1 := by
  rcases h.listing_cases with hsame | ⟨hnone, id, hadded⟩
  · rw [RemoteAccount.named, hsame]
    exact Nat.le_max_left _ _
  · rw [RemoteAccount.named, hadded, List.countP_append, List.countP_singleton]
    by_cases hn : name = n
    · have hzero : a.listing.countP (fun p => p.name = n) = 0 :=
        RemoteAccount.named_eq_zero_iff.mpr (RemoteAccount.first_eq_none_iff.mpr (hn ▸ hnone))
      rw [hzero, if_pos (decide_eq_true hn)]
      exact Nat.le_max_right _ _
    · rw [if_neg (by simpa using hn), Nat.add_zero]
      exact Nat.le_max_left _ _

/-- A sync that succeeds gives the first playlist of the name, which holds the tracks; the others
are as they were. -/
theorem exists_of_ok {outcome : SyncOutcome} (h : c.Syncs name tracks a a' (.ok outcome)) :
    ∃ front back, a'.playlists = front ++ ⟨outcome.playlistId, name, tracks⟩ :: back ∧
      (∀ q ∈ front, q.name ≠ name) ∧
      (outcome.created = false ∧
          (∃ old, a.playlists = front ++ ⟨outcome.playlistId, name, old⟩ :: back) ∨
        outcome.created = true ∧ back = [] ∧ a.playlists = front) := by
  generalize hresult : Except.ok outcome = result at h
  cases h with
  | failed _ _ => exact absurd hresult (by simp)
  | leftEmpty _ _ _ => exact absurd hresult (by simp)
  | @replaced front back p hbefore hname hfront hafter =>
    obtain rfl := Except.ok.inj hresult
    obtain rfl := hname
    exact ⟨front, back, hafter, hfront, Or.inl ⟨rfl, p.tracks, hbefore⟩⟩
  | created hnone hafter =>
    obtain rfl := Except.ok.inj hresult
    exact ⟨a.playlists, [], hafter, hnone, Or.inr ⟨rfl, rfl, rfl⟩⟩

/-- A sync that fails changes nothing, or leaves the only playlist of the name empty. -/
theorem of_error {e : RemoteError} (h : c.Syncs name tracks a a' (.error e)) :
    (a'.playlists = a.playlists ∨ (∀ p ∈ a.playlists, p.name ≠ name) ∧
      ∃ id, a'.playlists = a.playlists ++ [⟨id, name, []⟩] ∧ a'.first name = some id) ∧
    c.Excuses a a' e := by
  cases h with
  | failed hafter hexcuse => exact ⟨Or.inl hafter, hexcuse⟩
  | @leftEmpty _ id hnone hafter hexcuse =>
    have hfirst : a'.first name = some id :=
      RemoteAccount.first_eq_some_iff.mpr ⟨a.playlists, _, [], hafter, rfl, rfl, hnone⟩
    exact ⟨Or.inr ⟨hnone, id, hafter, hfirst⟩, hexcuse⟩

/-- Where there is a playlist of the name, a sync that succeeds gives the first. -/
theorem of_first {id : String} {outcome : SyncOutcome}
    (h : c.Syncs name tracks a a' (.ok outcome)) (hfirst : a.first name = some id) :
    outcome.playlistId = id ∧ outcome.created = false := by
  obtain ⟨front, back, -, hfront, ⟨hcreated, old, hbefore⟩ | ⟨-, -, hbefore⟩⟩ := h.exists_of_ok
  · have hfirst' : a.first name = some outcome.playlistId :=
      RemoteAccount.first_eq_some_iff.mpr ⟨front, _, back, hbefore, rfl, rfl, hfront⟩
    exact ⟨Option.some.inj (hfirst'.symm.trans hfirst), hcreated⟩
  · rw [← hbefore, ← RemoteAccount.first_eq_none_iff, hfirst] at hfront
    exact absurd hfront (Option.some_ne_none id)

end Syncs

end Circumstances

/-! ### Several syncs -/

/-- The session after several syncs, each with a name and tracks, whatever they come to. -/
def syncAll (c : Circumstances) (syncs : List (String × List String))
    (s : Session RemoteAccount) : Session RemoteAccount :=
  syncs.foldl (fun s sync => ((syncPlaylist c.service sync.1 sync.2).outcome s).2) s

variable {c : Circumstances} {syncs : List (String × List String)} {s : Session RemoteAccount}

/-- No playlist goes, and none gets another name. -/
theorem exists_added_syncAll (c : Circumstances) (syncs : List (String × List String))
    (s : Session RemoteAccount) :
    ∃ added, (syncAll c syncs s).remote.listing = s.remote.listing ++ added := by
  induction syncs generalizing s with
  | nil => exact ⟨[], (List.append_nil _).symm⟩
  | cons sync syncs ih =>
    obtain ⟨added, hfirst⟩ := (c.syncs_syncPlaylist sync.1 sync.2 s).exists_added
    obtain ⟨added', hrest⟩ := ih ((syncPlaylist c.service sync.1 sync.2).outcome s).2
    refine ⟨added ++ added', ?_⟩
    rw [← List.append_assoc, ← hfirst]
    exact hrest

/-- No name gets a second playlist. -/
theorem named_syncAll_le (c : Circumstances) (syncs : List (String × List String))
    (s : Session RemoteAccount) (n : String) :
    (syncAll c syncs s).remote.named n ≤ max (s.remote.named n) 1 := by
  induction syncs generalizing s with
  | nil => exact Nat.le_max_left _ _
  | cons sync syncs ih =>
    have hfirst := (c.syncs_syncPlaylist sync.1 sync.2 s).named_le n
    have hrest := ih ((syncPlaylist c.service sync.1 sync.2).outcome s).2
    refine Nat.le_trans hrest (Nat.max_le.mpr ⟨hfirst, Nat.le_max_right _ _⟩)

/-- **What any number of syncs leave, and what the next one does**, whichever calls fail.  No
playlist goes or gets another name, and no name gets a second playlist.  A sync that succeeds gives
the first playlist of the name, which then holds exactly the tracks, and changes no other.  One that
fails has an excuse, and changes nothing, or leaves a new and empty playlist where there was none of
the name.  Either way, once there is a playlist of the name, every later sync uses the first one. -/
theorem syncAll_account (c : Circumstances) (syncs : List (String × List String))
    (s : Session RemoteAccount) :
    (∃ added, (syncAll c syncs s).remote.listing = s.remote.listing ++ added) ∧
    (∀ n, (syncAll c syncs s).remote.named n ≤ max (s.remote.named n) 1) ∧
    ∀ name tracks,
      let before := (syncAll c syncs s).remote
      let next := (syncPlaylist c.service name tracks).outcome (syncAll c syncs s)
      let after := next.2.remote
      (∀ outcome, next.1 = .ok outcome →
        ∃ front back, after.playlists = front ++ ⟨outcome.playlistId, name, tracks⟩ :: back ∧
          (∀ q ∈ front, q.name ≠ name) ∧
          (outcome.created = false ∧
              (∃ old, before.playlists = front ++ ⟨outcome.playlistId, name, old⟩ :: back) ∨
            outcome.created = true ∧ back = [] ∧ before.playlists = front)) ∧
      (∀ e, next.1 = .error e →
        (after.playlists = before.playlists ∨ (∀ p ∈ before.playlists, p.name ≠ name) ∧
          ∃ id, after.playlists = before.playlists ++ [⟨id, name, []⟩] ∧
            after.first name = some id) ∧
        ((∃ k, before.calls ≤ k ∧ k < after.calls ∧ c.failure k = some e) ∨
          listingLimit ≤ before.playlists.length)) ∧
      ∀ id, after.first name = some id → ∀ later tracks',
        let again := (syncPlaylist c.service name tracks').outcome (syncAll c later next.2)
        again.2.remote.listing = (syncAll c later next.2).remote.listing ∧
          ∀ outcome, again.1 = .ok outcome →
            outcome.playlistId = id ∧ outcome.created = false := by
  refine ⟨exists_added_syncAll c syncs s, named_syncAll_le c syncs s, fun name tracks => ?_⟩
  intro before next after
  have hnext : c.Syncs name tracks before after next.1 :=
    c.syncs_syncPlaylist name tracks (syncAll c syncs s)
  refine ⟨fun outcome houtcome => ?_, fun e he => ?_, fun id hid later tracks' => ?_⟩
  · rw [houtcome] at hnext
    exact hnext.exists_of_ok
  · rw [he] at hnext
    exact hnext.of_error
  · -- the syncs in between keep the first playlist of the name where it is
    intro again
    obtain ⟨added, hadded⟩ := exists_added_syncAll c later next.2
    have hfirst : (syncAll c later next.2).remote.first name = some id :=
      RemoteAccount.first_of_added hadded hid
    have hagain : c.Syncs name tracks' (syncAll c later next.2).remote again.2.remote again.1 :=
      c.syncs_syncPlaylist name tracks' (syncAll c later next.2)
    refine ⟨hagain.listing_eq_of_first hfirst, fun outcome houtcome => ?_⟩
    rw [houtcome] at hagain
    exact hagain.of_first hfirst

/-- Texts put together are longer than each of them. -/
theorem length_lt_joined (ids : List String) (start id : String)
    (hid : id ∈ ids ∨ id.length < start.length) (hstart : 0 < start.length) :
    id.length < (ids.foldl String.append start).length := by
  induction ids generalizing start with
  | nil => exact hid.resolve_left List.not_mem_nil
  | cons first rest ih =>
    have hlength : (start.append first).length = start.length + first.length :=
      String.length_append start first
    refine ih _ ?_ (by omega)
    rcases hid with hid | hid
    · rcases List.mem_cons.mp hid with rfl | hid
      · exact Or.inr (by omega)
      · exact Or.inl hid
    · exact Or.inr (by omega)

/-- Circumstances in which certain calls fail, and a new id is longer than all others. -/
def Circumstances.failing (failure : Nat → Option RemoteError) : Circumstances where
  failure := failure
  newId a := (a.playlists.map AccountPlaylist.id).foldl String.append "+"
  newId_fresh _ hmem :=
    absurd (length_lt_joined _ "+" _ (Or.inl hmem) (by decide)) (Nat.lt_irrefl _)

/-- The first sync creates a playlist and cannot fill it; the second one finds it. -/
example :
    (syncAll (.failing fun k => if k = 2 then some .notGranted else none)
      [("mix", ["a"]), ("mix", ["b", "c"])]
      { database := {}, remote := ⟨[], 0, .nil⟩, entropy := ⟨fun _ => 0, 0⟩ }).remote.playlists
        = [⟨"+", "mix", ["b", "c"]⟩] := by
  decide +kernel

end SmartPlaylist
