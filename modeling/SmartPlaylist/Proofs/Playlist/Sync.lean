import SmartPlaylist.Playlist.Sync
import SmartPlaylist.Proofs.List.InOrder
import SmartPlaylist.Proofs.Session.Runs

/-!
# What a sync asks of the service

A sync first goes through the pages of the listing until a page has a playlist of the name, then
creates a playlist if no page had one, and last replaces the tracks.  Every step may fail, and
nothing is asked after a failure.

A page shows a part of the listing.  If every page shows the part that it was asked for, the
playlist found is the first of its name in the whole listing.

## Main definitions

* `PageRequest` — a request for a page with its answer; `PageRequest.Shows` says that the answer
  is a part of a listing.
* `Lookup` — the ways in which a playlist is looked for, page by page.
* `SyncTrace`, `Syncing` — what a sync asks for, and the ways in which it goes.

## Main results

* `exists_lookup`, `exists_syncing` — **every run goes in one of these ways.**
* `Lookup.of_ok` — what is found is the first playlist of its name on the pages.
* `Lookup.eq_find` — **what is found is the first playlist of its name in the listing.**
-/

namespace SmartPlaylist

/-! ### Pages -/

/-- A page after which the listing goes on shows something. -/
theorem Page.length_items_pos {α : Type} {page : Page α}
    (h : ¬(!page.hasNext || page.items.isEmpty) = true) : 0 < page.items.length := by
  rw [List.length_pos_iff, Ne, ← List.isEmpty_iff]
  exact fun hempty => h (by rw [hempty, Bool.or_true])

/-- A request for a page of the user's playlists with its answer. -/
structure PageRequest where
  offset : Nat
  answer : Except RemoteError (Page RemotePlaylist)

namespace PageRequest

/-- The request as it is recorded. -/
def call (p : PageRequest) : ServiceCall := .userPlaylists p.offset playlistPageSize p.answer

/-- The playlists on the page; a failure shows none. -/
def items (p : PageRequest) : List RemotePlaylist := (p.answer.toOption.map Page.items).getD []

theorem mem_items {p : PageRequest} {q : RemotePlaylist} :
    q ∈ p.items ↔ ∃ page, p.answer = .ok page ∧ q ∈ page.items := by
  unfold items
  cases p.answer with
  | error e => simp [Except.toOption]
  | ok page => simp [Except.toOption]

/-- The page, if there is one, shows a part of a listing from its offset on, and nothing only at the
end; and it says whether more is left. -/
def Shows (p : PageRequest) (listing : List RemotePlaylist) : Prop :=
  ∀ page, p.answer = .ok page →
    page.items <+: listing.drop p.offset ∧
    (page.items = [] → listing.length ≤ p.offset) ∧
    (page.hasNext = true ↔ p.offset + page.items.length < listing.length)

/-- A page and what comes after it make up the rest of the listing. -/
theorem Shows.drop_eq {p : PageRequest} {listing : List RemotePlaylist}
    {page : Page RemotePlaylist} (h : p.Shows listing) (hanswer : p.answer = .ok page) :
    listing.drop p.offset = page.items ++ listing.drop (p.offset + page.items.length) :=
  drop_eq_append_drop (h page hanswer).1

end PageRequest

/-! ### Lookups -/

/-- The ways in which a playlist is looked for from an offset on: the pages asked for, and what is
found or the failure. -/
inductive Lookup (name : String) :
    Nat → List PageRequest → Except RemoteError (Option String) → Prop
  /-- The page cannot be had. -/
  | failed {offset : Nat} {e : RemoteError} : Lookup name offset [⟨offset, .error e⟩] (.error e)
  /-- The page has a playlist of the name. -/
  | found {offset : Nat} {page : Page RemotePlaylist} {p : RemotePlaylist}
    (hfound : page.items.find? (fun p => p.name = name) = some p) :
    Lookup name offset [⟨offset, .ok page⟩] (.ok (some p.id))
  /-- The page has none, and is the last. -/
  | exhausted {offset : Nat} {page : Page RemotePlaylist}
    (hnone : page.items.find? (fun p => p.name = name) = none)
    (hlast : (!page.hasNext || page.items.isEmpty) = true) :
    Lookup name offset [⟨offset, .ok page⟩] (.ok none)
  /-- More items are left than can be counted. -/
  | endless {offset : Nat} {page : Page RemotePlaylist}
    (hnext : (!page.hasNext || page.items.isEmpty) = false)
    (hlimit : listingLimit ≤ offset + page.items.length) :
    Lookup name offset [⟨offset, .ok page⟩] (.error .endlessListing)
  /-- The page has none, and the next is asked for. -/
  | more {offset : Nat} {page : Page RemotePlaylist} {pages : List PageRequest}
    {result : Except RemoteError (Option String)}
    (hnone : page.items.find? (fun p => p.name = name) = none)
    (hnext : (!page.hasNext || page.items.isEmpty) = false)
    (hrest : Lookup name (offset + page.items.length) pages result) :
    Lookup name offset (⟨offset, .ok page⟩ :: pages) result

namespace Lookup

variable {name : String} {offset : Nat} {pages : List PageRequest} {found : Option String}
  {result : Except RemoteError (Option String)} {e : RemoteError}

/-- What is found is the first playlist of its name on the pages, all of which could be had. -/
theorem of_ok (h : Lookup name offset pages (.ok found)) :
    (∀ p ∈ pages, ∃ page, p.answer = .ok page) ∧
      found = ((pages.flatMap PageRequest.items).find? fun p => p.name = name).map
        RemotePlaylist.id := by
  generalize hresult : Except.ok found = result at h
  induction h with
  | failed => exact absurd hresult (by simp)
  | @found offset page p hfound =>
    have hitems : (⟨offset, .ok page⟩ : PageRequest).items = page.items := rfl
    refine ⟨List.forall_mem_singleton.mpr ⟨page, rfl⟩, ?_⟩
    rw [List.flatMap_singleton, hitems, hfound, Except.ok.inj hresult, Option.map_some]
  | @exhausted offset page hnone _ =>
    have hitems : (⟨offset, .ok page⟩ : PageRequest).items = page.items := rfl
    refine ⟨List.forall_mem_singleton.mpr ⟨page, rfl⟩, ?_⟩
    rw [List.flatMap_singleton, hitems, hnone, Except.ok.inj hresult, Option.map_none]
  | endless _ _ => exact absurd hresult (by simp)
  | @more offset page pages result hnone _ _ ih =>
    have hitems : (⟨offset, .ok page⟩ : PageRequest).items = page.items := rfl
    obtain ⟨hall, hfound⟩ := ih hresult
    refine ⟨List.forall_mem_cons.mpr ⟨⟨page, rfl⟩, hall⟩, ?_⟩
    rw [List.flatMap_cons, List.find?_append, hitems, hnone, Option.none_or, hfound]

/-- A lookup fails with a page, or because the listing does not end. -/
theorem of_error (h : Lookup name offset pages (.error e)) :
    (∃ p ∈ pages, p.answer = .error e) ∨
      ∃ p ∈ pages, ∃ page, p.answer = .ok page ∧ page.hasNext = true ∧
        listingLimit ≤ p.offset + page.items.length := by
  generalize hresult : Except.error e = result at h
  induction h with
  | failed =>
    obtain rfl := Except.error.inj hresult
    exact Or.inl ⟨_, List.mem_singleton_self _, rfl⟩
  | found _ => exact absurd hresult (by simp)
  | exhausted _ _ => exact absurd hresult (by simp)
  | @endless offset page hnext hlimit =>
    obtain ⟨hmore, -⟩ := Bool.or_eq_false_iff.mp hnext
    refine Or.inr ⟨_, List.mem_singleton_self _, page, rfl, ?_, hlimit⟩
    exact (Bool.not_eq_false' _).mp hmore
  | more _ _ _ ih =>
    rcases ih hresult with ⟨p, hp, hanswer⟩ | ⟨p, hp, hrest⟩
    · exact Or.inl ⟨p, List.mem_cons_of_mem _ hp, hanswer⟩
    · exact Or.inr ⟨p, List.mem_cons_of_mem _ hp, hrest⟩

/-- **What is found is the first playlist of its name in the listing**, however the pages are
cut. -/
theorem eq_find {listing : List RemotePlaylist} (h : Lookup name offset pages (.ok found))
    (hshows : ∀ p ∈ pages, p.Shows listing) :
    found = ((listing.drop offset).find? fun p => p.name = name).map RemotePlaylist.id := by
  generalize hresult : Except.ok found = result at h
  induction h with
  | failed => exact absurd hresult (by simp)
  | found hfound =>
    rw [(hshows _ (List.mem_singleton_self _)).drop_eq rfl, List.find?_append, hfound, Option.some_or,
      Except.ok.inj hresult, Option.map_some]
  | @exhausted offset page hnone hlast =>
    have hpage := hshows _ (List.mem_singleton_self _)
    obtain ⟨-, hempty, hmore⟩ := hpage page rfl
    have hrest : listing.drop (offset + page.items.length) = [] := by
      rw [List.drop_eq_nil_iff]
      rcases Bool.or_eq_true_iff.mp hlast with hnext | hnil
      · refine Nat.le_of_not_lt fun hlt => ?_
        rw [hmore.mpr hlt] at hnext
        exact absurd hnext (by simp)
      · exact Nat.le_add_right_of_le (hempty (List.isEmpty_iff.mp hnil))
    rw [hpage.drop_eq rfl, hrest, List.append_nil, hnone, Except.ok.inj hresult, Option.map_none]
  | endless _ _ => exact absurd hresult (by simp)
  | more hnone _ _ ih =>
    rw [(hshows _ (List.mem_cons_self ..)).drop_eq rfl, List.find?_append, hnone, Option.none_or]
    exact ih (fun p hp => hshows p (List.mem_cons_of_mem _ hp)) hresult

end Lookup

variable {σ : Type}

/-- **Every run of the lookup goes in one of these ways**, recorded page by page. -/
theorem exists_lookup (service : PlaylistService σ) (name : String) (offset : Nat)
    (s : Session (Recorded σ)) :
    ∃ result pages after, Lookup name offset pages result ∧
      (findPlaylistFrom service.recorded name offset).outcome s = (result, after) ∧
      s.Follows service (pages.map PageRequest.call) [] after := by
  obtain ⟨answer, mid, hcall, hpage⟩ := exists_userPlaylists service s offset playlistPageSize
  rw [findPlaylistFrom]
  cases answer with
  | error e =>
    exact ⟨_, [⟨offset, .error e⟩], mid, .failed, Job.outcome_bind_of_error hcall, hpage⟩
  | ok page =>
    rw [Job.outcome_bind_of_ok hcall]
    cases hfind : page.items.find? fun p => decide (p.name = name) with
    | some p => exact ⟨_, [⟨offset, .ok page⟩], mid, .found hfind, rfl, hpage⟩
    | none =>
      dsimp only
      by_cases hlast : (!page.hasNext || page.items.isEmpty) = true
      · rw [dif_pos hlast]
        exact ⟨_, [⟨offset, .ok page⟩], mid, .exhausted hfind hlast, rfl, hpage⟩
      · have hnext : (!page.hasNext || page.items.isEmpty) = false := Bool.eq_false_iff.mpr hlast
        rw [dif_neg hlast]
        by_cases hlimit : offset + page.items.length < listingLimit
        · -- the lookup goes on after this page
          have hpos : 0 < page.items.length := page.length_items_pos hlast
          obtain ⟨result, pages, after, hlookup, houtcome, hrest⟩ :=
            exists_lookup service name (offset + page.items.length) mid
          rw [dif_pos hlimit]
          exact ⟨result, ⟨offset, .ok page⟩ :: pages, after, .more hfind hnext hlookup, houtcome,
            hpage.trans hrest⟩
        · rw [dif_neg hlimit]
          exact ⟨_, [⟨offset, .ok page⟩], mid, .endless hnext (Nat.le_of_not_lt hlimit), rfl, hpage⟩
termination_by listingLimit - offset

/-! ### Syncs -/

/-- What a sync asked of the service: the pages, the answer to creating the playlist, and the
playlist whose tracks were to be replaced with the answer to that. -/
structure SyncTrace where
  pages : List PageRequest
  creation : Option (Except RemoteError String)
  replacement : Option (String × Except RemoteError Unit)

/-- The requests as they are recorded. -/
def SyncTrace.calls (t : SyncTrace) (name : String) (tracks : List String) : List ServiceCall :=
  t.pages.map PageRequest.call ++
    (t.creation.toList.map (.createPlaylist name) ++
      t.replacement.toList.map fun (id, answer) => .replaceTracks id tracks answer)

theorem SyncTrace.mem_calls {t : SyncTrace} {name : String} {tracks : List String}
    {call : ServiceCall} : call ∈ t.calls name tracks ↔
      (∃ p ∈ t.pages, p.call = call) ∨
        (∃ answer, t.creation = some answer ∧ .createPlaylist name answer = call) ∨
        ∃ id answer, t.replacement = some (id, answer) ∧
          .replaceTracks id tracks answer = call := by
  simp only [calls, List.mem_append, List.mem_map, Option.mem_toList, Prod.exists]

/-- The ways in which a sync goes: what it asks for, and what it comes to. -/
inductive Syncing (name : String) (tracks : List String) :
    SyncTrace → Except RemoteError SyncOutcome → Prop
  /-- The listing cannot be gone through. -/
  | unlisted {pages : List PageRequest} {e : RemoteError}
    (hlookup : Lookup name 0 pages (.error e)) :
    Syncing name tracks ⟨pages, none, none⟩ (.error e)
  /-- A listed playlist bears the name. -/
  | found {pages : List PageRequest} {id : String} {answer : Except RemoteError Unit}
    (hlookup : Lookup name 0 pages (.ok (some id))) :
    Syncing name tracks ⟨pages, none, some (id, answer)⟩
      (answer.map fun _ => ⟨id, false, tracks.length⟩)
  /-- No listed playlist bears the name, and none can be created. -/
  | uncreated {pages : List PageRequest} {e : RemoteError}
    (hlookup : Lookup name 0 pages (.ok none)) :
    Syncing name tracks ⟨pages, some (.error e), none⟩ (.error e)
  /-- No listed playlist bears the name, and one is created. -/
  | created {pages : List PageRequest} {id : String} {answer : Except RemoteError Unit}
    (hlookup : Lookup name 0 pages (.ok none)) :
    Syncing name tracks ⟨pages, some (.ok id), some (id, answer)⟩
      (answer.map fun _ => ⟨id, true, tracks.length⟩)

/-- A sync succeeds when replacing the tracks does. -/
theorem answered_eq_ok {answer : Except RemoteError Unit} {outcome outcome' : SyncOutcome} :
    (answer.map fun _ => outcome) = .ok outcome' ↔ answer = .ok () ∧ outcome = outcome' := by
  cases answer with
  | error e => simp [Except.map]
  | ok _ => simp [Except.map]

theorem answered_eq_error {answer : Except RemoteError Unit} {outcome : SyncOutcome}
    {e : RemoteError} : (answer.map fun _ => outcome) = .error e ↔ answer = .error e := by
  cases answer with
  | error e => simp [Except.map]
  | ok _ => simp [Except.map]

/-- What can be said of all of these ways. -/
structure SyncTrace.Explains (t : SyncTrace) (name : String) (tracks : List String)
    (result : Except RemoteError SyncOutcome) : Prop where
  /-- A playlist is created only if no page shows one of the name, and all pages could be had. -/
  of_creation : t.creation.isSome →
    (∀ p ∈ t.pages, ∃ page, p.answer = .ok page) ∧
      ∀ p ∈ t.pages.flatMap PageRequest.items, p.name ≠ name
  /-- The tracks of a playlist are replaced only if it was created, or is the first of the name. -/
  of_replacement : ∀ id answer, t.replacement = some (id, answer) →
    t.creation = some (.ok id) ∨
      t.creation = none ∧ ((t.pages.flatMap PageRequest.items).find? fun p => p.name = name).map
        RemotePlaylist.id = some id
  of_ok : ∀ outcome, result = .ok outcome →
    t.replacement = some (outcome.playlistId, .ok ()) ∧
      outcome.created = t.creation.isSome ∧ outcome.tracks = tracks.length
  of_error : ∀ e, result = .error e →
    t.replacement = none ∨ ∃ id, t.replacement = some (id, .error e)

theorem Syncing.explains {name : String} {tracks : List String} {t : SyncTrace}
    {result : Except RemoteError SyncOutcome} (h : Syncing name tracks t result) :
    t.Explains name tracks result := by
  have hnone : ∀ {pages : List PageRequest}, Lookup name 0 pages (.ok none) →
      (∀ p ∈ pages, ∃ page, p.answer = .ok page) ∧
        ∀ p ∈ pages.flatMap PageRequest.items, p.name ≠ name := by
    intro pages hlookup
    obtain ⟨hpages, hfound⟩ := hlookup.of_ok
    refine ⟨hpages, fun p hp hname => ?_⟩
    have hfind := List.find?_eq_none.mp (Option.map_eq_none_iff.mp hfound.symm) p hp
    exact hfind (decide_eq_true hname)
  cases h with
  | unlisted hlookup =>
    exact ⟨fun h => absurd h (by simp), fun _ _ h => absurd h (by simp),
      fun _ h => absurd h (by simp), fun _ _ => Or.inl rfl⟩
  | @found pages id answer hlookup =>
    obtain ⟨-, hfound⟩ := hlookup.of_ok
    refine ⟨fun h => absurd h (by simp), fun id' answer' h => ?_, fun outcome h => ?_,
      fun e h => ?_⟩
    · obtain ⟨rfl, -⟩ := Prod.mk.inj (Option.some.inj h)
      exact Or.inr ⟨rfl, hfound.symm⟩
    · obtain ⟨rfl, rfl⟩ := answered_eq_ok.mp h
      exact ⟨rfl, rfl, rfl⟩
    · exact Or.inr ⟨id, by rw [answered_eq_error.mp h]⟩
  | uncreated hlookup =>
    exact ⟨fun _ => hnone hlookup, fun _ _ h => absurd h (by simp),
      fun _ h => absurd h (by simp), fun _ _ => Or.inl rfl⟩
  | @created pages id answer hlookup =>
    refine ⟨fun _ => hnone hlookup, fun id' answer' h => ?_, fun outcome h => ?_, fun e h => ?_⟩
    · obtain ⟨rfl, -⟩ := Prod.mk.inj (Option.some.inj h)
      exact Or.inl rfl
    · obtain ⟨rfl, rfl⟩ := answered_eq_ok.mp h
      exact ⟨rfl, rfl, rfl⟩
    · exact Or.inr ⟨id, by rw [answered_eq_error.mp h]⟩

/-- What a sync does with the playlist of the name, once there is one. -/
theorem exists_replacing (service : PlaylistService σ) (name id : String) (created : Bool)
    (tracks : List String) (s : Session (Recorded σ)) :
    ∃ answer after, (do
        Job.tell (.replacingTracks name tracks.length)
        Job.call (service.recorded.replaceTracks id tracks)
        return ⟨id, created, tracks.length⟩ : Job (Recorded σ) RemoteError SyncOutcome).outcome s
          = (answer.map fun _ => ⟨id, created, tracks.length⟩, after) ∧
      s.Follows service [.replaceTracks id tracks answer] [] after := by
  have htold : s.Follows service [] []
      { s with notices := s.notices ++ [.replacingTracks name tracks.length] } :=
    .of_notices _ rfl
  obtain ⟨answer, after, hcall, hreplace⟩ := exists_replaceTracks service
    { s with notices := s.notices ++ [.replacingTracks name tracks.length] } id tracks
  refine ⟨answer, after, ?_, htold.trans hreplace⟩
  rw [Job.outcome_bind_of_ok (Job.outcome_tell _ s)]
  cases answer with
  | error e => exact Job.outcome_bind_of_error hcall
  | ok _ => exact Job.outcome_bind_of_ok hcall

/-- **Every sync goes in one of these ways**, recorded call by call. -/
theorem exists_syncing (service : PlaylistService σ) (name : String) (tracks : List String)
    (s : Session (Recorded σ)) :
    ∃ result trace after, Syncing name tracks trace result ∧
      (syncPlaylist service.recorded name tracks).outcome s = (result, after) ∧
      s.Follows service (trace.calls name tracks) [] after := by
  obtain ⟨result, pages, mid, hlookup, hfind, hpages⟩ := exists_lookup service name 0 s
  rw [← findPlaylist] at hfind
  cases result with
  | error e =>
    refine ⟨.error e, ⟨pages, none, none⟩, mid, .unlisted hlookup, ?_, ?_⟩
    · exact Job.outcome_bind_of_error hfind
    · rw [← List.append_nil (pages.map PageRequest.call)] at hpages
      exact hpages
  | ok found =>
    unfold syncPlaylist
    rw [Job.outcome_bind_of_ok hfind]
    cases found with
    | some id =>
      obtain ⟨answer, after, hreplacing, hreplace⟩ :=
        exists_replacing service name id false tracks mid
      exact ⟨_, ⟨pages, none, some (id, answer)⟩, after, .found hlookup, hreplacing,
        hpages.trans hreplace⟩
    | none =>
      have htold : mid.Follows service [] []
          { mid with notices := mid.notices ++ [.creatingPlaylist name] } := .of_notices _ rfl
      obtain ⟨creation, last, hcall, hcreate⟩ := exists_createPlaylist service
        { mid with notices := mid.notices ++ [.creatingPlaylist name] } name
      dsimp only
      rw [Job.outcome_bind_of_ok (Job.outcome_tell _ mid)]
      cases creation with
      | error e =>
        exact ⟨_, ⟨pages, some (.error e), none⟩, last, .uncreated hlookup,
          Job.outcome_bind_of_error hcall, hpages.trans (htold.trans hcreate)⟩
      | ok id =>
        obtain ⟨answer, after, hreplacing, hreplace⟩ :=
          exists_replacing service name id true tracks last
        exact ⟨_, ⟨pages, some (.ok id), some (id, answer)⟩, after, .created hlookup,
          (Job.outcome_bind_of_ok hcall).trans hreplacing,
          hpages.trans (htold.trans (hcreate.trans hreplace))⟩

/-! ### Recording changes nothing -/

theorem mirrors_findPlaylistFrom (service : PlaylistService σ) (name : String) (offset : Nat) :
    (findPlaylistFrom service.recorded name offset).Mirrors
      (findPlaylistFrom service name offset) := by
  rw [findPlaylistFrom, findPlaylistFrom]
  refine (Job.Mirrors.call _ _).bind fun page => ?_
  split
  · exact .pure _
  · split
    · exact .pure _
    · split
      next hnext _ =>
        have hpos : 0 < page.items.length := page.length_items_pos hnext
        exact mirrors_findPlaylistFrom service name (offset + page.items.length)
      next => exact .throw _
termination_by listingLimit - offset

theorem mirrors_syncPlaylist (service : PlaylistService σ) (name : String)
    (tracks : List String) :
    (syncPlaylist service.recorded name tracks).Mirrors (syncPlaylist service name tracks) := by
  unfold syncPlaylist
  refine (mirrors_findPlaylistFrom service name 0).bind fun found => ?_
  have hreplace : ∀ id created, (do
      Job.tell (.replacingTracks name tracks.length)
      Job.call (service.recorded.replaceTracks id tracks)
      return ⟨id, created, tracks.length⟩ : Job (Recorded σ) RemoteError SyncOutcome).Mirrors (do
        Job.tell (.replacingTracks name tracks.length)
        Job.call (service.replaceTracks id tracks)
        return ⟨id, created, tracks.length⟩) := fun _ _ =>
    (Job.Mirrors.tell _).bind fun _ => (Job.Mirrors.call _ _).bind fun _ => .pure _
  cases found with
  | some id => exact hreplace id false
  | none =>
    refine (Job.Mirrors.tell _).bind fun _ => (Job.Mirrors.call _ _).bind fun id => ?_
    exact hreplace id true

end SmartPlaylist
