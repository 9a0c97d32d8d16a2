import SmartPlaylist.Proofs.Playlist.Sync

/-!
# Finding a playlist in a listing

A service lists the playlists of the user in pages, each as long as it likes, and says of each page
whether anything is left.  The lookup asks for one page after another and counts what it was shown,
so its pages lie behind one another in the listing, up to the first that shows a playlist of the
name.  Nothing of the listing is passed over and nothing is shown twice; so what is found is the
first playlist of the name, and where nothing is found the pages were the whole listing.

## Main definitions

* `PlaylistService.Lists` — a service that lists these playlists, in pages of any lengths.
* `PlaylistService.AnswersPages` — a service that can always give a page.
* `FirstNamed` — the first playlist of a name in a listing, or that there is none.
* `PageWalk` — the pages that a lookup asks for, whatever comes of it.
* `Scans` — what is asked for on the way through a listing, and what comes of it.

## Main results

* `PageWalk.takes_of_runs` — no page is asked for from beyond the listing.
* `Lookup.scans` — the pages lie behind one another, and none follows the one with the playlist.
* `findPlaylist_scans` — **the lookup goes once through the listing, up to the first playlist of the
  name.**
-/

namespace SmartPlaylist

variable {σ : Type} {service : PlaylistService σ} {listing : List RemotePlaylist} {name : String}

/-! ### Services that list -/

/-- The service lists these playlists.  Whenever it answers, it gives some of the playlists that
follow a position: at least one unless the end is reached, no more than were asked for, and it says
whether any are left. -/
def PlaylistService.Lists (service : PlaylistService σ) (listing : List RemotePlaylist) : Prop :=
  ∀ (r : σ) (offset limit : Nat) (page : Page RemotePlaylist), offset ≤ listing.length → 0 < limit →
    (service.userPlaylists offset limit r).1.result = .ok page →
      page.items <+: listing.drop offset ∧ page.items.length ≤ limit ∧
        (page.items = [] → offset = listing.length) ∧
        (page.hasNext = true ↔ offset + page.items.length < listing.length)

/-- The service can give a page from any position of the listing on. -/
def PlaylistService.AnswersPages (service : PlaylistService σ) (listing : List RemotePlaylist) :
    Prop :=
  ∀ (r : σ) (offset limit : Nat), offset ≤ listing.length → 0 < limit →
    ∃ page, (service.userPlaylists offset limit r).1.result = .ok page

namespace PageRequest

variable {p : PageRequest} {page : Page RemotePlaylist}

theorem items_of_ok (h : p.answer = .ok page) : p.items = page.items := by
  rw [items, h]
  rfl

theorem items_of_error {e : RemoteError} (h : p.answer = .error e) : p.items = [] := by
  rw [items, h]
  rfl

/-- What a service that lists gives is a part of the listing, and no more than was asked for. -/
theorem shows_of_takes {r r' : σ} (hlists : service.Lists listing)
    (hoffset : p.offset ≤ listing.length) (h : p.call.Takes service r r') :
    p.Shows listing ∧ p.items.length ≤ playlistPageSize := by
  have hgives : (service.userPlaylists p.offset playlistPageSize r).1.result = p.answer := h.1
  constructor
  · intro page hpage
    obtain ⟨hbegins, -, hempty, hnext⟩ :=
      hlists r p.offset playlistPageSize page hoffset (by decide) (hgives.trans hpage)
    exact ⟨hbegins, fun hnil => Nat.le_of_eq (hempty hnil).symm, hnext⟩
  · rcases hanswer : p.answer with e | page
    · rw [items_of_error hanswer]
      exact Nat.zero_le _
    · rw [items_of_ok hanswer]
      exact (hlists r p.offset playlistPageSize page hoffset (by decide) (hgives.trans hanswer)).2.1

/-- The position after a page lies within the listing. -/
theorem Shows.offset_add_le (h : p.Shows listing) (hoffset : p.offset ≤ listing.length)
    (hanswer : p.answer = .ok page) : p.offset + page.items.length ≤ listing.length := by
  have hlength := (h page hanswer).1.length_le
  rw [List.length_drop] at hlength
  omega

end PageRequest

/-! ### The first of a name -/

/-- The playlist with this id is the first of its name in the listing; without an id, no playlist
bears the name. -/
def FirstNamed (listing : List RemotePlaylist) (name : String) : Option String → Prop
  | some id => ∃ front p back, listing = front ++ p :: back ∧ p.id = id ∧ p.name = name ∧
      ∀ q ∈ front, q.name ≠ name
  | none => ∀ p ∈ listing, p.name ≠ name

theorem firstNamed_find (listing : List RemotePlaylist) (name : String) :
    FirstNamed listing name
      ((listing.find? fun p => p.name = name).map RemotePlaylist.id) := by
  cases hfind : listing.find? fun p => decide (p.name = name) with
  | none =>
    intro p hp hname
    exact List.find?_eq_none.mp hfind p hp (decide_eq_true hname)
  | some p =>
    obtain ⟨hname, front, back, hlisting, hfront⟩ := List.find?_eq_some_iff_append.mp hfind
    refine ⟨front, p, back, hlisting, rfl, of_decide_eq_true hname, ?_⟩
    intro q hq hsame
    exact absurd (decide_eq_true hsame) (by simpa using hfront q hq)

/-! ### Pages behind one another -/

/-- The pages that a lookup asks for from an offset on.  After a page another is asked for only if
it shows something, but no playlist of the name. -/
inductive PageWalk (name : String) : Nat → List PageRequest → Prop
  | last {offset : Nat} (answer : Except RemoteError (Page RemotePlaylist)) :
    PageWalk name offset [⟨offset, answer⟩]
  | more {offset : Nat} {page : Page RemotePlaylist} {pages : List PageRequest}
    (hnone : ∀ r ∈ page.items, r.name ≠ name) (hpos : 0 < page.items.length)
    (hrest : PageWalk name (offset + page.items.length) pages) :
    PageWalk name offset (⟨offset, .ok page⟩ :: pages)

theorem Lookup.walk {offset : Nat} {pages : List PageRequest}
    {result : Except RemoteError (Option String)} (h : Lookup name offset pages result) :
    PageWalk name offset pages := by
  induction h with
  | failed => exact .last _
  | found _ => exact .last _
  | exhausted _ _ => exact .last _
  | endless _ _ => exact .last _
  | @more offset page pages result hnone hnext _ ih =>
    refine .more ?_ (page.length_items_pos (Bool.eq_false_iff.mp hnext)) ih
    intro r hr hname
    exact List.find?_eq_none.mp hnone r hr (decide_eq_true hname)

namespace PageWalk

variable {offset : Nat} {pages front back : List PageRequest} {p q : PageRequest}

/-- Each page is asked for where the pages before it end. -/
theorem offset_eq (h : PageWalk name offset pages) (hpages : pages = front ++ p :: back) :
    p.offset = offset + (front.flatMap PageRequest.items).length := by
  induction h generalizing front with
  | last answer =>
    obtain ⟨rfl, rfl, -⟩ := eq_of_singleton_eq_append hpages
    rfl
  | @more offset page pages _ _ _ ih =>
    cases front with
    | nil =>
      obtain ⟨rfl, -⟩ := List.cons.inj hpages
      rfl
    | cons q front =>
      obtain ⟨rfl, hrest⟩ := List.cons.inj hpages
      rw [ih hrest, List.flatMap_cons, List.length_append, PageRequest.items_of_ok rfl,
        Nat.add_assoc]

/-- A page after which another is asked for could be had, and shows no playlist of the name. -/
theorem passed (h : PageWalk name offset pages) (hpages : pages = front ++ p :: q :: back) :
    (∃ page, p.answer = .ok page) ∧ ∀ r ∈ p.items, r.name ≠ name := by
  induction h generalizing front with
  | last answer => exact absurd (eq_of_singleton_eq_append hpages).2.2 (List.cons_ne_nil q back)
  | @more offset page pages hnone _ _ ih =>
    cases front with
    | nil =>
      obtain ⟨rfl, -⟩ := List.cons.inj hpages
      exact ⟨⟨page, rfl⟩, hnone⟩
    | cons _ front => exact ih (List.cons.inj hpages).2

/-- All pages but the last show something. -/
theorem length_le (h : PageWalk name offset pages) :
    pages.length ≤ (pages.flatMap PageRequest.items).length + 1 := by
  induction h with
  | last answer => exact Nat.le_add_left _ _
  | @more offset page pages _ hpos _ ih =>
    rw [List.flatMap_cons, List.length_append, PageRequest.items_of_ok rfl, List.length_cons]
    omega

/-- The pages that are parts of a listing lie behind one another in it. -/
theorem items_prefix (h : PageWalk name offset pages) (hshows : ∀ p ∈ pages, p.Shows listing) :
    pages.flatMap PageRequest.items <+: listing.drop offset := by
  induction h with
  | @last offset answer =>
    rw [List.flatMap_singleton]
    cases answer with
    | error e => exact List.nil_prefix
    | ok page => exact (hshows _ (List.mem_singleton_self _) page rfl).1
  | @more offset page pages _ _ _ ih =>
    have hpage := hshows _ (List.mem_cons_self ..)
    have hrest := ih fun p hp => hshows p (List.mem_cons_of_mem _ hp)
    rw [List.flatMap_cons, PageRequest.items_of_ok rfl, hpage.drop_eq rfl]
    exact (List.prefix_append_right_inj _).mpr hrest

/-- No page of a service that lists is asked for from beyond the listing: each page ends within it,
and the next is asked for there. -/
theorem takes_of_runs {r r' : σ} (hlists : service.Lists listing)
    (h : PageWalk name offset pages) (hoffset : offset ≤ listing.length)
    (hruns : service.Runs r (pages.map PageRequest.call) r') :
    ∀ p ∈ pages, p.offset ≤ listing.length ∧ ∃ q q', p.call.Takes service q q' := by
  induction h generalizing r with
  | last answer =>
    exact List.forall_mem_singleton.mpr ⟨hoffset, r, r', hruns.takes_of_single⟩
  | @more offset page pages _ _ _ ih =>
    obtain ⟨q, hcall, hrest⟩ := hruns.exists_of_cons
    obtain ⟨hpage, -⟩ := PageRequest.shows_of_takes hlists hoffset hcall
    have hnext : offset + page.items.length ≤ listing.length := hpage.offset_add_le hoffset rfl
    exact List.forall_mem_cons.mpr ⟨⟨hoffset, r, q, hcall⟩, ih hnext hrest⟩

end PageWalk

/-! ### The way through a listing -/

/-- A listing is gone through once, page by page. -/
structure Scans (listing : List RemotePlaylist) (name : String) (pages : List PageRequest)
    (result : Except RemoteError (Option String)) : Prop where
  /-- Each page is asked for where the pages before it end. -/
  offset_eq : ∀ front p back, pages = front ++ p :: back →
    p.offset = (front.flatMap PageRequest.items).length
  /-- The pages are the listing as far as it was read, no playlist twice and none left out. -/
  items_prefix : pages.flatMap PageRequest.items <+: listing
  length_items_le : ∀ p ∈ pages, p.items.length ≤ playlistPageSize
  length_le : pages.length ≤ listing.length + 1
  /-- Nothing is asked for after a failure, nor after a page with a playlist of the name. -/
  passed : ∀ front p q back, pages = front ++ p :: q :: back →
    (∃ page, p.answer = .ok page) ∧ ∀ r ∈ p.items, r.name ≠ name
  /-- It fails with a page that cannot be had, and only so. -/
  error_iff : ∀ e, result = .error e ↔ ∃ p ∈ pages, p.answer = .error e
  firstNamed : ∀ found, result = .ok found → FirstNamed listing name found

namespace Lookup

variable {offset : Nat} {pages : List PageRequest} {result : Except RemoteError (Option String)}
  {e : RemoteError}

/-- The lookup fails with the page that cannot be had. -/
theorem eq_error {p : PageRequest} (h : Lookup name offset pages result) (hp : p ∈ pages)
    (hanswer : p.answer = .error e) : result = .error e := by
  induction h with
  | failed =>
    obtain rfl := List.mem_singleton.mp hp
    exact congrArg Except.error (Except.error.inj hanswer)
  | found _ =>
    obtain rfl := List.mem_singleton.mp hp
    exact absurd hanswer (by simp)
  | exhausted _ _ =>
    obtain rfl := List.mem_singleton.mp hp
    exact absurd hanswer (by simp)
  | endless _ _ =>
    obtain rfl := List.mem_singleton.mp hp
    exact absurd hanswer (by simp)
  | more _ _ _ ih =>
    rcases List.mem_cons.mp hp with rfl | hp
    · exact absurd hanswer (by simp)
    · exact ih hp

/-- In a listing that can be counted, the lookup fails only with a page. -/
theorem eq_error_iff (h : Lookup name offset pages result)
    (hshows : ∀ p ∈ pages, p.Shows listing) (hlength : listing.length < listingLimit) :
    result = .error e ↔ ∃ p ∈ pages, p.answer = .error e := by
  constructor
  · rintro rfl
    rcases h.of_error with hfailure | ⟨p, hp, page, hanswer, hnext, hlimit⟩
    · exact hfailure
    · -- a page after which more is left ends before the listing does
      have hlt := (hshows p hp page hanswer).2.2.mp hnext
      omega
  · rintro ⟨p, hp, hanswer⟩
    exact h.eq_error hp hanswer

/-- A lookup from the beginning goes once through the listing that its pages are parts of. -/
theorem scans (h : Lookup name 0 pages result) (hlength : listing.length < listingLimit)
    (hpages : ∀ p ∈ pages, p.Shows listing ∧ p.items.length ≤ playlistPageSize) :
    Scans listing name pages result := by
  have hshows : ∀ p ∈ pages, p.Shows listing := fun p hp => (hpages p hp).1
  have hprefix : pages.flatMap PageRequest.items <+: listing := h.walk.items_prefix hshows
  refine ⟨?_, hprefix, fun p hp => (hpages p hp).2, ?_, ?_, ?_, ?_⟩
  · intro front p back heq
    rw [h.walk.offset_eq heq, Nat.zero_add]
  · exact Nat.le_trans h.walk.length_le (Nat.add_le_add_right hprefix.length_le 1)
  · intro front p q back heq
    exact h.walk.passed heq
  · intro e
    exact h.eq_error_iff hshows hlength
  · rintro found rfl
    rw [h.eq_find hshows, List.drop_zero]
    exact firstNamed_find listing name

end Lookup

/-- **The lookup goes once through the listing, up to the first playlist of the name.**  What it
asks for, and what it finds or fails with, is that of such a way through; and a service that can
always give a page does not make it fail. -/
theorem findPlaylist_scans (service : PlaylistService σ) (listing : List RemotePlaylist)
    (hlists : service.Lists listing) (hlength : listing.length < 0x1_0000_0000) (name : String)
    (s : Session σ) :
    ∃ (pages : List PageRequest) (result : Except RemoteError (Option String))
      (after : Session (Recorded σ)),
      (findPlaylist service name).outcome s = (result, after.forget) ∧
      (findPlaylist service.recorded name).outcome s.recording = (result, after) ∧
      after.remote.calls = pages.map PageRequest.call ∧
      Scans listing name pages result ∧
      (service.AnswersPages listing →
        ∃ found, result = .ok found ∧ FirstNamed listing name found) := by
  obtain ⟨result, pages, after, hlookup, houtcome, hfollows⟩ :=
    exists_lookup service name 0 s.recording
  have hmirror := (mirrors_findPlaylistFrom service name 0).outcome_eq houtcome
  have htakes := hlookup.walk.takes_of_runs hlists (Nat.zero_le _) hfollows.runs
  have hpages : ∀ p ∈ pages, p.Shows listing ∧ p.items.length ≤ playlistPageSize := by
    intro p hp
    obtain ⟨hoffset, q, q', hcall⟩ := htakes p hp
    exact PageRequest.shows_of_takes hlists hoffset hcall
  have hscans : Scans listing name pages result := hlookup.scans hlength hpages
  refine ⟨pages, result, after, hmirror, houtcome, hfollows.calls_eq, hscans, ?_⟩
  intro hanswers
  cases result with
  | ok found => exact ⟨found, rfl, hscans.firstNamed found rfl⟩
  | error e =>
    obtain ⟨p, hp, hanswer⟩ := (hscans.error_iff e).mp rfl
    obtain ⟨hoffset, q, q', hcall⟩ := htakes p hp
    obtain ⟨page, hpage⟩ := hanswers q p.offset playlistPageSize hoffset (by decide)
    have hgives : (service.userPlaylists p.offset playlistPageSize q).1.result = p.answer := hcall.1
    rw [hpage, hanswer] at hgives
    exact absurd hgives (by simp)

/-! #### Pages of two -/

/-- A service that lists playlists two by two, whatever it is asked for. -/
def pairsListing (listing : List RemotePlaylist) : PlaylistService Unit where
  userPlaylists offset limit := fun _ =>
    let items := (listing.drop offset).take (min limit 2)
    (⟨.ok ⟨items, offset + items.length < listing.length⟩, []⟩, ())
  createPlaylist _ := fun _ => (⟨.ok "", []⟩, ())
  replaceTracks _ _ := fun _ => (⟨.ok (), []⟩, ())
  recommendations _ _ := fun _ => (⟨.ok [], []⟩, ())

theorem lists_pairsListing (listing : List RemotePlaylist) :
    (pairsListing listing).Lists listing := by
  intro r offset limit page hoffset hlimit hanswer
  obtain rfl := Except.ok.inj hanswer
  refine ⟨List.take_prefix _ _, ?_, fun hempty => ?_, by simp⟩
  · exact Nat.le_trans (List.length_take_le _ _) (Nat.min_le_left _ _)
  · have hlength := congrArg List.length hempty
    simp only [List.length_take, List.length_drop, List.length_nil] at hlength
    omega

theorem answersPages_pairsListing (listing : List RemotePlaylist) :
    (pairsListing listing).AnswersPages listing := fun _ _ _ _ _ => ⟨_, rfl⟩

/-- Five playlists, of which the third and the fourth bear one name. -/
def fivePlaylists : List RemotePlaylist :=
  [⟨"1", "a"⟩, ⟨"2", "B"⟩, ⟨"3", "b"⟩, ⟨"4", "b"⟩, ⟨"5", "c"⟩]

/-- A session with the service. -/
def pairsSession : Session Unit where
  database := {}
  remote := ()
  entropy := { word := fun _ => 0 }

/-- The third playlist is found on the second page, and the third page is not asked for. -/
theorem findPlaylist_pairsListing :
    ∃ (pages : List PageRequest) (after : Session (Recorded Unit)),
      (findPlaylist (pairsListing fivePlaylists).recorded "b").outcome pairsSession.recording
        = (.ok (some "3"), after) ∧
      after.remote.calls = pages.map PageRequest.call ∧ pages.length = 2 ∧
      Scans fivePlaylists "b" pages (.ok (some "3")) ∧
      FirstNamed fivePlaylists "b" (some "3") := by
  obtain ⟨pages, result, after, -, houtcome, hcalls, hscans, hfound⟩ :=
    findPlaylist_scans (pairsListing fivePlaylists) fivePlaylists (lists_pairsListing _) (by decide)
      "b" pairsSession
  obtain ⟨found, rfl, hfirst⟩ := hfound (answersPages_pairsListing _)
  have hafter : after = ((findPlaylist (pairsListing fivePlaylists).recorded "b").outcome
      pairsSession.recording).2 := (congrArg Prod.snd houtcome).symm
  have hid : (Except.ok found : Except RemoteError (Option String)) = .ok (some "3") := by
    refine (congrArg Prod.fst houtcome).symm.trans ?_
    decide +kernel
  have hcount : after.remote.calls.length = 2 := by
    rw [hafter]
    decide +kernel
  obtain rfl := Except.ok.inj hid
  rw [hcalls, List.length_map] at hcount
  exact ⟨pages, after, houtcome, hcalls, hcount, hscans, hfirst⟩

end SmartPlaylist
