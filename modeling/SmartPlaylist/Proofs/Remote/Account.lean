import Mathlib.Data.List.Nodup
import SmartPlaylist.Proofs.Playlist.Sync

/-!
# A remote account

An account holds playlists in a fixed order, no two of them with the same id.  It serves them page
by page, puts a new playlist last, and replaces the tracks of the playlist with a given id.  Any
call may fail instead, and then has no effect.

## Main definitions

* `AccountPlaylist`, `RemoteAccount` — the playlists.
* `Circumstances` — which calls fail, and which ids new playlists get.
* `Circumstances.service` — the account as a service.

## Main results

* `Circumstances.takes_createPlaylist`, `Circumstances.takes_replaceTracks` — what a call does.
* `Circumstances.keepsButReplacing` — only replacing changes the playlists that are there.
* `Circumstances.lists_of_runs` — **listing changes nothing, and every page shows the listing.**
* `RemoteAccount.playlists_replace` — replacing changes the playlist with the id, and no other.
-/

namespace SmartPlaylist

/-! ### Accounts -/

/-- A playlist of an account. -/
structure AccountPlaylist where
  id : String
  name : String
  tracks : List String
  deriving DecidableEq, Repr

/-- What a listing says about a playlist. -/
def AccountPlaylist.listed (p : AccountPlaylist) : RemotePlaylist := ⟨p.id, p.name⟩

/-- The playlist with other tracks, if it has the id. -/
def AccountPlaylist.replaced (id : String) (tracks : List String) (p : AccountPlaylist) :
    AccountPlaylist :=
  if p.id = id then { p with tracks } else p

theorem AccountPlaylist.listed_replaced (id : String) (tracks : List String)
    (p : AccountPlaylist) : (p.replaced id tracks).listed = p.listed := by
  unfold replaced
  split <;> rfl

/-- The playlists of a user, in the order in which they are listed. -/
structure RemoteAccount where
  playlists : List AccountPlaylist
  /-- How many calls were made so far. -/
  calls : Nat := 0
  /-- No two playlists have the same id. -/
  nodup_ids : (playlists.map AccountPlaylist.id).Nodup

namespace RemoteAccount

/-- The playlists as they are listed. -/
def listing (a : RemoteAccount) : List RemotePlaylist := a.playlists.map AccountPlaylist.listed

/-- The part of the listing from an offset on, of at most so many playlists. -/
def page (a : RemoteAccount) (offset limit : Nat) : Page RemotePlaylist where
  items := (a.listing.drop offset).take limit
  hasNext := offset + ((a.listing.drop offset).take limit).length < a.listing.length

/-- The account with an empty playlist more. -/
def create (a : RemoteAccount) (id name : String) (h : id ∉ a.playlists.map AccountPlaylist.id) :
    RemoteAccount where
  playlists := a.playlists ++ [⟨id, name, []⟩]
  calls := a.calls
  nodup_ids := by
    rw [List.map_append, List.map_singleton]
    exact List.nodup_append_comm.mp (List.nodup_cons.mpr ⟨h, a.nodup_ids⟩)

theorem ids_replaced (playlists : List AccountPlaylist) (id : String) (tracks : List String) :
    (playlists.map (AccountPlaylist.replaced id tracks)).map AccountPlaylist.id
      = playlists.map AccountPlaylist.id := by
  rw [List.map_map]
  refine List.map_congr_left fun p _ => ?_
  exact congrArg RemotePlaylist.id (p.listed_replaced id tracks)

/-- The account with other tracks in the playlist with the id. -/
def replace (a : RemoteAccount) (id : String) (tracks : List String) : RemoteAccount where
  playlists := a.playlists.map (AccountPlaylist.replaced id tracks)
  calls := a.calls
  nodup_ids := by
    rw [ids_replaced]
    exact a.nodup_ids

/-- **Replacing changes the playlist with the id, and no other.** -/
theorem playlists_replace {a : RemoteAccount} {front back : List AccountPlaylist}
    {p : AccountPlaylist} (h : a.playlists = front ++ p :: back) (tracks : List String) :
    (a.replace p.id tracks).playlists = front ++ { p with tracks } :: back := by
  have hnodup := a.nodup_ids
  rw [h, List.map_append, List.map_cons, List.nodup_middle, ← List.map_append,
    List.nodup_cons] at hnodup
  -- the others have other ids
  have hothers : ∀ q ∈ front ++ back, q.replaced p.id tracks = q := by
    intro q hq
    refine if_neg fun hid => hnodup.1 ?_
    rw [← hid]
    exact List.mem_map_of_mem hq
  have hfront : front.map (AccountPlaylist.replaced p.id tracks) = front :=
    (List.map_congr_left fun q hq => hothers q (List.mem_append_left _ hq)).trans (List.map_id _)
  have hback : back.map (AccountPlaylist.replaced p.id tracks) = back :=
    (List.map_congr_left fun q hq => hothers q (List.mem_append_right _ hq)).trans (List.map_id _)
  have hself : p.replaced p.id tracks = { p with tracks } := if_pos rfl
  show a.playlists.map (AccountPlaylist.replaced p.id tracks) = _
  rw [h, List.map_append, List.map_cons, hfront, hback, hself]

/-- A page shows a part of the listing. -/
theorem shows_page (a : RemoteAccount) {p : PageRequest}
    (h : ∀ page, p.answer = .ok page → page = a.page p.offset playlistPageSize) :
    p.Shows a.listing := by
  intro page hpage
  rw [h page hpage]
  refine ⟨List.take_prefix _ _, fun hnil => ?_, decide_eq_true_iff⟩
  rcases List.take_eq_nil_iff.mp hnil with hsize | hdrop
  · exact absurd hsize (by decide)
  · exact List.drop_eq_nil_iff.mp hdrop

end RemoteAccount

/-! ### The account as a service -/

/-- What does not depend on the account: which calls fail, by their number, and which ids new
playlists get. -/
structure Circumstances where
  failure : Nat → Option RemoteError
  newId : RemoteAccount → String
  newId_fresh : ∀ a, newId a ∉ a.playlists.map AccountPlaylist.id

namespace Circumstances

variable {α : Type} (c : Circumstances)

/-- A call, unless it fails. -/
def perform (act : RemoteAccount → Except RemoteError α × RemoteAccount) :
    Call RemoteAccount α := fun a =>
  match c.failure a.calls with
  | some e => ({ result := .error e }, { a with calls := a.calls + 1 })
  | none => ({ result := (act a).1 }, { (act a).2 with calls := a.calls + 1 })

/-- The account as a service. -/
def service : PlaylistService RemoteAccount where
  userPlaylists offset limit := c.perform fun a => (.ok (a.page offset limit), a)
  createPlaylist name := c.perform fun a =>
    (.ok (c.newId a), a.create (c.newId a) name (c.newId_fresh a))
  replaceTracks id tracks := c.perform fun a =>
    if id ∈ a.playlists.map AccountPlaylist.id then (.ok (), a.replace id tracks)
    else (.error (.http (.status 404)), a)
  recommendations _ _ := c.perform fun a => (.ok [], a)

variable {c} {a a' : RemoteAccount} {name id : String} {tracks : List String}

/-- A call fails without effect, or does what it is for; it is counted either way. -/
theorem gives_perform {act : RemoteAccount → Except RemoteError α × RemoteAccount}
    {answer : Except RemoteError α} (h : Gives (c.perform act) answer a a') :
    a'.calls = a.calls + 1 ∧
      ((∃ e, c.failure a.calls = some e ∧ answer = .error e ∧ a'.playlists = a.playlists) ∨
        answer = (act a).1 ∧ a'.playlists = (act a).2.playlists) := by
  obtain ⟨rfl, rfl⟩ := h
  unfold perform
  cases hfailure : c.failure a.calls with
  | some e => exact ⟨rfl, Or.inl ⟨e, rfl, rfl, rfl⟩⟩
  | none => exact ⟨rfl, Or.inr ⟨rfl, rfl⟩⟩

/-- Creating fails without effect, or puts an empty playlist with a new id last. -/
theorem takes_createPlaylist {answer : Except RemoteError String}
    (h : (ServiceCall.createPlaylist name answer).Takes c.service a a') :
    a'.calls = a.calls + 1 ∧
      ((∃ e, c.failure a.calls = some e ∧ answer = .error e ∧ a'.playlists = a.playlists) ∨
        ∃ id, answer = .ok id ∧ a'.playlists = a.playlists ++ [⟨id, name, []⟩]) := by
  obtain ⟨hcalls, hfailed | ⟨hanswer, hafter⟩⟩ := gives_perform h
  · exact ⟨hcalls, Or.inl hfailed⟩
  · exact ⟨hcalls, Or.inr ⟨c.newId a, hanswer, hafter⟩⟩

/-- Replacing fails without effect, or changes the tracks; the account has the playlist. -/
theorem takes_replaceTracks {answer : Except RemoteError Unit}
    (h : (ServiceCall.replaceTracks id tracks answer).Takes c.service a a')
    (hid : id ∈ a.playlists.map AccountPlaylist.id) :
    a'.calls = a.calls + 1 ∧
      ((∃ e, c.failure a.calls = some e ∧ answer = .error e ∧ a'.playlists = a.playlists) ∨
        answer = .ok () ∧ a'.playlists = (a.replace id tracks).playlists) := by
  obtain ⟨hcalls, hfailed | ⟨hanswer, hafter⟩⟩ := gives_perform h
  · exact ⟨hcalls, Or.inl hfailed⟩
  · rw [if_pos hid] at hanswer hafter
    exact ⟨hcalls, Or.inr ⟨hanswer, hafter⟩⟩

/-- Only replacing changes the playlists that are there. -/
theorem keepsButReplacing (c : Circumstances) (playlists : List AccountPlaylist) :
    c.service.KeepsButReplacing fun a => playlists <+: a.playlists := by
  intro call hcall a a' htakes hplaylists
  cases call with
  | userPlaylists offset limit answer =>
    obtain ⟨-, ⟨-, -, -, hsame⟩ | ⟨-, hsame⟩⟩ := gives_perform htakes
    · rwa [hsame]
    · rwa [hsame]
  | createPlaylist name answer =>
    obtain ⟨-, ⟨-, -, -, hsame⟩ | ⟨id, -, hcreated⟩⟩ := takes_createPlaylist htakes
    · rwa [hsame]
    · rw [hcreated]
      exact hplaylists.trans (List.prefix_append _ _)
  | replaceTracks id tracks answer => exact absurd rfl (hcall id tracks answer)
  | recommendations seeds limit answer =>
    obtain ⟨-, ⟨-, -, -, hsame⟩ | ⟨-, hsame⟩⟩ := gives_perform htakes
    · rwa [hsame]
    · rwa [hsame]

/-- What going through some pages of the listing does. -/
structure Lists (c : Circumstances) (pages : List PageRequest) (a a' : RemoteAccount) :
    Prop where
  playlists_eq : a'.playlists = a.playlists
  calls_eq : a'.calls = a.calls + pages.length
  shows : ∀ p ∈ pages, p.Shows a.listing
  failure_of_error : ∀ p ∈ pages, ∀ e, p.answer = .error e →
    ∃ k, a.calls ≤ k ∧ k < a'.calls ∧ c.failure k = some e

/-- **Listing changes nothing, and every page shows the listing.** -/
theorem lists_of_runs {pages : List PageRequest}
    (h : c.service.Runs a (pages.map PageRequest.call) a') : c.Lists pages a a' := by
  induction pages generalizing a with
  | nil =>
    obtain rfl := h.eq_of_nil
    exact ⟨rfl, rfl, fun _ hp => absurd hp List.not_mem_nil, fun _ hp => absurd hp List.not_mem_nil⟩
  | cons p pages ih =>
    obtain ⟨mid, hcall, hrest⟩ := h.exists_of_cons
    have hlists := ih hrest
    obtain ⟨hcalls, hanswer⟩ := gives_perform hcall
    have hmid : mid.playlists = a.playlists := by
      rcases hanswer with ⟨e, -, -, hsame⟩ | ⟨-, hsame⟩ <;> exact hsame
    have hlisting : mid.listing = a.listing := congrArg (List.map _) hmid
    have hlast := hlists.calls_eq
    refine ⟨hlists.playlists_eq.trans hmid, ?_, ?_, ?_⟩
    · rw [List.length_cons]
      omega
    · refine List.forall_mem_cons.mpr ⟨a.shows_page fun page hpage => ?_, ?_⟩
      · rcases hanswer with ⟨e, -, herror, -⟩ | ⟨hok, -⟩
        · exact absurd (hpage.symm.trans herror) (by simp)
        · exact Except.ok.inj (hpage.symm.trans hok)
      · rw [← hlisting]
        exact hlists.shows
    · refine List.forall_mem_cons.mpr ⟨fun e he => ?_, fun q hq e he => ?_⟩
      · rcases hanswer with ⟨e', hfailure, herror, -⟩ | ⟨hok, -⟩
        · obtain rfl := Except.error.inj (he.symm.trans herror)
          exact ⟨a.calls, Nat.le_refl _, by omega, hfailure⟩
        · exact absurd (he.symm.trans hok) (by simp)
      · obtain ⟨k, hge, hlt, hfailure⟩ := hlists.failure_of_error q hq e he
        exact ⟨k, by omega, hlt, hfailure⟩

end Circumstances

end SmartPlaylist
