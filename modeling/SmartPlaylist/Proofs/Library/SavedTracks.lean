import SmartPlaylist.Library.Pull
import SmartPlaylist.Proofs.List.InOrder
import SmartPlaylist.Proofs.Session.Trace
import SmartPlaylist.Proofs.Store.Library

/-!
# Reading the saved tracks

The saved tracks are read page by page, each page from the position that the pages before it reach.
A page may be shorter than was asked for; the positions count everything on a page, also what is not
stored afterwards.  So the pages lie behind one another, and when no call fails they are the whole
list.  Only then is anything written.

## Main definitions

* `LibraryService.Lists` — a service that lists these tracks, in pages of any lengths.
* `Listing` — the pages that were read, and the failure, if there was one.
* `SavedTrack.kept?`, `SavedTrack.skipped?` — what is stored of a saved track, and what is told.

## Main results

* `Pull.exists_savedTracksFrom` — what reading from a position on comes to.
* `pullLibrary_lossless` — **nothing of the list is lost, read twice, or stored out of order.**
-/

namespace SmartPlaylist

variable {σ : Type}

/-! ### Listings -/

/-- The service lists these tracks.  Whenever it answers, it gives some of the items that follow a
position: at least one unless the end is reached, no more than were asked for, and it says whether
any are left. -/
def LibraryService.Lists (service : LibraryService σ) (saved : List SavedTrack) : Prop :=
  ∀ (r : σ) (offset limit : Nat) (page : Page SavedTrack), offset ≤ saved.length → 0 < limit →
    (service.savedTracks offset limit r).1.result = .ok page →
      page.items <+: saved.drop offset ∧ page.items.length ≤ limit ∧
        (page.items = [] → offset = saved.length) ∧
        (page.hasNext = true ↔ offset + page.items.length < saved.length)

/-- The pages that were read, and why the call after them failed, if it did. -/
structure Listing where
  pages : List (Page SavedTrack) := []
  failed : Option RemoteError := none

namespace Listing

/-- Everything on the pages. -/
def items (l : Listing) : List SavedTrack := l.pages.flatMap Page.items

/-- The calls that ask for pages, each from where the one before ends. -/
def callsFrom (failed : Option RemoteError) : Nat → List (Page SavedTrack) → List LibraryCall
  | offset, [] => (failed.map fun e => .savedTracks offset 50 (.error e)).toList
  | offset, page :: rest =>
    .savedTracks offset 50 (.ok page) :: callsFrom failed (offset + page.items.length) rest

/-- The calls that were made, from a position on. -/
def calls (l : Listing) (offset : Nat) : List LibraryCall := callsFrom l.failed offset l.pages

end Listing

/-! ### Tracks -/

/-- What is stored of a saved track: nothing if it has no id, or no time that can be read. -/
def SavedTrack.kept? (saved : SavedTrack) : Option LibraryTrack := do
  let id ← saved.track.id
  let added ← Rfc3339.parse saved.addedAt
  some ⟨id, saved.track.name, added, saved.track.artists.filterMap ArtistRef.id⟩

/-- The id and the time of a saved track with an id whose time cannot be read. -/
def SavedTrack.skipped? (saved : SavedTrack) : Option (String × String) :=
  match saved.track.id, Rfc3339.parse saved.addedAt with
  | some id, none => some (id, saved.addedAt)
  | _, _ => none

/-- The id and the time in a warning about a saved track. -/
def Notice.savedTrackSkipped? : Notice → Option (String × String)
  | .savedTrackSkipped id addedAt => some (id, addedAt)
  | _ => none

/-- The saved tracks that were warned about. -/
def Session.skipped (s : Session σ) : List (String × String) :=
  s.notices.filterMap Notice.savedTrackSkipped?

namespace Pull

theorem outcome_libraryTrack (saved : SavedTrack) (s : Session σ) :
    (libraryTrack saved).outcome s = (.ok saved.kept?, { s with
      notices := s.notices ++ (saved.skipped?.map fun p => .savedTrackSkipped p.1 p.2).toList }) := by
  unfold libraryTrack SavedTrack.kept? SavedTrack.skipped?
  cases saved.track.id with
  | none => simp
  | some id =>
    cases Rfc3339.parse saved.addedAt with
    | none => rfl
    | some added => simp

/-- A page is gone through in order. -/
theorem outcome_filterMapM_libraryTrack (items : List SavedTrack) (s : Session σ) :
    (items.filterMapM libraryTrack).outcome s
      = (.ok (items.filterMap SavedTrack.kept?), { s with
          notices := s.notices ++ (items.filterMap SavedTrack.skipped?).map fun p =>
            .savedTrackSkipped p.1 p.2 }) := by
  induction items generalizing s with
  | nil => simp
  | cons saved items ih =>
    rw [List.filterMapM_cons, Job.outcome_bind_of_ok (outcome_libraryTrack saved s)]
    cases hkept : saved.kept? with
    | none =>
      refine (ih _).trans ?_
      cases hskipped : saved.skipped? <;> simp [hkept, hskipped]
    | some track =>
      refine (Job.outcome_bind_of_ok (ih _)).trans ?_
      cases hskipped : saved.skipped? <;> simp [hkept, hskipped]

/-- Going through a page warns about the tracks that are skipped, and does nothing else. -/
theorem exists_tellSkipped (items : List SavedTrack) (s : Session σ) :
    ∃ told, (items.filterMapM libraryTrack).outcome s
        = (.ok (items.filterMap SavedTrack.kept?), told) ∧
      told.database = s.database ∧ told.remote = s.remote ∧
      told.skipped = s.skipped ++ items.filterMap SavedTrack.skipped? := by
  refine ⟨_, outcome_filterMapM_libraryTrack items s, rfl, rfl, ?_⟩
  rw [Session.skipped, List.filterMap_append, List.filterMap_map, Session.skipped]
  simp [Function.comp_def, Notice.savedTrackSkipped?]

/-! ### Pages -/

/-- Reading went through the pages of a listing from a position on, and told what it skipped. -/
structure Reads (service : LibraryService σ) (saved : List SavedTrack) (offset : Nat) (l : Listing)
    (s after : Session (Traced σ LibraryCall)) : Prop where
  items_prefix : l.items <+: saved.drop offset
  items_eq : l.failed = none → l.items = saved.drop offset
  length_le : ∀ page ∈ l.pages, page.items.length ≤ 50
  /-- The failure is one of the service. -/
  failed_by : ∀ e, l.failed = some e → ∃ r position,
    (service.savedTracks position 50 r).1.result = .error e
  trace_eq : after.remote.trace = s.remote.trace ++ l.calls offset
  database_eq : after.database = s.database
  skipped_eq : after.skipped = s.skipped ++ l.items.filterMap SavedTrack.skipped?

/-- The tracks that reading gives. -/
def tracks (l : Listing) : Except RunError (List LibraryTrack) :=
  match l.failed with
  | none => .ok (l.items.filterMap SavedTrack.kept?)
  | some e => .error (.remote e)

/-- Nothing is read at the end. -/
theorem Reads.done {service : LibraryService σ} {saved : List SavedTrack} {offset : Nat}
    (h : saved.drop offset = []) (s : Session (Traced σ LibraryCall)) :
    Reads service saved offset {} s s where
  items_prefix := List.nil_prefix
  items_eq _ := h.symm
  length_le := List.forall_mem_nil _
  failed_by _ := (nomatch ·)
  trace_eq := (List.append_nil _).symm
  database_eq := rfl
  skipped_eq := (List.append_nil _).symm

/-- A page before the others. -/
theorem Reads.page {service : LibraryService σ} {saved : List SavedTrack} {offset : Nat}
    {page : Page SavedTrack} {l : Listing} {s told after : Session (Traced σ LibraryCall)}
    (hbegins : page.items <+: saved.drop offset) (hsize : page.items.length ≤ 50)
    (hdb : told.database = s.database)
    (htrace : told.remote.trace = s.remote.trace ++ [.savedTracks offset 50 (.ok page)])
    (hskipped : told.skipped = s.skipped ++ page.items.filterMap SavedTrack.skipped?)
    (h : Reads service saved (offset + page.items.length) l told after) :
    Reads service saved offset ⟨page :: l.pages, l.failed⟩ s after := by
  have hsplit : saved.drop offset = page.items ++ saved.drop (offset + page.items.length) :=
    drop_eq_append_drop hbegins
  have hitems : (⟨page :: l.pages, l.failed⟩ : Listing).items = page.items ++ l.items := rfl
  refine ⟨?_, fun hall => ?_, List.forall_mem_cons.mpr ⟨hsize, h.length_le⟩,
    h.failed_by, ?_, h.database_eq.trans hdb, ?_⟩
  · rw [hitems, hsplit]
    exact (List.prefix_append_right_inj _).mpr h.items_prefix
  · rw [hitems, hsplit, h.items_eq hall]
  · rw [h.trace_eq, htrace, List.append_assoc]
    rfl
  · rw [h.skipped_eq, hskipped, hitems, List.filterMap_append, List.append_assoc]

/-- The tracks of a page stand before those of the others. -/
theorem tracks_page (page : Page SavedTrack) (l : Listing) :
    tracks ⟨page :: l.pages, l.failed⟩
      = (tracks l).map (page.items.filterMap SavedTrack.kept? ++ ·) := by
  rcases l with ⟨pages, _ | e⟩
  · simp [tracks, Listing.items, Except.map]
  · rfl

/-- A page is asked for, and the tracks on it are told about. -/
theorem exists_page (service : LibraryService σ) (offset : Nat)
    (s : Session (Traced σ LibraryCall)) :
    ∃ mid, ((Job.call (service.traced.savedTracks offset savedTrackPageSize)).failAs
        RunError.remote).outcome s
          = ((service.savedTracks offset 50 s.remote.state).1.result.mapError .remote, mid) ∧
      mid.database = s.database ∧ mid.skipped = s.skipped ∧
      mid.remote.trace = s.remote.trace ++
        [.savedTracks offset 50 (service.savedTracks offset 50 s.remote.state).1.result] := by
  obtain ⟨mid, hcall, hdb, htrace, hnotices⟩ := Job.exists_traceCall
    (LibraryCall.savedTracks offset 50) (service.savedTracks offset 50) s
  refine ⟨mid, ?_, hdb, ?_, htrace⟩
  · have hjob : Job.call (service.traced.savedTracks offset savedTrackPageSize)
        = Job.call (traceCall (.savedTracks offset 50) (service.savedTracks offset 50)) := rfl
    rw [hjob, Job.outcome_failAs_eq_mapError, hcall]
  · -- what the service remarks is no warning about a track
    have hremarks : ((service.savedTracks offset 50 s.remote.state).1.notices.map
        Notice.remote).filterMap Notice.savedTrackSkipped? = [] := by
      simp [List.filterMap_eq_nil_iff, Notice.savedTrackSkipped?]
    rw [Session.skipped, hnotices, List.filterMap_append, hremarks, List.append_nil, Session.skipped]

/-- The page after which reading stops has all that is left. -/
theorem items_eq_of_last {saved : List SavedTrack} {offset : Nat} {page : Page SavedTrack}
    (hbegins : page.items <+: saved.drop offset)
    (hempty : page.items = [] → offset = saved.length)
    (hnext : page.hasNext = true ↔ offset + page.items.length < saved.length)
    (hlast : (!page.hasNext || page.items.isEmpty) = true) : page.items = saved.drop offset := by
  refine hbegins.eq_of_length_le ?_
  rw [List.length_drop]
  rcases Bool.or_eq_true_iff.mp hlast with hnone | hnil
  · have hend : ¬offset + page.items.length < saved.length := by
      rw [← hnext]
      simpa using hnone
    omega
  · rw [hempty (List.isEmpty_iff.mp hnil), Nat.sub_self]
    exact Nat.zero_le _

/-- **What reading from a position on comes to.** -/
theorem exists_savedTracksFrom {service : LibraryService σ} {saved : List SavedTrack}
    (hlists : service.Lists saved) (hlength : saved.length < listingLimit) {offset : Nat}
    (hoffset : offset ≤ saved.length) (s : Session (Traced σ LibraryCall)) :
    ∃ (l : Listing) (after : Session (Traced σ LibraryCall)),
      (savedTracksFrom service.traced offset).outcome s = (tracks l, after) ∧
      Reads service saved offset l s after := by
  induction hleft : saved.length - offset using Nat.strongRecOn generalizing offset s with
  | _ left ih =>
    obtain ⟨mid, hcall, hdb, hskipped, htrace⟩ := exists_page service offset s
    rw [savedTracksFrom]
    rcases hanswer : (service.savedTracks offset 50 s.remote.state).1.result with e | page
    · rw [hanswer] at hcall htrace
      refine ⟨⟨[], some e⟩, mid, Job.outcome_bind_of_error hcall, ?_⟩
      refine ⟨List.nil_prefix, (nomatch ·), List.forall_mem_nil _, fun e' he' => ?_, htrace, hdb,
        hskipped.trans (List.append_nil _).symm⟩
      exact Option.some.inj he' ▸ ⟨s.remote.state, offset, hanswer⟩
    · rw [hanswer] at hcall htrace
      obtain ⟨hbegins, hsize, hempty, hnext⟩ := hlists _ offset 50 page hoffset (by decide) hanswer
      obtain ⟨told, htold, hdb', hremote, hskipped'⟩ := exists_tellSkipped page.items mid
      rw [Job.outcome_bind_of_ok hcall, Job.outcome_bind_of_ok htold]
      have htrace' : told.remote.trace = s.remote.trace ++ [.savedTracks offset 50 (.ok page)] := by
        rw [hremote, htrace]
      have hpage {l : Listing} {after : Session (Traced σ LibraryCall)}
          (h : Reads service saved (offset + page.items.length) l told after) :
          Reads service saved offset ⟨page :: l.pages, l.failed⟩ s after :=
        .page hbegins hsize (hdb'.trans hdb) htrace' (hskipped ▸ hskipped') h
      by_cases hlast : (!page.hasNext || page.items.isEmpty) = true
      · have hend : saved.drop (offset + page.items.length) = [] := by
          rw [items_eq_of_last hbegins hempty hnext hlast, List.length_drop, List.drop_eq_nil_iff]
          omega
        rw [dif_pos hlast]
        refine ⟨_, told, ?_, hpage (.done hend told)⟩
        rw [tracks_page]
        simp [tracks, Listing.items, Except.map]
      · -- items are left, so the next page lies further on
        obtain ⟨hmore, hsome⟩ := Bool.or_eq_false_iff.mp (Bool.eq_false_iff.mpr hlast)
        have hfurther : offset + page.items.length < saved.length :=
          hnext.mp ((Bool.not_eq_false' _).mp hmore)
        have hpos : 0 < page.items.length := List.length_pos_iff.mpr (by simpa using hsome)
        obtain ⟨l, after, hrest, hreads⟩ := ih (saved.length - (offset + page.items.length))
          (by omega) (Nat.le_of_lt hfurther) told rfl
        rw [dif_neg hlast, dif_pos (Nat.lt_trans hfurther hlength)]
        refine ⟨_, after, ?_, hpage hreads⟩
        rw [tracks_page, Job.outcome_bind, hrest]
        cases tracks l <;> rfl

/-! ### Without a trace -/

theorem projects_libraryTrack {σ' : Type} (π : σ' → σ) (saved : SavedTrack) :
    Projects (Session.map π) (libraryTrack saved) (libraryTrack saved) := by
  unfold libraryTrack
  split
  · exact .pure _
  · split
    · exact .pure _
    · exact (Job.projects_tell _).bind fun _ => .pure _

/-- Reading does the same without a trace. -/
theorem projects_savedTracksFrom (service : LibraryService σ) (offset : Nat) :
    Projects (Session.map Traced.state) (savedTracksFrom service.traced offset)
      (savedTracksFrom service offset) := by
  induction hleft : listingLimit - offset using Nat.strongRecOn generalizing offset with
  | _ left ih =>
    rw [savedTracksFrom, savedTracksFrom]
    refine (Job.projects_failAs (Job.projects_traceCall _ _)).bind fun page => ?_
    refine (Projects.filterMapM (projects_libraryTrack _) page.items).bind fun tracks => ?_
    by_cases hlast : (!page.hasNext || page.items.isEmpty) = true
    · rw [dif_pos hlast, dif_pos hlast]
      exact .pure _
    · have hpos : 0 < page.items.length := by
        obtain ⟨-, hsome⟩ := Bool.or_eq_false_iff.mp (Bool.eq_false_iff.mpr hlast)
        exact List.length_pos_iff.mpr (by simpa using hsome)
      rw [dif_neg hlast, dif_neg hlast]
      by_cases hlimit : offset + page.items.length < listingLimit
      · rw [dif_pos hlimit, dif_pos hlimit]
        exact (ih _ (by omega) _ rfl).bind fun rest => .pure _
      · rw [dif_neg hlimit, dif_neg hlimit]
        exact .throw _

/-- So does reading them all and storing them. -/
theorem projects_pullLibrary (service : LibraryService σ) :
    Projects (Session.map Traced.state) (pullLibrary service.traced) (pullLibrary service) :=
  (projects_savedTracksFrom service 0).bind fun _ => Job.projects_failAs (Job.projects_store _)

end Pull

/-! ### The library -/

/-- **Nothing of the list is lost, read twice, or stored out of order.**  The service is asked for
one page after another, each from where the pages before it end, and these hold the list from its
beginning; the tracks on them that are skipped are warned about.  If a call fails, the job fails with
it and the database stays as it was.  If none does, the pages hold the whole list, and the library is
replaced by what is kept of it; when its tables are there, this succeeds, and what they held before
does not matter.  No other table changes. -/
theorem pullLibrary_lossless (service : LibraryService σ) (saved : List SavedTrack)
    (hlists : service.Lists saved) (hlength : saved.length < 0x1_0000_0000)
    (s : Session (Traced σ LibraryCall)) :
    ∃ (listing : Listing) (result : Except RunError Nat)
      (after : Session (Traced σ LibraryCall)),
      (pullLibrary service.traced).outcome s = (result, after) ∧
      (pullLibrary service).outcome s.untraced = (result, after.untraced) ∧
      after.remote.trace = s.remote.trace ++ listing.calls 0 ∧
      (∀ page ∈ listing.pages, page.items.length ≤ 50) ∧
      listing.items <+: saved ∧
      after.skipped = s.skipped ++ listing.items.filterMap SavedTrack.skipped? ∧
      (∀ e, listing.failed = some e →
        (∃ r position, (service.savedTracks position 50 r).1.result = .error e) ∧
        result = .error (.remote e) ∧ after.database = s.database) ∧
      (listing.failed = none →
        listing.items = saved ∧
        (∃ written, (Store.replaceLibrary (saved.filterMap SavedTrack.kept?)).outcome s.database
            = (written, after.database) ∧ result = written.mapError .store) ∧
        (s.database.HasTracks → result = .ok (saved.filterMap SavedTrack.kept?).length ∧
          after.database = s.database.withLibrary (saved.filterMap SavedTrack.kept?))) ∧
      after.database = { s.database with
        libraryTracks := after.database.libraryTracks
        trackArtists := after.database.trackArtists } := by
  obtain ⟨listing, read, hread, hreads⟩ :=
    Pull.exists_savedTracksFrom hlists hlength (Nat.zero_le _) s
  have huntraced {result : Except RunError Nat} {after : Session (Traced σ LibraryCall)}
      (hrun : (pullLibrary service.traced).outcome s = (result, after)) :
      (pullLibrary service).outcome s.untraced = (result, after.untraced) :=
    (Pull.projects_pullLibrary service).run_eq hrun
  have hbegins : listing.items <+: saved := hreads.items_prefix
  rcases hfailed : listing.failed with _ | e
  · -- every page was read, and the tracks on them are stored
    have hitems : listing.items = saved := hreads.items_eq hfailed
    have hread' : (Pull.savedTracksFrom service.traced 0).outcome s
        = (.ok (saved.filterMap SavedTrack.kept?), read) := by
      rw [hread, Pull.tracks, hfailed, hitems]
    generalize saved.filterMap SavedTrack.kept? = kept at hread'
    obtain ⟨⟨written, db⟩, hwritten⟩ :
        ∃ outcome, outcome = (Store.replaceLibrary kept).outcome s.database := ⟨_, rfl⟩
    have hrun : (pullLibrary service.traced).outcome s
        = (written.mapError .store, { read with database := db }) := by
      rw [pullLibrary, Job.outcome_bind_of_ok hread', Job.outcome_failAs_eq_mapError,
        Job.outcome_store, hreads.database_eq, ← hwritten]
    refine ⟨listing, _, _, hrun, huntraced hrun, hreads.trace_eq, hreads.length_le, hbegins,
      hreads.skipped_eq, (by simp [hfailed]),
      fun _ => ⟨hitems, ⟨written, hwritten.symm, rfl⟩, fun htables => ?_⟩, ?_⟩
    · rw [Store.outcome_replaceLibrary kept htables] at hwritten
      obtain ⟨rfl, rfl⟩ := Prod.mk.inj hwritten
      exact ⟨rfl, rfl⟩
    · have hframe := Store.database_replaceLibrary kept s.database
      rwa [← hwritten] at hframe
  · have hrun : (pullLibrary service.traced).outcome s = (.error (.remote e), read) := by
      rw [pullLibrary, Job.outcome_bind_of_error]
      rw [hread, Pull.tracks, hfailed]
    refine ⟨listing, _, _, hrun, huntraced hrun, hreads.trace_eq, hreads.length_le, hbegins,
      hreads.skipped_eq, ?_, (by simp [hfailed]), ?_⟩
    · intro e' he'
      obtain rfl : e = e' := Option.some.inj (hfailed.symm.trans he')
      exact ⟨hreads.failed_by e hfailed, rfl, hreads.database_eq⟩
    · rw [hreads.database_eq]

/-! #### Pages of two -/

/-- A service that lists saved tracks two by two, whatever it is asked for. -/
def pairsOf (saved : List SavedTrack) : LibraryService Unit where
  savedTracks offset limit := fun _ =>
    let items := (saved.drop offset).take (min limit 2)
    (⟨.ok ⟨items, offset + items.length < saved.length⟩, []⟩, ())
  recentlyPlayed _ := fun _ => (⟨.ok [], []⟩, ())
  artists _ := fun _ => (⟨.ok [], []⟩, ())
  audioFeatures _ := fun _ => (⟨.ok [], []⟩, ())

theorem lists_pairsOf (saved : List SavedTrack) : (pairsOf saved).Lists saved := by
  intro r offset limit page hoffset hlimit hanswer
  obtain rfl := Except.ok.inj hanswer
  refine ⟨List.take_prefix _ _, ?_, fun hempty => ?_, by simp⟩
  · exact Nat.le_trans (List.length_take_le _ _) (Nat.min_le_left _ _)
  · have hlength := congrArg List.length hempty
    simp only [List.length_take, List.length_drop, List.length_nil] at hlength
    omega

/-- A local file, a track saved at no time that can be read, and a track by two artists, of whom one
has no id. -/
def threeSaved : List SavedTrack :=
  [⟨"2024-03-01T12:00:00Z", ⟨none, "Tape", []⟩⟩, ⟨"yesterday", ⟨some "b", "Two", []⟩⟩,
    ⟨"2024-03-01T12:00:00Z", ⟨some "c", "Three", [⟨none, "Bob"⟩, ⟨some "ann", "Ann"⟩]⟩⟩]

/-- A library with a track that is no longer saved. -/
def olderLibrary : Session (Traced Unit LibraryCall) where
  database := { Database.fresh with
    libraryTracks := some [⟨"a", "One", ""⟩], trackArtists := some [⟨"a", "ann"⟩] }
  remote := { state := () }
  entropy := { word := fun _ => 0 }

/-- Two pages are read; the one track that is kept takes the place of the older one, without the
artist who has no id. -/
theorem pullLibrary_pairsOf :
    ∃ (listing : Listing) (after : Session (Traced Unit LibraryCall)),
      (pullLibrary (pairsOf threeSaved).traced).outcome olderLibrary = (.ok 1, after) ∧
      listing.items = threeSaved ∧ after.remote.trace = listing.calls 0 ∧
      after.skipped = [("b", "yesterday")] ∧
      (after.database.libraryTracks.getD []).map LibraryTrackRow.trackId = ["c"] ∧
      after.database.trackArtists = some [⟨"c", "ann"⟩] := by
  obtain ⟨listing, result, after, hrun, -, htrace, -, -, hskipped, hfailed, hdone, -⟩ :=
    pullLibrary_lossless (pairsOf threeSaved) threeSaved (lists_pairsOf _) (by decide) olderLibrary
  have hanswered : listing.failed = none := by
    refine Option.eq_none_iff_forall_ne_some.mpr fun e he => ?_
    obtain ⟨⟨r, position, hanswer⟩, -⟩ := hfailed e he
    cases hanswer
  obtain ⟨hitems, -, hwritten⟩ := hdone hanswered
  obtain ⟨rfl, hdb⟩ := hwritten ⟨rfl, rfl⟩
  refine ⟨listing, after, hrun, hitems, htrace, ?_, ?_, ?_⟩
  · rw [hskipped, hitems]
    rfl
  · rw [hdb]
    rfl
  · rw [hdb]
    rfl

end SmartPlaylist
