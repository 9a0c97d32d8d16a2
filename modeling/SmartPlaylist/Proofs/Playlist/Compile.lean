import SmartPlaylist.Proofs.Playlist.Candidates

/-!
# What compiling a definition comes to

Compiling collects the candidates of a definition, which only reads the library, and stores them
under its name, which only touches the rows of that name.  So the stored set is what a later run
loads, everything else stays as it was, and compiling again changes nothing.

## Main results

* `database_compile`, `database_compile_of_error` — what compiling does to the database.
* `result_compile_of_library` — what it comes to does not depend on the stored root playlists.
* `compile_result` — **the root playlist of a definition, and the database after it was compiled.**
-/

namespace SmartPlaylist

variable {σ : Type} {d : Definition} {policy : UnresolvedPolicy} {root : RootPlaylist}
  {s s' : Session σ}

theorem outcome_compile_eq_ok :
    (compile d policy).outcome s = (.ok root, s') ↔
      ∃ mid, (Compile.candidates d policy).outcome s = (.ok root, mid) ∧
        (Store.storeRoot root).outcome mid.database = (.ok (), s'.database) ∧
        s' = { mid with database := s'.database } := by
  rw [compile, Job.outcome_bind_eq_ok]
  constructor
  · rintro ⟨root', mid, hmid, h⟩
    rw [Job.outcome_bind_eq_ok] at h
    obtain ⟨⟨⟩, t, hstore, h⟩ := h
    obtain ⟨rfl, rfl⟩ : root' = root ∧ t = s' := by simpa using h
    rw [Job.outcome_failAs_eq_ok, Job.outcome_store_eq_ok] at hstore
    exact ⟨mid, hmid, hstore⟩
  · rintro ⟨mid, hmid, hstore⟩
    refine ⟨root, mid, hmid, ?_⟩
    rw [← Job.outcome_store_eq_ok, ← Job.outcome_failAs_eq_ok (g := CompileError.store)] at hstore
    rw [Job.outcome_bind_of_ok hstore]
    rfl

/-- Compiling puts the candidates in place of the rows of the definition's name. -/
theorem database_compile (h : (compile d policy).outcome s = (.ok root, s')) :
    ∃ stored, s.database.rootPlaylists = some stored ∧ s'.database = { s.database with
      rootPlaylists := some ((stored.filter fun r => r.name ≠ root.name) ++ root.rows) } := by
  obtain ⟨mid, hcandidates, hstore, -⟩ := outcome_compile_eq_ok.mp h
  have hmid : mid.database = s.database := by
    rw [← (Compile.readsLibrary_candidates d policy).database s, hcandidates]
  have hsorted : root.Sorted := (Compile.candidates_spec hcandidates).2.1
  rw [hmid] at hstore
  cases hstored : s.database.rootPlaylists with
  | none =>
    rw [Store.outcome_storeRoot_of_none hstored] at hstore
    simp at hstore
  | some stored =>
    rw [Store.outcome_storeRoot hstored hsorted.nodup] at hstore
    exact ⟨stored, rfl, (congrArg Prod.snd hstore).symm⟩

theorem database_compile_eq_withRoot (h : (compile d policy).outcome s = (.ok root, s')) :
    s'.database = s.database.withRoot root := by
  obtain ⟨stored, hstored, hdb⟩ := database_compile h
  rw [hdb, Database.withRoot, hstored, Option.getD_some]

/-- Compiling writes nothing when it fails. -/
theorem database_compile_of_error {e : CompileError}
    (h : (compile d policy).outcome s = (.error e, s')) : s'.database = s.database := by
  have hkept := (Compile.readsLibrary_candidates d policy).database s
  rw [compile, Job.outcome_bind] at h
  rcases hrun : (Compile.candidates d policy).outcome s with ⟨e' | root, mid⟩
  · rw [hrun] at h hkept
    rw [← (Prod.mk.inj h).2]
    exact hkept
  · -- storing is a transaction, so its failure leaves the database that it started from
    simp only [hrun, Job.outcome_bind, Job.outcome_failAs, Job.outcome_store] at h hkept
    rcases hstore : (Store.storeRoot root).outcome mid.database with ⟨e' | ⟨⟩, after⟩
    · rw [hstore] at h
      rw [← (Prod.mk.inj h).2, ← hkept]
      exact Store.transaction_error hstore
    · rw [hstore] at h
      simp at h

/-- What compiling comes to, from what collecting the candidates comes to. -/
theorem result_compile (d : Definition) (policy : UnresolvedPolicy) (s : Session σ) :
    ((compile d policy).outcome s).1 = match ((Compile.candidates d policy).outcome s).1 with
      | .ok root =>
        if s.database.rootPlaylists.isSome then .ok root
        else .error (.store (.missingTable Table.rootPlaylists.name))
      | .error e => .error e := by
  have hkept := (Compile.readsLibrary_candidates d policy).database s
  rw [compile, Job.outcome_bind]
  rcases hrun : (Compile.candidates d policy).outcome s with ⟨e | root, mid⟩
  · rfl
  · rw [hrun] at hkept
    have hdb : mid.database = s.database := hkept
    have hsorted : root.Sorted := (Compile.candidates_spec hrun).2.1
    simp only [Job.outcome_bind, Job.outcome_failAs, Job.outcome_store, hdb]
    cases hstored : s.database.rootPlaylists with
    | none =>
      rw [Store.outcome_storeRoot_of_none hstored]
      rfl
    | some stored =>
      rw [Store.outcome_storeRoot hstored hsorted.nodup]
      rfl

/-- Compiling comes to the same whatever root playlists are stored. -/
theorem result_compile_of_library {t : Session σ} {roots : Option (List RootRow)}
    (ht : t.database = { s.database with rootPlaylists := roots })
    (hroots : roots.isSome = s.database.rootPlaylists.isSome) :
    ((compile d policy).outcome t).1 = ((compile d policy).outcome s).1 := by
  rw [result_compile, result_compile, (Compile.readsLibrary_candidates d policy s t roots ht).1, ht,
    hroots]

/-- Compiling again finds the same candidates and stores the same rows. -/
theorem compile_again (h : (compile d policy).outcome s = (.ok root, s')) {again : Session σ}
    (hagain : again.database = s'.database) :
    ∃ last, (compile d policy).outcome again = (.ok root, last) ∧
      last.database = s'.database := by
  obtain ⟨stored, -, hdb⟩ := database_compile h
  obtain ⟨mid, hcandidates, -, -⟩ := outcome_compile_eq_ok.mp h
  have hsorted : root.Sorted := (Compile.candidates_spec hcandidates).2.1
  obtain ⟨hresult, hkept⟩ :=
    Compile.readsLibrary_candidates d policy s again _ (hagain.trans hdb)
  rw [hcandidates] at hresult
  rcases hrun : (Compile.candidates d policy).outcome again with ⟨x, mid'⟩
  rw [hrun] at hresult hkept
  obtain rfl : x = .ok root := hresult
  -- the rows of the name are taken out and put back
  have hstored : mid'.database.rootPlaylists
      = some ((stored.filter fun r => r.name ≠ root.name) ++ root.rows) := by
    rw [show mid'.database = again.database from hkept, hagain, hdb]
  refine ⟨{ mid' with database := s'.database },
    outcome_compile_eq_ok.mpr ⟨mid', hrun, ?_, rfl⟩, rfl⟩
  rw [Store.outcome_storeRoot hstored hsorted.nodup, Store.filter_ne_stored,
    show mid'.database = again.database from hkept, hagain, hdb]

/-- **The root playlist of a definition, and the database after it was compiled.**  The tracks stand
in byte order; they are the matches of the filters and what the pins cover; each has the flag of the
last pin that covers it, and rotates without one.  What was stored is what is loaded; the rows of
other names and all other tables are as they were; compiling again changes nothing. -/
theorem compile_result (h : (compile d policy).outcome s = (.ok root, s')) :
    root.tracks.Pairwise (fun a b => Text.utf8 a.trackId < Text.utf8 b.trackId) ∧
    (∃ found, (Store.filterMatches d).outcome s.database = (.ok found, s.database) ∧
      ∀ id, (∃ t ∈ root.tracks, t.trackId = id) ↔
        id ∈ found ∨ ∃ p ∈ d.pins, p.Covers s.database id) ∧
    (∀ t ∈ root.tracks,
      (∃ pin, LastCovering d.pins s.database t.trackId pin ∧ t.rotate = pin.rotate) ∨
        (∀ p ∈ d.pins, ¬p.Covers s.database t.trackId) ∧ t.rotate = true) ∧
    (Store.loadRoot d.name).outcome s'.database = (.ok root, s'.database) ∧
    (∃ before after, s.database.rootPlaylists = some before ∧
      s'.database = { s.database with rootPlaylists := some after } ∧
      (after.filter fun r => r.name ≠ d.name) = before.filter fun r => r.name ≠ d.name) ∧
    ∀ again : Session σ, again.database = s'.database →
      ∃ last, (compile d policy).outcome again = (.ok root, last) ∧
        last.database = s'.database := by
  obtain ⟨stored, hstored, hdb⟩ := database_compile h
  obtain ⟨mid, hcandidates, -, -⟩ := outcome_compile_eq_ok.mp h
  obtain ⟨hname, hsorted, found, hfound, hflags⟩ := Compile.candidates_spec hcandidates
  refine ⟨?_, ⟨found, hfound, fun id => ?_⟩, fun t ht => ?_, ?_, ?_, fun _ => compile_again h⟩
  · exact hsorted.imp Text.utf8_lt_of_lt
  · constructor
    · rintro ⟨t, ht, rfl⟩
      rcases (hflags t).mp ht with ⟨pin, hpin, -⟩ | ⟨-, hmem, -⟩
      · exact Or.inr hpin.covers
      · exact Or.inl hmem
    · intro hid
      by_cases hpins : ∃ p ∈ d.pins, p.Covers s.database id
      · obtain ⟨pin, hpin⟩ := exists_lastCovering hpins
        exact ⟨⟨id, pin.rotate⟩, (hflags _).mpr (Or.inl ⟨pin, hpin, rfl⟩), rfl⟩
      · have hnone : ∀ p ∈ d.pins, ¬p.Covers s.database id := fun p hp hc => hpins ⟨p, hp, hc⟩
        exact ⟨⟨id, true⟩, (hflags _).mpr (Or.inr ⟨hnone, hid.resolve_right hpins, rfl⟩), rfl⟩
  · rcases (hflags t).mp ht with hpin | ⟨hnone, -, hrotate⟩
    · exact Or.inl hpin
    · exact Or.inr ⟨hnone, hrotate⟩
  · rw [← hname]
    have hrows : s'.database.rootPlaylists
        = some ((stored.filter fun r => r.name ≠ root.name) ++ root.rows) := by rw [hdb]
    exact Store.outcome_loadRoot_of_stored hsorted hrows
  · refine ⟨stored, _, hstored, hdb, ?_⟩
    rw [← hname]
    exact Store.filter_ne_stored

/-! #### The small library, compiled -/

/-- A session on the small library. -/
def smallSession : Session Unit where
  database := Store.smallLibrary
  remote := ()
  entropy := { word := fun _ => 0 }

/-- Two matches, of which a pin covers one, and the track that two pins cover. -/
def rockRoot : RootPlaylist where
  name := "rock by Ann"
  tracks := [⟨"t1", true⟩, ⟨"t2", false⟩, ⟨"t4", true⟩]

/-- The session after the definition was compiled. -/
def compiledSession : Session Unit :=
  { smallSession with database := { Store.smallLibrary with
      rootPlaylists := some (⟨"jazz", "t3", true⟩ :: rockRoot.rows) } }

theorem outcome_compile_smallSession :
    (compile Store.rockByAnn .fail).outcome smallSession = (.ok rockRoot, compiledSession) := by
  have hfound : ((Job.store (Store.filterMatches Store.rockByAnn)).failAs
      CompileError.store).outcome smallSession = (.ok ["t1", "t2"], smallSession) :=
    Job.outcome_failAs_eq_ok.mpr
      (Job.outcome_store_eq_ok.mpr ⟨Store.outcome_filterMatches_smallLibrary, rfl⟩)
  have hcandidates : (Compile.candidates Store.rockByAnn .fail).outcome smallSession
      = (.ok rockRoot, smallSession) := by
    rw [Compile.candidates, Job.outcome_bind_of_ok hfound]
    with_unfolding_all rfl
  refine outcome_compile_eq_ok.mpr ⟨smallSession, hcandidates, ?_, rfl⟩
  have hstored : smallSession.database.rootPlaylists
      = some [⟨"rock by Ann", "t3", true⟩, ⟨"jazz", "t3", true⟩] := rfl
  exact Store.outcome_storeRoot hstored (by decide)

theorem loadRoot_compiledSession :
    (compile Store.rockByAnn .fail).outcome smallSession = (.ok rockRoot, compiledSession) ∧
      (Store.loadRoot "rock by Ann").outcome compiledSession.database
        = (.ok rockRoot, compiledSession.database) :=
  ⟨outcome_compile_smallSession, (compile_result outcome_compile_smallSession).2.2.2.1⟩

end SmartPlaylist
