import SmartPlaylist.Command.Basic
import SmartPlaylist.Proofs.Definition.Folder
import SmartPlaylist.Proofs.Playlist.Compile

/-!
# What a build leaves

A build takes the files of a folder in order.  A file that cannot be read changes nothing; a
definition is compiled, and its root playlist takes the place of the one stored under its name,
unless compiling fails.  In the end the sets without a definition go, but only when every file could
be read.  So what is stored under a name is decided by the last definition of that name that could
be compiled, and a set is lost only where no file could have asked for it.

Compiling does not look at the stored root playlists.  Hence what a definition comes to at its turn
is what it would have come to before the build.

## Main definitions

* `Session.SameLibrary` — two sessions whose databases differ in the stored sets only.
* `Build.compiledAs`, `Build.lastCompiled` — what the definitions of a name come to.
* `Build.Defines`, `Build.AllRead` — what the files of a folder hold.
* `Build.Progress` — what the files taken so far have done.
* `Build.Settles` — what stands under a name in the end.

## Main results

* `Build.progress_compileAll` — **each file adds to the progress**, hence all of them do.
* `Build.exists_build` — a build settles what stands under each name.
* `runBuild_endState` — **what is stored under each name after a build.**
-/

namespace SmartPlaylist

/-! ### The same library -/

/-- The databases differ at most in the stored root playlists. -/
structure Session.SameLibrary {σ τ : Type} (s : Session σ) (t : Session τ) : Prop where
  database_eq : t.database = { s.database with rootPlaylists := t.database.rootPlaylists }
  isSome_eq : t.database.rootPlaylists.isSome = s.database.rootPlaylists.isSome

namespace Session.SameLibrary

variable {σ : Type} {s t u : Session σ}

theorem of_database_eq (h : t.database = s.database) : s.SameLibrary t :=
  ⟨by rw [h], by rw [h]⟩

theorem trans (h : s.SameLibrary t) (h' : t.SameLibrary u) : s.SameLibrary u := by
  refine ⟨?_, h'.isSome_eq.trans h.isSome_eq⟩
  rw [h'.database_eq, h.database_eq]

end Session.SameLibrary

namespace Build

variable {σ ε : Type} {policy : UnresolvedPolicy} {s t after : Session σ} {name path : String}
  {d : Definition}

/-- A file of a folder: its path, and its definition or what is wrong with it. -/
abbrev File := String × Except DefinitionError Definition

variable {files rest : List File} {file : File} {tally tally' : Tally}

/-! ### What the files come to -/

/-- What the definition in a file comes to, if it has that name and can be compiled. -/
def compiledAs (policy : UnresolvedPolicy) (s : Session σ) (name : String) :
    File → Option RootPlaylist
  | (_, .ok d) => if d.name = name then ((compile d policy).outcome s).1.toOption else none
  | (_, .error _) => none

/-- What the last definition of a name that can be compiled comes to. -/
def lastCompiled (policy : UnresolvedPolicy) (s : Session σ) (name : String) (files : List File) :
    Option RootPlaylist :=
  (files.filterMap (compiledAs policy s name)).getLast?

/-- Some file has a definition of that name. -/
def Defines (files : List File) (name : String) : Prop :=
  ∃ path d, (path, .ok d) ∈ files ∧ d.name = name

/-- Every file could be read. -/
def AllRead (files : List File) : Prop := ∀ file ∈ files, ∃ d, file.2 = .ok d

theorem compiledAs_of_sameLibrary (h : s.SameLibrary t) :
    compiledAs policy t name = compiledAs policy s name := by
  funext file
  obtain ⟨path, e | d⟩ := file
  · rfl
  · dsimp only [compiledAs]
    rw [result_compile_of_library h.database_eq h.isSome_eq]

theorem lastCompiled_cons :
    lastCompiled policy s name (file :: rest)
      = (lastCompiled policy s name rest).or (compiledAs policy s name file) := by
  unfold lastCompiled
  cases hfile : compiledAs policy s name file with
  | none => rw [List.filterMap_cons_none hfile, Option.or_none]
  | some root =>
    rw [List.filterMap_cons_some hfile, List.getLast?_cons]
    cases (rest.filterMap (compiledAs policy s name)).getLast? <;> rfl

theorem defines_cons_ok :
    Defines ((path, .ok d) :: rest) name ↔ d.name = name ∨ Defines rest name := by
  constructor
  · rintro ⟨path', d', hmem, hname⟩
    rcases List.mem_cons.mp hmem with heq | hmem
    · obtain ⟨-, hd⟩ := Prod.mk.inj heq
      obtain rfl := Except.ok.inj hd
      exact Or.inl hname
    · exact Or.inr ⟨path', d', hmem, hname⟩
  · rintro (hname | ⟨path', d', hmem, hname⟩)
    · exact ⟨path, d, List.mem_cons_self .., hname⟩
    · exact ⟨path', d', List.mem_cons_of_mem _ hmem, hname⟩

theorem defines_cons_error {e : DefinitionError} :
    Defines ((path, .error e) :: rest) name ↔ Defines rest name := by
  constructor
  · rintro ⟨path', d, hmem, hname⟩
    rcases List.mem_cons.mp hmem with heq | hmem
    · exact absurd (Prod.mk.inj heq).2 (by simp)
    · exact ⟨path', d, hmem, hname⟩
  · rintro ⟨path', d, hmem, hname⟩
    exact ⟨path', d, List.mem_cons_of_mem _ hmem, hname⟩

/-! ### Progress -/

/-- What some files have done to a session and a tally. -/
structure Progress (policy : UnresolvedPolicy) (files : List File) (tally tally' : Tally)
    (s after : Session σ) : Prop where
  sameLibrary : s.SameLibrary after
  /-- Under a name stands what its last definition came to, or what stood there before. -/
  rowsOf_eq : ∀ name, Store.rowsOf after.database name
    = ((lastCompiled policy s name files).map RootPlaylist.rows).getD
        (Store.rowsOf s.database name)
  mem_names_iff : ∀ name, name ∈ tally'.names ↔ name ∈ tally.names ∨ Defines files name
  unreadable_eq_zero_iff : tally'.unreadable = 0 ↔ tally.unreadable = 0 ∧ AllRead files

theorem Progress.nil (policy : UnresolvedPolicy) (tally : Tally) (s : Session σ) :
    Progress policy [] tally tally s s where
  sameLibrary := .of_database_eq rfl
  rowsOf_eq _ := rfl
  mem_names_iff name := by simp [Defines]
  unreadable_eq_zero_iff := by simp [AllRead]

/-- What the first file leaves under a name is what the others start from. -/
theorem Progress.rowsOf_cons (h : Progress policy rest tally tally' t after)
    (hlibrary : s.SameLibrary t)
    (hrows : ∀ name, Store.rowsOf t.database name
      = ((compiledAs policy s name file).map RootPlaylist.rows).getD
          (Store.rowsOf s.database name)) (name : String) :
    Store.rowsOf after.database name
      = ((lastCompiled policy s name (file :: rest)).map RootPlaylist.rows).getD
          (Store.rowsOf s.database name) := by
  have hlast : lastCompiled policy t name rest = lastCompiled policy s name rest := by
    unfold lastCompiled
    rw [compiledAs_of_sameLibrary hlibrary]
  rw [h.rowsOf_eq, hlast, hrows, lastCompiled_cons]
  cases lastCompiled policy s name rest <;> rfl

/-- What compiling one definition does. -/
theorem exists_compileOne (policy : UnresolvedPolicy) (d : Definition) (s : Session σ) :
    ∃ done after, (compileOne policy d : Job σ ε Bool).outcome s = (.ok done, after) ∧
      s.SameLibrary after ∧ ∀ path name, Store.rowsOf after.database name
        = ((compiledAs policy s name (path, .ok d)).map RootPlaylist.rows).getD
            (Store.rowsOf s.database name) := by
  have hattempt : ((compile d policy).attempt
      : Job σ ε (Except CompileError RootPlaylist)).outcome s
        = (.ok ((compile d policy).outcome s).1, ((compile d policy).outcome s).2) :=
    Job.outcome_attempt _ s
  rcases hcompile : (compile d policy).outcome s with ⟨e | root, mid⟩
  · -- nothing is written
    rw [hcompile] at hattempt
    have hmid : mid.database = s.database := database_compile_of_error hcompile
    refine ⟨false, _, Job.outcome_bind_of_ok hattempt, .of_database_eq hmid, fun path name => ?_⟩
    have hnone : compiledAs policy s name (path, .ok d) = none := by
      simp [compiledAs, hcompile, Except.toOption]
    rw [hnone, Option.map_none, Option.getD_none]
    exact congrArg (Store.rowsOf · name) hmid
  · -- the rows of the definition's name are replaced
    rw [hcompile] at hattempt
    obtain ⟨stored, hstored, hdb⟩ := database_compile hcompile
    have hmid : mid.database = s.database.withRoot root := database_compile_eq_withRoot hcompile
    have hname : root.name = d.name := by
      obtain ⟨t, hcandidates, -, -⟩ := outcome_compile_eq_ok.mp hcompile
      exact (Compile.candidates_spec hcandidates).1
    refine ⟨true, _, Job.outcome_bind_of_ok hattempt, ⟨?_, ?_⟩, fun path name => ?_⟩
    · show mid.database = { s.database with rootPlaylists := mid.database.rootPlaylists }
      rw [hdb]
    · show mid.database.rootPlaylists.isSome = s.database.rootPlaylists.isSome
      rw [hdb, hstored]
      rfl
    · show Store.rowsOf mid.database name = _
      rw [hmid, Store.rowsOf_withRoot, hname]
      by_cases hd : d.name = name
      · simp [compiledAs, hd, hcompile, Except.toOption]
      · simp [compiledAs, hd, Ne.symm hd]

/-- **Each file adds to the progress**, whether it can be read and compiled or not. -/
theorem progress_compileAll (policy : UnresolvedPolicy) (files : List File) (tally : Tally)
    (s : Session σ) :
    ∃ tally' after,
      (compileAll policy files tally : Job σ ε Tally).outcome s = (.ok tally', after) ∧
      Progress policy files tally tally' s after := by
  induction files generalizing tally s with
  | nil => exact ⟨tally, s, rfl, .nil policy tally s⟩
  | cons file rest ih =>
    obtain ⟨path, e | d⟩ := file
    · -- a file that cannot be read is only counted
      have htell := Job.outcome_tell (ε := ε) (.definitionSkipped path e.message) s
      generalize htold : { s with
        notices := s.notices ++ [Notice.definitionSkipped path e.message] } = told at htell
      have hdb : told.database = s.database := by rw [← htold]
      obtain ⟨tally', after, hrest, hprogress⟩ :=
        ih { tally with unreadable := tally.unreadable + 1 } told
      have hlibrary : s.SameLibrary told := .of_database_eq hdb
      refine ⟨tally', after, (Job.outcome_bind_of_ok htell).trans hrest,
        hlibrary.trans hprogress.sameLibrary, hprogress.rowsOf_cons hlibrary fun name => ?_,
        fun name => ?_, ?_⟩
      · rw [hdb]
        rfl
      · rw [hprogress.mem_names_iff, defines_cons_error]
      · rw [hprogress.unreadable_eq_zero_iff]
        refine iff_of_false (fun h => absurd h.1 (Nat.succ_ne_zero _)) fun h => ?_
        obtain ⟨d, hd⟩ := h.2 _ (List.mem_cons_self ..)
        exact absurd hd (by simp)
    · -- a definition is compiled, and the others go on from what that leaves
      obtain ⟨done, mid, hone, hlibrary, hrows⟩ := exists_compileOne (ε := ε) policy d s
      obtain ⟨tally', after, hrest, hprogress⟩ := ih { tally with
        names := tally.names ++ [d.name]
        compiled := if done then tally.compiled + 1 else tally.compiled } mid
      refine ⟨tally', after, (Job.outcome_bind_of_ok hone).trans hrest,
        hlibrary.trans hprogress.sameLibrary, hprogress.rowsOf_cons hlibrary (hrows path),
        fun name => ?_, ?_⟩
      · rw [hprogress.mem_names_iff, defines_cons_ok, List.mem_append, List.mem_singleton,
          or_assoc, eq_comm (a := name)]
      · rw [hprogress.unreadable_eq_zero_iff]
        refine and_congr_right fun _ => ⟨fun h => ?_, fun h => ?_⟩
        · exact List.forall_mem_cons.mpr ⟨⟨d, rfl⟩, h⟩
        · exact (List.forall_mem_cons.mp h).2

/-! ### Pruning -/

/-- What dropping the sets without a definition does. -/
theorem exists_prune {names : List String} (hnames : names ≠ []) (s : Session σ) :
    ∃ after, (prune names : Job σ ε Unit).outcome s = (.ok (), after) ∧ s.SameLibrary after ∧
      ∀ name, Store.rowsOf after.database name
        = if name ∈ names then Store.rowsOf s.database name else [] := by
  have hattempt : ((Job.store (Store.pruneRoots names)).attempt
      : Job σ ε (Except StoreError (List String))).outcome s
        = (.ok ((Job.store (Store.pruneRoots names)).outcome s).1,
          ((Job.store (Store.pruneRoots names)).outcome s).2) :=
    Job.outcome_attempt _ s
  rw [Job.outcome_store] at hattempt
  cases hstored : s.database.rootPlaylists with
  | none =>
    -- without the table there is nothing to drop
    rw [Store.outcome_pruneRoots_of_none hstored hnames] at hattempt
    refine ⟨_, Job.outcome_bind_of_ok hattempt, .of_database_eq rfl, fun name => ?_⟩
    show Store.rowsOf s.database name = _
    have hempty : Store.rowsOf s.database name = [] := by
      rw [Store.rowsOf, hstored]
      rfl
    rw [hempty, ite_self]
  | some stored =>
    obtain ⟨removed, hprune⟩ := Store.outcome_pruneRoots hstored hnames
    rw [hprune] at hattempt
    refine ⟨_, (Job.outcome_bind_of_ok hattempt).trans (Job.outcome_forM_tell _ removed _),
      ⟨rfl, by rw [hstored]; rfl⟩, fun name => ?_⟩
    unfold Store.rowsOf
    rw [hstored, Option.getD_some, Option.getD_some, List.filter_filter]
    by_cases hname : name ∈ names
    · rw [if_pos hname]
      refine List.filter_congr fun r _ => ?_
      by_cases hr : r.name = name
      · simp [hr, hname]
      · simp [hr]
    · rw [if_neg hname, List.filter_eq_nil_iff]
      intro r _
      by_cases hr : r.name = name
      · simp [hr, hname]
      · simp [hr]

/-! ### The end -/

theorem compiledAs_eq_some {root : RootPlaylist} (h : compiledAs policy s name file = some root) :
    ∃ path d t, file = (path, .ok d) ∧ d.name = name ∧
      (compile d policy).outcome s = (.ok root, t) := by
  obtain ⟨path, e | d⟩ := file
  · exact absurd h (by simp [compiledAs])
  · dsimp only [compiledAs] at h
    split at h
    next hname =>
      rcases hcompile : (compile d policy).outcome s with ⟨e | root', t⟩
      · rw [hcompile] at h
        exact absurd h (by simp [Except.toOption])
      · rw [hcompile] at h
        obtain rfl : root' = root := Option.some.inj h
        exact ⟨path, d, t, rfl, hname, hcompile⟩
    next => exact absurd h (by simp)

/-- The last definition of a name that can be compiled is one of the files. -/
theorem exists_of_lastCompiled {root : RootPlaylist}
    (h : lastCompiled policy s name files = some root) :
    ∃ path d t, (path, .ok d) ∈ files ∧ d.name = name ∧
      (compile d policy).outcome s = (.ok root, t) := by
  obtain ⟨file, hmem, hfile⟩ := List.mem_filterMap.mp (List.mem_of_getLast? h)
  obtain ⟨path, d, t, rfl, hname, hcompile⟩ := compiledAs_eq_some hfile
  exact ⟨path, d, t, hmem, hname, hcompile⟩

/-- What stands under a name after a build of some files. -/
structure Settles (policy : UnresolvedPolicy) (files : List File) (s : Session σ)
    (after : Database) (name : String) : Prop where
  /-- The last definition of the name that can be compiled decides. -/
  rows_of_compiled : ∀ root, lastCompiled policy s name files = some root →
    Store.rowsOf after name = root.rows
  /-- Where none can be compiled, nothing changes. -/
  rows_of_defines : lastCompiled policy s name files = none → Defines files name →
    Store.rowsOf after name = Store.rowsOf s.database name
  /-- A set without a definition goes. -/
  rows_of_allRead : ¬Defines files name → AllRead files → Store.rowsOf after name = []
  /-- A file that cannot be read may be the definition of any set. -/
  rows_of_unreadable : ¬Defines files name → ¬AllRead files →
    Store.rowsOf after name = Store.rowsOf s.database name

theorem lastCompiled_of_not_defines (h : ¬Defines files name) :
    lastCompiled policy s name files = none := by
  cases hlast : lastCompiled policy s name files with
  | none => rfl
  | some root =>
    obtain ⟨path, d, -, hmem, hname, -⟩ := exists_of_lastCompiled hlast
    exact absurd ⟨path, d, hmem, hname⟩ h

/-- Progress without a loss is an end where some file could not be read. -/
theorem Progress.settles_of_unreadable {tally tally' : Tally}
    (h : Progress policy files tally tally' s after) (hread : ¬AllRead files) (name : String) :
    Settles policy files s after.database name where
  rows_of_compiled root hroot := by
    rw [h.rowsOf_eq, hroot]
    rfl
  rows_of_defines hnone _ := by
    rw [h.rowsOf_eq, hnone]
    rfl
  rows_of_allRead _ hall := absurd hall hread
  rows_of_unreadable hdefines _ := by
    rw [h.rowsOf_eq, lastCompiled_of_not_defines hdefines]
    rfl

/-- Where every file could be read, the sets without a definition are dropped. -/
theorem Progress.settles_of_allRead {tally : Tally} {mid : Session σ}
    (h : Progress policy files .start tally s mid) (hread : AllRead files)
    {db : Database} (hdb : ∀ name, Store.rowsOf db name
      = if name ∈ tally.names then Store.rowsOf mid.database name else []) (name : String) :
    Settles policy files s db name := by
  have hnames : name ∈ tally.names ↔ Defines files name := by
    rw [h.mem_names_iff]
    exact or_iff_right List.not_mem_nil
  refine ⟨fun root hroot => ?_, fun hnone hdefines => ?_, fun hdefines _ => ?_,
    fun _ hunread => absurd hread hunread⟩
  · obtain ⟨path, d, -, hmem, hname, -⟩ := exists_of_lastCompiled hroot
    rw [hdb, if_pos (hnames.mpr ⟨path, d, hmem, hname⟩), h.rowsOf_eq, hroot]
    rfl
  · rw [hdb, if_pos (hnames.mpr hdefines), h.rowsOf_eq, hnone]
    rfl
  · rw [hdb, if_neg fun hmem => hdefines (hnames.mp hmem)]

/-- **A build settles what stands under each name.** -/
theorem exists_build (policy : UnresolvedPolicy) (directory : String) (hne : files ≠ [])
    (s : Session σ) :
    ∃ after, (build policy directory files : Job σ ε Unit).outcome s = (.ok (), after) ∧
      s.SameLibrary after ∧ ∀ name, Settles policy files s after.database name := by
  obtain ⟨tally, mid, hall, hprogress⟩ := progress_compileAll (ε := ε) policy files .start s
  have hread : tally.unreadable = 0 ↔ AllRead files := by
    rw [hprogress.unreadable_eq_zero_iff]
    exact and_iff_right rfl
  have hempty : ¬files.isEmpty = true := fun h => hne (List.isEmpty_iff.mp h)
  unfold build
  rw [if_neg hempty, Job.outcome_bind_of_ok hall]
  by_cases hzero : tally.unreadable = 0
  · -- some definition was read, so there are names to keep
    have hnames : tally.names ≠ [] := by
      obtain ⟨⟨path, parsed⟩, hfile⟩ := List.exists_mem_of_ne_nil files hne
      obtain ⟨d, rfl⟩ := hread.mp hzero _ hfile
      exact List.ne_nil_of_mem ((hprogress.mem_names_iff d.name).mpr (Or.inr ⟨path, d, hfile, rfl⟩))
    obtain ⟨pruned, hprune, hlibrary, hrows⟩ := exists_prune (ε := ε) hnames mid
    rw [if_pos hzero]
    refine ⟨_, Job.outcome_bind_of_ok hprune,
      hprogress.sameLibrary.trans (hlibrary.trans (.of_database_eq rfl)), fun name => ?_⟩
    exact hprogress.settles_of_allRead (hread.mp hzero) hrows name
  · rw [if_neg hzero]
    refine ⟨_, Job.outcome_tell _ mid, hprogress.sameLibrary.trans (.of_database_eq rfl),
      fun name => ?_⟩
    exact hprogress.settles_of_unreadable (fun h => hzero (hread.mpr h)) name

/-- What a definition comes to at its turn is what it would have come to before the build. -/
theorem result_compile_turn (policy : UnresolvedPolicy) (before : List File) (d : Definition)
    (s : Session σ) :
    ((compile d policy).outcome ((compileAll policy before .start : Job σ ε Tally).outcome s).2).1
      = ((compile d policy).outcome s).1 := by
  obtain ⟨tally, mid, hbefore, hprogress⟩ := progress_compileAll (ε := ε) policy before .start s
  rw [hbefore]
  exact result_compile_of_library hprogress.sameLibrary.database_eq hprogress.sameLibrary.isSome_eq

/-- What the last definition of a name comes to is loaded under that name. -/
theorem outcome_loadRoot_of_lastCompiled {root : RootPlaylist} (hlibrary : s.SameLibrary after)
    (hlast : lastCompiled policy s name files = some root)
    (hrows : Store.rowsOf after.database name = root.rows) :
    (Store.loadRoot name).outcome after.database = (.ok root, after.database) := by
  obtain ⟨path, d, t, -, rfl, hcompile⟩ := exists_of_lastCompiled hlast
  obtain ⟨mid, hcandidates, -, -⟩ := outcome_compile_eq_ok.mp hcompile
  obtain ⟨hname, hsorted, -⟩ := Compile.candidates_spec hcandidates
  -- compiling succeeds only where the table is there
  obtain ⟨stored, hstored⟩ : ∃ stored, after.database.rootPlaylists = some stored := by
    obtain ⟨before, hbefore, -⟩ := database_compile hcompile
    rw [← Option.isSome_iff_exists, hlibrary.isSome_eq, hbefore]
    rfl
  rw [← hname] at hrows ⊢
  exact Store.outcome_loadRoot_of_rowsOf hstored hsorted hrows

end Build

/-- **What is stored under each name after a build.**  The files are those that the folder holds, each
once and in the order of their paths.  Only stored root playlists change, and none of them without
files.  Otherwise, under a name stands what the last definition of that name
that can be compiled comes to; else what stood there before, if a file defines the name; else
nothing, if every file could be read; else what stood there before.  A definition comes to the same
at its turn as before the build. -/
theorem runBuild_endState (settings : Settings) (folder : Option (List FolderEntry))
    (s : Session σ) :
    let policy := settings.unresolved
    let files := (folder.map (Folder.load settings.playlistsDirectory)).getD []
    let after := ((Command.runBuild settings folder).outcome s).2.database
    (∀ entries, folder = some entries →
      (∀ file, file ∈ files ↔ Folder.Holds settings.playlistsDirectory entries file) ∧
      ((entries.map FolderEntry.name).Nodup → files.Pairwise fun a b => a.1 < b.1)) ∧
    files.Pairwise (fun a b => a.1 ≤ b.1) ∧
    (folder.isSome → ((Command.runBuild settings folder).outcome s).1 = .ok ()) ∧
    after = { s.database with rootPlaylists := after.rootPlaylists } ∧
    (files = [] → after = s.database) ∧
    (files ≠ [] → ∀ name, Build.Settles policy files s after name ∧
      ∀ root, Build.lastCompiled policy s name files = some root →
        (Store.loadRoot name).outcome after = (.ok root, after)) ∧
    ∀ before path d rest, files = before ++ (path, .ok d) :: rest →
      ((compile d policy).outcome
          ((Build.compileAll policy before .start : Job σ Notice Build.Tally).outcome s).2).1
        = ((compile d policy).outcome s).1 := by
  intro policy files after
  have hturn : ∀ before path d rest, files = before ++ (path, .ok d) :: rest →
      ((compile d policy).outcome
          ((Build.compileAll policy before .start : Job σ Notice Build.Tally).outcome s).2).1
        = ((compile d policy).outcome s).1 :=
    fun before _ d _ _ => Build.result_compile_turn policy before d s
  cases folder with
  | none =>
    refine ⟨nofun, .nil, fun h => ?_, rfl, fun _ => rfl, fun h => absurd rfl h, hturn⟩
    exact absurd h Bool.false_ne_true
  | some entries =>
    have hholds : ∀ entries', some entries = some entries' →
        (∀ file, file ∈ files ↔ Folder.Holds settings.playlistsDirectory entries' file) ∧
        ((entries'.map FolderEntry.name).Nodup → files.Pairwise fun a b => a.1 < b.1) := by
      rintro _ ⟨⟩
      exact ⟨fun _ => Folder.mem_load, Folder.pairwise_lt_load _⟩
    have hsorted : files.Pairwise fun a b => a.1 ≤ b.1 := Folder.pairwise_load _ entries
    by_cases hfiles : files = []
    · -- an empty folder is only worth a notice
      have hrun : (Command.runBuild settings (some entries)).outcome s
          = (.ok (), { s with
              notices := s.notices ++ [.noDefinitions settings.playlistsDirectory] }) := by
        show (build policy settings.playlistsDirectory files).outcome s = _
        rw [hfiles]
        rfl
      have hafter : after = s.database := congrArg (fun r => r.2.database) hrun
      refine ⟨hholds, hsorted, fun _ => congrArg Prod.fst hrun, ?_, fun _ => hafter,
        fun h => absurd hfiles h, hturn⟩
      rw [hafter]
    · obtain ⟨last, hrun, hlibrary, hsettles⟩ :=
        Build.exists_build (ε := Notice) policy settings.playlistsDirectory hfiles s
      have hrun' : (Command.runBuild settings (some entries)).outcome s = (.ok (), last) := hrun
      have hafter : after = last.database := congrArg (fun r => r.2.database) hrun'
      refine ⟨hholds, hsorted, fun _ => congrArg Prod.fst hrun', ?_, fun h => absurd h hfiles,
        fun _ name => ?_, hturn⟩
      · rw [hafter]
        exact hlibrary.database_eq
      · rw [hafter]
        exact ⟨hsettles name, fun root hroot => Build.outcome_loadRoot_of_lastCompiled hlibrary
          hroot ((hsettles name).rows_of_compiled root hroot)⟩

/-! #### A folder with three definitions of one name -/

/-- The text of a definition with one pin. -/
def jazzText (track : String) : String :=
  "\x7b\"name\":\"jazz\",\"additional_tracks\":[\x7b\"name\":\"" ++ track ++ "\"\x7d]\x7d"

/-- The definition in that text. -/
def jazzDefinition (track : String) : Definition where
  name := "jazz"
  features := none
  genres := []
  artists := []
  pins := [⟨track, none, false⟩]

/-- Three definitions, not in order, beside a file of another kind and a directory. -/
def jazzFolder : List FolderEntry :=
  [.file "c.json" (some (jazzText "Nine")), .file "b.json" (some (jazzText "Two")),
    .file "jazz.txt" (some "jazz"), .other "d.json", .file "a.json" (some (jazzText "One"))]

/-- A pin that does not resolve ends the compiling. -/
def jazzSettings : Settings := { Settings.local "" "lists" with unresolved := .fail }

theorem load_jazzFolder : Folder.load "lists" jazzFolder =
    [("lists/a.json", .ok (jazzDefinition "One")), ("lists/b.json", .ok (jazzDefinition "Two")),
      ("lists/c.json", .ok (jazzDefinition "Nine"))] := by
  have hfound : jazzFolder.filterMap Folder.definitionFile? =
      [("c.json", some (jazzText "Nine")), ("b.json", some (jazzText "Two")),
        ("a.json", some (jazzText "One"))] := by decide +kernel
  have hsorted : Folder.definitionFiles jazzFolder =
      [("a.json", some (jazzText "One")), ("b.json", some (jazzText "Two")),
        ("c.json", some (jazzText "Nine"))] := by
    rw [Folder.definitionFiles, hfound]
    simp [List.mergeSort]
  rw [Folder.load, hsorted]
  decide +kernel

/-- The first two definitions are compiled and the third is not, as there is no such track.  So the
second one stands, and the set without a definition is gone. -/
theorem runBuild_jazzFolder :
    let after := ((Command.runBuild jazzSettings (some jazzFolder)).outcome smallSession).2.database
    (Store.loadRoot "jazz").outcome after = (.ok ⟨"jazz", [⟨"t2", false⟩]⟩, after) ∧
      Store.rowsOf after "rock by Ann" = [] := by
  have hlast : Build.lastCompiled .fail smallSession "jazz"
      [("lists/a.json", .ok (jazzDefinition "One")), ("lists/b.json", .ok (jazzDefinition "Two")),
        ("lists/c.json", .ok (jazzDefinition "Nine"))] = some ⟨"jazz", [⟨"t2", false⟩]⟩ := by
    with_unfolding_all rfl
  obtain ⟨-, -, -, -, -, hsettles, -⟩ := runBuild_endState jazzSettings (some jazzFolder) smallSession
  have hfiles : ((some jazzFolder).map (Folder.load jazzSettings.playlistsDirectory)).getD []
      = _ := load_jazzFolder
  rw [hfiles] at hsettles
  have hsettles := hsettles (List.cons_ne_nil _ _)
  refine ⟨(hsettles "jazz").2 _ hlast, (hsettles "rock by Ann").1.rows_of_allRead ?_ ?_⟩
  · rintro ⟨path, d, hmem, hname⟩
    have hjazz : d.name = "jazz" := by
      simp only [List.mem_cons, Prod.mk.injEq, Except.ok.injEq, List.not_mem_nil, or_false] at hmem
      obtain ⟨-, rfl⟩ | ⟨-, rfl⟩ | ⟨-, rfl⟩ := hmem <;> rfl
    exact absurd (hjazz.symm.trans hname) (by decide)
  · simp [Build.AllRead]

end SmartPlaylist
