import SmartPlaylist.Proofs.Selection.Accounting

/-!
# Repeated tracks

The tracks drawn for a selection are distinct when the eligible ones are.  What is recommended is
put behind them as it is answered, up to the places still empty, and is not compared with what is
there.  So a selection repeats a track exactly when some answer, as far as it is taken, repeats one:
a track of the answer itself, one of an answer before, or one that was drawn.

## Main definitions

* `Request.taken` — what is taken of an answer.
* `Request.BringsNew` — what is taken repeats nothing.

## Main results

* `nodup_append_taken_iff`, `nodup_filled_iff` — a list stays without repetition, by one answer and
  by all.
* `select_nodup_iff` — **a selection repeats no track iff every answer brings new ones.**
* `select_repeats` — a service can make a selection repeat a track.
-/

namespace SmartPlaylist

namespace Selection

variable {target : Nat} {tracks : List String}

/-! ### Answers -/

namespace Request

/-- What is taken of the answer: as much as there are places still empty. -/
def taken (r : Request) (target : Nat) (tracks : List String) : List String :=
  r.recommended.take (target - tracks.length)

/-- What is taken of the answer repeats nothing: neither itself nor the tracks that are there. -/
structure BringsNew (r : Request) (target : Nat) (tracks : List String) : Prop where
  nodup : (r.taken target tracks).Nodup
  not_mem : ∀ id ∈ r.taken target tracks, id ∉ tracks

end Request

/-- A list stays without repetition by an answer that brings new tracks, and by no other. -/
theorem nodup_append_taken_iff {r : Request} :
    (tracks ++ r.taken target tracks).Nodup ↔ tracks.Nodup ∧ r.BringsNew target tracks := by
  rw [List.nodup_append]
  constructor
  · rintro ⟨htracks, htaken, hdisjoint⟩
    exact ⟨htracks, htaken, fun id hid hmem => hdisjoint id hmem id hid rfl⟩
  · rintro ⟨htracks, hnew⟩
    refine ⟨htracks, hnew.nodup, ?_⟩
    rintro id hmem id' hid rfl
    exact hnew.not_mem id hid hmem

/-! ### Filled lists -/

theorem filled_cons (target : Nat) (tracks : List String) (r : Request) (rest : List Request) :
    filled target tracks (r :: rest)
      = filled target (tracks ++ r.taken target tracks) rest := rfl

/-- A filled list repeats nothing iff it began so and every answer brought new tracks. -/
theorem nodup_filled_iff (target : Nat) (tracks : List String) (requests : List Request) :
    (filled target tracks requests).Nodup ↔
      tracks.Nodup ∧ ∀ before r after, requests = before ++ r :: after →
        r.BringsNew target (filled target tracks before) := by
  induction requests generalizing tracks with
  | nil => exact ⟨fun h => ⟨h, fun _ _ _ hr => absurd hr (by simp)⟩, fun h => h.1⟩
  | cons q rest ih =>
    rw [filled_cons, ih, nodup_append_taken_iff, and_assoc]
    refine and_congr_right fun _ => ?_
    constructor
    · rintro ⟨hfirst, hrest⟩ before r after hr
      cases before with
      | nil =>
        obtain ⟨rfl, -⟩ := List.cons.inj hr
        exact hfirst
      | cons p before =>
        obtain ⟨rfl, htail⟩ := List.cons.inj hr
        exact hrest before r after htail
    · intro h
      refine ⟨h [] q rest rfl, ?_⟩
      intro before r after hr
      exact h (q :: before) r after (by rw [hr, List.cons_append])

end Selection

/-! ### Selections -/

open Selection

variable {σ : Type}

/-- **A selection repeats no track iff every answer brings new ones.**  The tracks that were drawn
are distinct eligible ones; and however the rest is shuffled in, the tracks are distinct exactly
when what is taken of each answer repeats neither itself nor anything that was drawn or taken
before. -/
theorem select_nodup_iff (service : PlaylistService σ) (name : String)
    (eligible : List RootTrack) (options : SelectionOptions) (s : Session σ)
    (hroom : options.backfillCount < options.targetSize)
    (hkeyed : (eligible.map RootTrack.trackId).Nodup) :
    ∃ (a : Account) (result : Except SelectionError Selection) (after : Session (Recorded σ)),
      (select service name eligible options).outcome s = (result, after.forget) ∧
      (select service.recorded name eligible options).outcome s.recording = (result, after) ∧
      after.remote.calls = a.requests.map Request.call ∧
      a.picked.Nodup ∧ a.picked ⊆ eligible.map RootTrack.trackId ∧
      ∀ selection, result = .ok selection →
        selection.tracks.Perm (filled options.targetSize a.picked a.requests) ∧
        (selection.tracks.Nodup ↔ ∀ before r after, a.requests = before ++ r :: after →
          r.BringsNew options.targetSize (filled options.targetSize a.picked before)) := by
  obtain ⟨a, result, after, houtcome, hcalls, hexplains⟩ :=
    exists_account service name eligible options s.recording hroom
  have hmirror := (mirrors_select service name eligible options).outcome_eq houtcome
  have hpicked : a.picked.Nodup := by
    obtain ⟨drawn, hperm, hsub⟩ := hexplains.picked_subperm
    exact hperm.nodup_iff.mp (hsub.nodup hkeyed)
  refine ⟨a, result, after, hmirror, houtcome, hcalls, hpicked, hexplains.picked_subperm.subset, ?_⟩
  rintro selection rfl
  obtain ⟨-, hcovers⟩ := hexplains.covers_of_ok
  refine ⟨hcovers.tracks_perm, ?_⟩
  rw [hcovers.tracks_perm.nodup_iff, nodup_filled_iff]
  exact and_iff_right hpicked

/-- Two of three tracks are drawn, and both answers bring new tracks. -/
theorem nodup_overlongAnswer :
    ∃ a : Account, a.picked.Nodup ∧
      ["r", "t", "a", "s", "b"].Perm (filled 5 a.picked a.requests) ∧
      ∀ before r after, a.requests = before ++ r :: after →
        r.BringsNew 5 (filled 5 a.picked before) := by
  obtain ⟨a, result, after, houtcome, -, -, hpicked, -, hresult⟩ :=
    select_nodup_iff scriptedService "mix" [⟨"a", true⟩, ⟨"b", false⟩, ⟨"c", true⟩]
      { targetSize := 5, backfillCount := 3 } scriptedSession (by decide) (by decide)
  have hselection : result = .ok ⟨["r", "t", "a", "s", "b"], 2, 3, 2⟩ := by
    refine (congrArg Prod.fst houtcome).symm.trans ?_
    decide +kernel
  obtain ⟨hperm, hiff⟩ := hresult _ hselection
  exact ⟨a, hpicked, hperm, hiff.mp (by decide)⟩

/-- A session in which a candidate is recommended to go with itself. -/
def selfRecommended : Session (List (Except RemoteError (List String))) where
  database := {}
  remote := [.ok ["a", "b"], .ok ["c"]]
  entropy := { word := fun _ => 0 }

/-- Not every selection is without repetition: the only candidate may be recommended to go with
itself. -/
theorem select_repeats :
    ¬∀ (σ : Type) (service : PlaylistService σ) (name : String) (eligible : List RootTrack)
      (options : SelectionOptions) (s : Session σ) (selection : Selection),
      options.backfillCount < options.targetSize → (eligible.map RootTrack.trackId).Nodup →
      ((select service name eligible options).outcome s).1 = .ok selection →
      selection.tracks.Nodup := by
  intro h
  have hselection : ((select scriptedService "mix" [⟨"a", true⟩]
      { targetSize := 3, backfillCount := 2 }).outcome selfRecommended).1
        = .ok ⟨["a", "a", "b"], 1, 2, 1⟩ := by decide +kernel
  have hnodup := h _ _ _ _ _ _ _ (by decide) (by decide) hselection
  exact absurd hnodup (by decide)

end SmartPlaylist
