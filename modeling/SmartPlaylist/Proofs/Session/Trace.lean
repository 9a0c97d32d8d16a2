import SmartPlaylist.Proofs.Session.Outcome

/-!
# Traces

A state may carry a trace of what was done with it.  A program that is run on such states does what
it does on the states alone, and beside that the trace grows: one *projects* onto the other.  With
the trace of a service one can say which calls a job makes, and in which order.

## Main definitions

* `Projects` — a program on larger states does what a program on smaller ones does.
* `Leaves` — a program makes a trace grow, by marks of one kind.
* `Traced` — a state with what was done so far.
* `LibraryCall`, `LibraryService.traced` — a service that keeps a trace of its calls.

## Main results

* `Projects.bind` — sequences project when their parts do.
* `Leaves.bind` — the marks of a sequence.
* `Job.projects_call`, `Job.projects_store`, … — the steps of jobs.
-/

namespace SmartPlaylist

variable {σ σ' ε ε' α β κ : Type}

/-! ### Projections -/

/-- The program on larger states gives what the program on smaller ones gives, and leaves a state
that projects onto the one left there. -/
def Projects (π : σ' → σ) (a' : ExceptT ε (StateM σ') α) (a : ExceptT ε (StateM σ) α) : Prop :=
  ∀ s, a.run (π s) = ((a'.run s).1, π (a'.run s).2)

namespace Projects

variable {π : σ' → σ} {a' : ExceptT ε (StateM σ') α} {a : ExceptT ε (StateM σ) α}
  {f' : α → ExceptT ε (StateM σ') β} {f : α → ExceptT ε (StateM σ) β}

/-- What a run on larger states says about the run on smaller ones. -/
theorem run_eq {s after : σ'} {result : Except ε α} (h : Projects π a' a)
    (hrun : a'.run s = (result, after)) : a.run (π s) = (result, π after) := by
  rw [h s, hrun]

theorem pure (x : α) :
    Projects π (Pure.pure x : ExceptT ε (StateM σ') α) (Pure.pure x) := fun _ => rfl

theorem throw (e : ε) :
    Projects π (throw e : ExceptT ε (StateM σ') α) (throw e) := fun _ => rfl

theorem bind (h : Projects π a' a) (hf : ∀ x, Projects π (f' x) (f x)) :
    Projects π (a' >>= f') (a >>= f) := by
  intro s
  rcases hrun : a'.run s with ⟨e | x, mid⟩
  · rw [run_bind_of_error hrun, run_bind_of_error (h.run_eq hrun)]
  · rw [run_bind_of_ok hrun, run_bind_of_ok (h.run_eq hrun)]
    exact hf x mid

theorem filterMapM {g' : α → ExceptT ε (StateM σ') (Option β)}
    {g : α → ExceptT ε (StateM σ) (Option β)} (hg : ∀ x, Projects π (g' x) (g x)) :
    ∀ xs : List α, Projects π (xs.filterMapM g') (xs.filterMapM g)
  | [] => Projects.pure []
  | x :: xs => by
    rw [List.filterMapM_cons, List.filterMapM_cons]
    refine (hg x).bind fun y => ?_
    cases y with
    | none => exact Projects.filterMapM hg xs
    | some y => exact (Projects.filterMapM hg xs).bind fun _ => .pure _

theorem forM {g' : α → ExceptT ε (StateM σ') PUnit} {g : α → ExceptT ε (StateM σ) PUnit}
    (hg : ∀ x, Projects π (g' x) (g x)) :
    ∀ xs : List α, Projects π (xs.forM g') (xs.forM g)
  | [] => Projects.pure _
  | x :: xs => (hg x).bind fun _ => Projects.forM hg xs

end Projects

/-! ### Growing traces -/

/-- The program makes a trace grow, by marks with a property. -/
def Leaves (trace : σ → List κ) (P : κ → Prop) (a : ExceptT ε (StateM σ) α) : Prop :=
  ∀ s, ∃ marks, trace (a.run s).2 = trace s ++ marks ∧ ∀ m ∈ marks, P m

namespace Leaves

variable {trace : σ → List κ} {P : κ → Prop} {a : ExceptT ε (StateM σ) α}
  {f : α → ExceptT ε (StateM σ) β}

theorem of_eq (h : ∀ s, trace (a.run s).2 = trace s) : Leaves trace P a :=
  fun s => ⟨[], (h s).trans (List.append_nil _).symm, List.forall_mem_nil _⟩

theorem throw (e : ε) : Leaves trace P (throw e : ExceptT ε (StateM σ) α) := of_eq fun _ => rfl

/-- The marks of a sequence are those of its first part, and those of the second after a success. -/
theorem bind (h : Leaves trace P a) (hf : ∀ x, Leaves trace P (f x)) : Leaves trace P (a >>= f) := by
  intro s
  obtain ⟨marks, htrace, hmarks⟩ := h s
  rcases hrun : a.run s with ⟨e | x, mid⟩
  · rw [hrun] at htrace
    rw [run_bind_of_error hrun]
    exact ⟨marks, htrace, hmarks⟩
  · rw [hrun] at htrace
    obtain ⟨rest, htrace', hrest⟩ := hf x mid
    rw [run_bind_of_ok hrun]
    refine ⟨marks ++ rest, ?_, List.forall_mem_append.mpr ⟨hmarks, hrest⟩⟩
    rw [htrace', htrace, List.append_assoc]

end Leaves

/-! ### Jobs -/

/-- The session with another state of the service. -/
def Session.map (π : σ' → σ) (s : Session σ') : Session σ where
  database := s.database
  remote := π s.remote
  notices := s.notices
  entropy := s.entropy

namespace Job

variable {π : σ' → σ}

theorem projects_store (a : Store.Action α) :
    Projects (Session.map π) (Job.store a) (Job.store a) := fun _ => rfl

theorem projects_tell (n : Notice) :
    Projects (Session.map π) (Job.tell n : Job σ' ε Unit) (Job.tell n) := fun _ => rfl

theorem projects_call {c' : Call σ' α} {c : Call σ α}
    (h : ∀ r, c (π r) = ((c' r).1, π (c' r).2)) :
    Projects (Session.map π) (Job.call c') (Job.call c) := by
  intro s
  show (Job.call c).outcome (s.map π)
    = (((Job.call c').outcome s).1, ((Job.call c').outcome s).2.map π)
  have hremote : (s.map π).remote = π s.remote := rfl
  rw [outcome_call, outcome_call, hremote, h]
  rfl

theorem projects_failAs {g : ε → ε'} {j' : Job σ' ε α} {j : Job σ ε α}
    (h : Projects (Session.map π) j' j) :
    Projects (Session.map π) (j'.failAs g) (j.failAs g) := by
  intro s
  have hs : j.outcome (s.map π) = ((j'.outcome s).1, (j'.outcome s).2.map π) := h s
  show (j.failAs g).outcome (s.map π)
    = (((j'.failAs g).outcome s).1, ((j'.failAs g).outcome s).2.map π)
  rw [outcome_failAs, outcome_failAs, hs]
  rcases j'.outcome s with ⟨e | x, mid⟩ <;> rfl

end Job

/-! ### Traces -/

/-- A state and what was done with it so far. -/
structure Traced (σ κ : Type) where
  state : σ
  /-- The oldest first. -/
  trace : List κ := []

/-- A call that leaves a mark with its answer in the trace. -/
def traceCall (mark : Except RemoteError α → κ) (c : Call σ α) : Call (Traced σ κ) α := fun r =>
  ((c r.state).1, ⟨(c r.state).2, r.trace ++ [mark (c r.state).1.result]⟩)

/-- Keeping a trace changes nothing. -/
theorem Job.projects_traceCall (mark : Except RemoteError α → κ) (c : Call σ α) :
    Projects (Session.map Traced.state) (Job.call (traceCall mark c)) (Job.call c) :=
  projects_call fun _ => rfl

/-- A traced call leaves its mark, and the remarks of the service, and nothing else. -/
theorem Job.exists_traceCall (mark : Except RemoteError α → κ) (c : Call σ α)
    (s : Session (Traced σ κ)) :
    ∃ after, (Job.call (traceCall mark c)).outcome s = ((c s.remote.state).1.result, after) ∧
      after.database = s.database ∧
      after.remote.trace = s.remote.trace ++ [mark (c s.remote.state).1.result] ∧
      after.notices = s.notices ++ (c s.remote.state).1.notices.map Notice.remote :=
  ⟨_, rfl, rfl, rfl, rfl⟩

/-- A call of a library service, with its answer. -/
inductive LibraryCall where
  | savedTracks (offset limit : Nat) (answer : Except RemoteError (Page SavedTrack))
  | recentlyPlayed (after : Option Moment) (answer : Except RemoteError (List PlayedTrack))
  | artists (ids : List String) (answer : Except RemoteError (List RemoteArtist))
  | audioFeatures (ids : List String) (answer : Except RemoteError (List RemoteFeatures))

/-- A service that keeps a trace of its calls. -/
def LibraryService.traced (service : LibraryService σ) : LibraryService (Traced σ LibraryCall) where
  savedTracks offset limit :=
    traceCall (.savedTracks offset limit) (service.savedTracks offset limit)
  recentlyPlayed after := traceCall (.recentlyPlayed after) (service.recentlyPlayed after)
  artists ids := traceCall (.artists ids) (service.artists ids)
  audioFeatures ids := traceCall (.audioFeatures ids) (service.audioFeatures ids)

/-- The session without the trace. -/
def Session.untraced (s : Session (Traced σ κ)) : Session σ := s.map Traced.state

end SmartPlaylist
