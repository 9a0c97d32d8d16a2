import SmartPlaylist.Proofs.Session.Trace

/-!
# Recorded calls

A service can keep a record of the calls made to it and of its answers.  A job cannot tell a
recorded service from the service itself: it comes to the same on both, and the record says what it
asked for.

## Main definitions

* `ServiceCall` — a call with its answer.
* `PlaylistService.recorded` — a service that keeps a record.
* `Session.recording`, `Session.forget` — sessions with an empty record, and without one.
* `Job.Mirrors` — a job on the recorded service does what a job on the service does.

## Main results

* `Job.Mirrors.call`, `Job.Mirrors.bind`, … — **recording changes nothing**, step by step.
-/

namespace SmartPlaylist

variable {σ ε ε' α β : Type}

/-! ### Records -/

/-- A call with its answer. -/
inductive ServiceCall where
  | userPlaylists (offset limit : Nat) (answer : Except RemoteError (Page RemotePlaylist))
  | createPlaylist (name : String) (answer : Except RemoteError String)
  | replaceTracks (playlistId : String) (trackIds : List String)
      (answer : Except RemoteError Unit)
  | recommendations (seeds : List String) (limit : Nat)
      (answer : Except RemoteError (List String))

/-- The state of a service and the calls made so far. -/
structure Recorded (σ : Type) where
  remote : σ
  /-- The oldest first. -/
  calls : List ServiceCall := []

/-- A call that is recorded with its answer. -/
def recordCall (entry : Except RemoteError α → ServiceCall) (c : Call σ α) :
    Call (Recorded σ) α := fun r =>
  ((c r.remote).1, ⟨(c r.remote).2, r.calls ++ [entry (c r.remote).1.result]⟩)

/-- A service that keeps a record. -/
def PlaylistService.recorded (service : PlaylistService σ) : PlaylistService (Recorded σ) where
  userPlaylists offset limit :=
    recordCall (.userPlaylists offset limit) (service.userPlaylists offset limit)
  createPlaylist name := recordCall (.createPlaylist name) (service.createPlaylist name)
  replaceTracks playlistId trackIds :=
    recordCall (.replaceTracks playlistId trackIds) (service.replaceTracks playlistId trackIds)
  recommendations seeds limit :=
    recordCall (.recommendations seeds limit) (service.recommendations seeds limit)

namespace Session

/-- The session with an empty record. -/
def recording (s : Session σ) : Session (Recorded σ) where
  database := s.database
  remote := { remote := s.remote }
  notices := s.notices
  entropy := s.entropy

/-- The session without its record. -/
def forget (s : Session (Recorded σ)) : Session σ where
  database := s.database
  remote := s.remote.remote
  notices := s.notices
  entropy := s.entropy

theorem forget_recording (s : Session σ) : s.recording.forget = s := rfl

end Session

/-! ### Recording changes nothing -/

/-- The job on the recorded service comes to what the job on the service comes to: without its record
it is that job. -/
def Job.Mirrors (j' : Job (Recorded σ) ε α) (j : Job σ ε α) : Prop :=
  ∀ s, j.outcome s.forget = ((j'.outcome s).1, (j'.outcome s).2.forget)

namespace Job.Mirrors

variable {j' : Job (Recorded σ) ε α} {j : Job σ ε α} {f' : α → Job (Recorded σ) ε β}
  {f : α → Job σ ε β}

/-- What a run with an empty record says about the run without one. -/
theorem outcome_eq {s : Session σ} {result : Except ε α} {after : Session (Recorded σ)}
    (h : Mirrors j' j) (hrun : j'.outcome s.recording = (result, after)) :
    j.outcome s = (result, after.forget) := by
  rw [← Session.forget_recording s, h, hrun]

theorem pure (x : α) : Mirrors (Pure.pure x : Job (Recorded σ) ε α) (Pure.pure x) := fun _ => rfl

theorem throw (e : ε) : Mirrors (throw e : Job (Recorded σ) ε α) (throw e) := fun _ => rfl

theorem tell (n : Notice) : Mirrors (Job.tell n : Job (Recorded σ) ε Unit) (Job.tell n) :=
  fun _ => rfl

theorem store (a : Store.Action α) :
    Mirrors (Job.store a : Job (Recorded σ) StoreError α) (Job.store a) := fun _ => rfl

theorem below (bound : Nat) :
    Mirrors (Job.below bound : Job (Recorded σ) ε Nat) (Job.below bound) := fun _ => rfl

theorem call (entry : Except RemoteError α → ServiceCall) (c : Call σ α) :
    Mirrors (Job.call (recordCall entry c)) (Job.call c) := fun _ => rfl

theorem bind (h : Mirrors j' j) (hf : ∀ x, Mirrors (f' x) (f x)) :
    Mirrors (j' >>= f') (j >>= f) := Projects.bind h hf

theorem failAs {g : ε → ε'} (h : Mirrors j' j) : Mirrors (j'.failAs g) (j.failAs g) :=
  projects_failAs h

theorem attempt (h : Mirrors j' j) :
    Mirrors (j'.attempt : Job (Recorded σ) ε' (Except ε α)) j.attempt := by
  intro s
  rw [outcome_attempt, outcome_attempt, h s]

theorem forM_tell (f : α → Notice) (xs : List α) :
    Mirrors (xs.forM fun x => (Job.tell (f x) : Job (Recorded σ) ε Unit))
      (xs.forM fun x => Job.tell (f x)) := Projects.forM (fun x => Mirrors.tell (f x)) xs

theorem sample : ∀ (n : Nat) (xs : List α),
    Mirrors (Job.sample n xs : Job (Recorded σ) ε (List α)) (Job.sample n xs)
  | 0, _ => Mirrors.pure []
  | _ + 1, [] => Mirrors.pure []
  | n + 1, x :: xs => by
    rw [Job.sample, Job.sample]
    exact (Mirrors.below _).bind fun i => (Mirrors.sample n _).bind fun _ => .pure _

theorem shuffle (xs : List α) :
    Mirrors (Job.shuffle xs : Job (Recorded σ) ε (List α)) (Job.shuffle xs) :=
  .sample xs.length xs

end Job.Mirrors

end SmartPlaylist
