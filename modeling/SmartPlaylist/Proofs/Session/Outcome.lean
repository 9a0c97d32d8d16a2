import SmartPlaylist.Proofs.Store.Outcome
import SmartPlaylist.Session.Job

/-!
# Outcomes of jobs

What a job comes to, step by step, as `SmartPlaylist.Proofs.Store.Outcome` has it for actions: its
result and the session after it.

## Main results

* `Job.outcome_bind_eq_ok` — a sequence succeeds when both of its parts do.
* `Job.outcome_store`, `Job.outcome_call`, `Job.outcome_tell`, `Job.outcome_below` — the steps.
* `Job.outcome_forM_tell` — several notices in a row.
-/

namespace SmartPlaylist.Job

variable {σ ε ε' α β : Type} {j : Job σ ε α} {f : α → Job σ ε β} {s mid after : Session σ}

/-! ### Sequences -/

@[simp] theorem outcome_pure (x : α) (s : Session σ) :
    (pure x : Job σ ε α).outcome s = (.ok x, s) := rfl

@[simp] theorem outcome_throw (e : ε) (s : Session σ) :
    (throw e : Job σ ε α).outcome s = (.error e, s) := rfl

theorem outcome_bind (j : Job σ ε α) (f : α → Job σ ε β) (s : Session σ) :
    (j >>= f).outcome s = match j.outcome s with
      | (.ok x, mid) => (f x).outcome mid
      | (.error e, mid) => (.error e, mid) := by
  rcases h : j.outcome s with ⟨e | x, mid⟩
  · exact run_bind_of_error h
  · exact run_bind_of_ok h

theorem outcome_bind_of_ok {x : α} (h : j.outcome s = (.ok x, mid)) :
    (j >>= f).outcome s = (f x).outcome mid := run_bind_of_ok h

theorem outcome_bind_of_error {e : ε} (h : j.outcome s = (.error e, mid)) :
    (j >>= f).outcome s = (.error e, mid) := run_bind_of_error h

theorem outcome_bind_eq_ok {y : β} :
    (j >>= f).outcome s = (.ok y, after) ↔
      ∃ x mid, j.outcome s = (.ok x, mid) ∧ (f x).outcome mid = (.ok y, after) :=
  run_bind_eq_ok

/-! ### Steps -/

theorem outcome_store (a : Store.Action α) (s : Session σ) :
    (store a).outcome s
      = ((a.outcome s.database).1, { s with database := (a.outcome s.database).2 }) := rfl

theorem outcome_call (c : Call σ α) (s : Session σ) :
    (call c).outcome s = ((c s.remote).1.result,
      { s with
        remote := (c s.remote).2
        notices := s.notices ++ (c s.remote).1.notices.map Notice.remote }) := rfl

theorem outcome_tell (n : Notice) (s : Session σ) :
    (tell n : Job σ ε Unit).outcome s = (.ok (), { s with notices := s.notices ++ [n] }) := rfl

theorem outcome_below (bound : Nat) (s : Session σ) :
    (below bound : Job σ ε Nat).outcome s = (.ok (s.entropy.word s.entropy.drawn % bound),
      { s with entropy := { s.entropy with drawn := s.entropy.drawn + 1 } }) := rfl

theorem outcome_failAs (g : ε → ε') (j : Job σ ε α) (s : Session σ) :
    (j.failAs g).outcome s = match j.outcome s with
      | (.ok x, after) => (.ok x, after)
      | (.error e, after) => (.error (g e), after) := rfl

theorem outcome_failAs_eq_ok {g : ε → ε'} {x : α} :
    (j.failAs g).outcome s = (.ok x, after) ↔ j.outcome s = (.ok x, after) := by
  rw [outcome_failAs]
  rcases j.outcome s with ⟨e | y, mid⟩ <;> simp

theorem outcome_failAs_eq_mapError (g : ε → ε') (j : Job σ ε α) (s : Session σ) :
    (j.failAs g).outcome s = ((j.outcome s).1.mapError g, (j.outcome s).2) := by
  rw [outcome_failAs]
  rcases j.outcome s with ⟨e | x, after⟩ <;> rfl

theorem outcome_attempt (j : Job σ ε α) (s : Session σ) :
    (j.attempt : Job σ ε' (Except ε α)).outcome s = (.ok (j.outcome s).1, (j.outcome s).2) := rfl

/-- Several notices in a row. -/
theorem outcome_forM_tell (f : α → Notice) (xs : List α) (s : Session σ) :
    (xs.forM fun x => (tell (f x) : Job σ ε Unit)).outcome s
      = (.ok (), { s with notices := s.notices ++ xs.map f }) := by
  induction xs generalizing s with
  | nil =>
    rw [List.map_nil, List.append_nil]
    rfl
  | cons x xs ih =>
    refine (outcome_bind_of_ok (outcome_tell (f x) s)).trans ((ih _).trans ?_)
    rw [List.append_assoc, List.map_cons, List.singleton_append]

/-- A piece of work on the database succeeds when its action does, and changes nothing else. -/
theorem outcome_store_eq_ok {a : Store.Action α} {x : α} :
    (store a).outcome s = (.ok x, after) ↔
      a.outcome s.database = (.ok x, after.database) ∧
        after = { s with database := after.database } := by
  rw [outcome_store]
  constructor
  · intro h
    obtain ⟨hx, rfl⟩ := Prod.mk.inj h
    exact ⟨Prod.ext hx rfl, rfl⟩
  · rintro ⟨h, hafter⟩
    rw [h, ← hafter]

/-- Reading the store does nothing but read it. -/
theorem outcome_store_of_keeps {a : Store.Action α} (h : ∀ db, Store.Keeps (· = db) a)
    (s : Session σ) : (store a).outcome s = ((a.outcome s.database).1, s) := by
  rw [outcome_store, Store.Keeps.database_eq h]

end SmartPlaylist.Job
