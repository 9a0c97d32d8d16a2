import SmartPlaylist.Proofs.Session.Outcome

/-!
# Work that only reads the library

An action may read the library and leave everything as it is.  What it gives is then the same
whatever root playlists are stored, so it can be run again after a root playlist was stored.

## Main definitions

* `Store.ReadsLibrary`, `Job.ReadsLibrary` — nothing is written, and no root playlist is read.

## Main results

* `Store.ReadsLibrary.bind`, `Job.ReadsLibrary.bind`, … — a sequence of such pieces is one.
-/

namespace SmartPlaylist

/-! ### Actions -/

/-- The action writes nothing, and what it gives does not depend on the root playlists. -/
def Store.ReadsLibrary {α : Type} (a : Store.Action α) : Prop :=
  ∀ db roots, a.outcome { db with rootPlaylists := roots }
    = ((a.outcome db).1, { db with rootPlaylists := roots })

namespace Store.ReadsLibrary

variable {α β ρ : Type} {a : Action α} {f : α → Action β}

theorem database (h : ReadsLibrary a) (db : Database) : (a.outcome db).2 = db :=
  congrArg Prod.snd (h db db.rootPlaylists)

theorem pure (x : α) : ReadsLibrary (Pure.pure x : Action α) := fun _ _ => rfl

theorem bind (ha : ReadsLibrary a) (hf : ∀ x, ReadsLibrary (f x)) : ReadsLibrary (a >>= f) := by
  intro db roots
  have hdb := ha.database db
  rw [outcome_bind, outcome_bind, ha]
  rcases hout : a.outcome db with ⟨e | x, mid⟩
  · rfl
  · obtain rfl : mid = db := by rw [← hdb, hout]
    exact hf x mid roots

theorem rows {t : Table ρ}
    (ht : ∀ db roots, t.get { db with rootPlaylists := roots } = t.get db) :
    ReadsLibrary (Store.rows t) := by
  intro db roots
  rw [outcome_rows, outcome_rows, ht]
  cases t.get db <;> rfl

end Store.ReadsLibrary

/-! ### Jobs -/

/-- The job leaves the database alone, and what it gives does not depend on the root playlists. -/
def Job.ReadsLibrary {σ ε α : Type} (j : Job σ ε α) : Prop :=
  ∀ s t roots, t.database = { s.database with rootPlaylists := roots } →
    (j.outcome t).1 = (j.outcome s).1 ∧ (j.outcome t).2.database = t.database

namespace Job.ReadsLibrary

variable {σ ε ε' α β : Type} {j : Job σ ε α} {f : α → Job σ ε β}

theorem database (h : ReadsLibrary j) (s : Session σ) : (j.outcome s).2.database = s.database :=
  (h s s s.database.rootPlaylists rfl).2

theorem pure (x : α) : ReadsLibrary (Pure.pure x : Job σ ε α) := fun _ _ _ _ => ⟨rfl, rfl⟩

theorem throw (e : ε) : ReadsLibrary (throw e : Job σ ε α) := fun _ _ _ _ => ⟨rfl, rfl⟩

theorem tell (n : Notice) : ReadsLibrary (Job.tell n : Job σ ε Unit) := fun _ _ _ _ => ⟨rfl, rfl⟩

theorem store {a : Store.Action α} (h : Store.ReadsLibrary a) :
    ReadsLibrary (Job.store a : Job σ StoreError α) := by
  intro s t roots ht
  rw [outcome_store, outcome_store, ht, h]
  exact ⟨rfl, rfl⟩

theorem failAs {g : ε → ε'} (h : ReadsLibrary j) : ReadsLibrary (j.failAs g) := by
  intro s t roots ht
  obtain ⟨hresult, hdb⟩ := h s t roots ht
  rw [outcome_failAs, outcome_failAs]
  rcases hs : j.outcome s with ⟨x, s'⟩
  rcases ht' : j.outcome t with ⟨y, t'⟩
  rw [hs, ht'] at hresult
  rw [ht'] at hdb
  obtain rfl : y = x := hresult
  cases y with
  | error e => exact ⟨rfl, hdb⟩
  | ok x => exact ⟨rfl, hdb⟩

theorem bind (hj : ReadsLibrary j) (hf : ∀ x, ReadsLibrary (f x)) : ReadsLibrary (j >>= f) := by
  intro s t roots ht
  obtain ⟨hresult, hdb⟩ := hj s t roots ht
  have hdb' := hj.database s
  rw [outcome_bind, outcome_bind]
  rcases hs : j.outcome s with ⟨x, s'⟩
  rcases ht' : j.outcome t with ⟨y, t'⟩
  rw [hs, ht'] at hresult
  rw [ht'] at hdb
  rw [hs] at hdb'
  obtain rfl : y = x := hresult
  cases y with
  | error e => exact ⟨rfl, hdb⟩
  | ok x =>
    -- both runs go on from the databases they started from
    obtain ⟨hrest, hafter⟩ := hf x s' t' roots (hdb.trans (ht.trans (by rw [hdb'])))
    exact ⟨hrest, hafter.trans hdb⟩

end Job.ReadsLibrary

end SmartPlaylist
