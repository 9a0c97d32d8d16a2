import SmartPlaylist.Store.Action

/-!
# Outcomes of actions

What an action comes to, statement by statement: its result and the database after it.  Proofs about
actions use these lemmas and do not open the statements.

## Main definitions

* `Table.Lawful` — a table gives back the rows that were put into it.
* `Store.Keeps` — a property of the database that an action never breaks.

## Main results

* `run_bind_eq_ok` — a sequence succeeds when both of its parts do, whatever it works on;
  `Store.outcome_bind_eq_ok` is that for actions.
* `Store.outcome_forM_insertUnique` — rows with new keys are all added, in order;
  `Store.exists_forM_insertUnique_error` — otherwise a statement among them fails.
* `Store.Keeps.bind`, `Store.Keeps.transaction`, … — what a whole action keeps, from what its
  statements keep.
-/

namespace SmartPlaylist

variable {ρ κ α β : Type}

/-! ### Programs that may fail -/

section Programs

variable {σ ε : Type} {a : ExceptT ε (StateM σ) α} {f : α → ExceptT ε (StateM σ) β} {s mid after : σ}

theorem run_bind_of_ok {x : α} (h : a.run s = (.ok x, mid)) :
    (a >>= f).run s = (f x).run mid := by
  have hrun : a s = (.ok x, mid) := h
  show (ExceptT.bind a f) s = _
  simp only [ExceptT.bind, ExceptT.mk, bind, StateT.bind, hrun]
  rfl

/-- A failure ends a sequence, and keeps what was done before it. -/
theorem run_bind_of_error {e : ε} (h : a.run s = (.error e, mid)) :
    (a >>= f).run s = (.error e, mid) := by
  have hrun : a s = (.error e, mid) := h
  show (ExceptT.bind a f) s = _
  simp only [ExceptT.bind, ExceptT.mk, bind, StateT.bind, hrun]
  rfl

/-- A sequence succeeds when both of its parts do. -/
theorem run_bind_eq_ok {y : β} :
    (a >>= f).run s = (.ok y, after) ↔
      ∃ x mid, a.run s = (.ok x, mid) ∧ (f x).run mid = (.ok y, after) := by
  rcases hrun : a.run s with ⟨e | x, mid⟩
  · rw [run_bind_of_error hrun]
    refine iff_of_false (fun h => nomatch (Prod.mk.inj h).1) ?_
    rintro ⟨x, mid', h, -⟩
    nomatch (Prod.mk.inj h).1
  · rw [run_bind_of_ok hrun]
    constructor
    · intro h
      exact ⟨x, mid, rfl, h⟩
    · rintro ⟨x', mid', h, h'⟩
      obtain ⟨hx, rfl⟩ := Prod.mk.inj h
      obtain rfl := Except.ok.inj hx
      exact h'

end Programs

/-! ### Tables -/

/-- A table gives back the rows that were put into it, and only the last ones. -/
class Table.Lawful (t : Table ρ) : Prop where
  get_set : ∀ rows db, t.get (t.set rows db) = rows
  set_get : ∀ db, t.set (t.get db) db = db
  set_set : ∀ new old db, t.set new (t.set old db) = t.set new db

namespace Table

instance : libraryTracks.Lawful := ⟨fun _ _ => rfl, fun _ => rfl, fun _ _ _ => rfl⟩
instance : trackArtists.Lawful := ⟨fun _ _ => rfl, fun _ => rfl, fun _ _ _ => rfl⟩
instance : artists.Lawful := ⟨fun _ _ => rfl, fun _ => rfl, fun _ _ _ => rfl⟩
instance : artistGenres.Lawful := ⟨fun _ _ => rfl, fun _ => rfl, fun _ _ _ => rfl⟩
instance : audioFeatures.Lawful := ⟨fun _ _ => rfl, fun _ => rfl, fun _ _ _ => rfl⟩
instance : playHistory.Lawful := ⟨fun _ _ => rfl, fun _ => rfl, fun _ _ _ => rfl⟩
instance : rootPlaylists.Lawful := ⟨fun _ _ => rfl, fun _ => rfl, fun _ _ _ => rfl⟩
instance : credentials.Lawful := ⟨fun _ _ => rfl, fun _ => rfl, fun _ _ _ => rfl⟩

end Table

namespace Store

variable {a : Action α} {f : α → Action β} {db mid after : Database} {t : Table ρ}

/-! ### Sequences -/

@[simp] theorem outcome_pure (x : α) (db : Database) :
    (pure x : Action α).outcome db = (.ok x, db) := rfl

theorem outcome_bind (a : Action α) (f : α → Action β) (db : Database) :
    (a >>= f).outcome db = match a.outcome db with
      | (.ok x, mid) => (f x).outcome mid
      | (.error e, mid) => (.error e, mid) := by
  rcases h : a.outcome db with ⟨e | x, mid⟩
  · exact run_bind_of_error h
  · exact run_bind_of_ok h

theorem outcome_bind_of_ok {x : α} (h : a.outcome db = (.ok x, mid)) :
    (a >>= f).outcome db = (f x).outcome mid := run_bind_of_ok h

theorem outcome_bind_of_error {e : StoreError} (h : a.outcome db = (.error e, mid)) :
    (a >>= f).outcome db = (.error e, mid) := run_bind_of_error h

theorem outcome_bind_eq_ok {y : β} :
    (a >>= f).outcome db = (.ok y, after) ↔
      ∃ x mid, a.outcome db = (.ok x, mid) ∧ (f x).outcome mid = (.ok y, after) :=
  run_bind_eq_ok

/-! ### Statements -/

theorem outcome_rows (t : Table ρ) (db : Database) :
    (rows t).outcome db = match t.get db with
      | some rs => (.ok rs, db)
      | none => (.error (.missingTable t.name), db) := rfl

theorem outcome_rows_of_some {rs : List ρ} (h : t.get db = some rs) :
    (rows t).outcome db = (.ok rs, db) := by
  rw [outcome_rows, h]

theorem outcome_rows_of_none (h : t.get db = none) :
    (rows t).outcome db = (.error (.missingTable t.name), db) := by
  rw [outcome_rows, h]

theorem outcome_rows_eq_ok {rs : List ρ} :
    (rows t).outcome db = (.ok rs, after) ↔ t.get db = some rs ∧ after = db := by
  cases h : t.get db with
  | none => simp [outcome_rows_of_none h]
  | some rs' => simp [outcome_rows_of_some h, eq_comm]

/-- Reading a table and going on. -/
theorem outcome_rows_bind_eq_ok {f : List ρ → Action β} {y : β} :
    (rows t >>= f).outcome db = (.ok y, after) ↔
      ∃ rs, t.get db = some rs ∧ (f rs).outcome db = (.ok y, after) := by
  rw [outcome_bind_eq_ok]
  constructor
  · rintro ⟨rs, mid, h, h'⟩
    obtain ⟨hget, rfl⟩ := outcome_rows_eq_ok.mp h
    exact ⟨rs, hget, h'⟩
  · rintro ⟨rs, hget, h'⟩
    exact ⟨rs, db, outcome_rows_of_some hget, h'⟩

theorem outcome_modifyRows (t : Table ρ) (g : List ρ → List ρ) (db : Database) :
    (modifyRows t g).outcome db = match t.get db with
      | some rs => (.ok (), t.set (some (g rs)) db)
      | none => (.error (.missingTable t.name), db) := rfl

theorem outcome_modifyRows_of_some {g : List ρ → List ρ} {rs : List ρ} (h : t.get db = some rs) :
    (modifyRows t g).outcome db = (.ok (), t.set (some (g rs)) db) := by
  rw [outcome_modifyRows, h]

theorem outcome_deleteWhere {p : ρ → Bool} {rs : List ρ} (h : t.get db = some rs) :
    (deleteWhere t p).outcome db = (.ok (), t.set (some (rs.filter fun r => !p r)) db) :=
  outcome_modifyRows_of_some h

theorem outcome_deleteWhere_of_none {p : ρ → Bool} (h : t.get db = none) :
    (deleteWhere t p).outcome db = (.error (.missingTable t.name), db) := by
  rw [deleteWhere, outcome_modifyRows, h]

/-- Several changes to the rows of one table, one after another. -/
theorem outcome_forM_modifyRows [t.Lawful] (g : α → List ρ → List ρ) (xs : List α) (rs : List ρ)
    (db : Database) (h : t.get db = some rs) :
    (xs.forM fun x => modifyRows t (g x)).outcome db
      = (.ok (), t.set (some (xs.foldl (fun rs x => g x rs) rs)) db) := by
  induction xs generalizing rs db with
  | nil =>
    rw [List.foldl_nil, ← h, Table.Lawful.set_get]
    rfl
  | cons x xs ih =>
    show (modifyRows t (g x) >>= fun _ => xs.forM fun x => modifyRows t (g x)).outcome db = _
    rw [outcome_bind_of_ok (outcome_modifyRows_of_some h), ih _ _ (Table.Lawful.get_set _ _),
      Table.Lawful.set_set, List.foldl_cons]

/-- Rows without keys are all added, in order. -/
theorem outcome_forM_insert [t.Lawful] (row : α → ρ) (xs : List α) (rs : List ρ) (db : Database)
    (h : t.get db = some rs) :
    (xs.forM fun x => insert t (row x)).outcome db
      = (.ok (), t.set (some (rs ++ xs.map row)) db) := by
  have hadded : xs.foldl (fun rs x => rs ++ [row x]) rs = rs ++ xs.map row := by
    rw [List.foldl_append_eq_append, ← List.flatMap_def, ← List.map_eq_flatMap]
  rw [← hadded]
  exact outcome_forM_modifyRows (fun x rs => rs ++ [row x]) xs rs db h

theorem outcome_transaction (a : Action α) (db : Database) :
    (transaction a).outcome db = match a.outcome db with
      | (.ok x, after) => (.ok x, after)
      | (.error e, _) => (.error e, db) := rfl

theorem outcome_transaction_of_ok {x : α} (h : a.outcome db = (.ok x, after)) :
    (transaction a).outcome db = (.ok x, after) := by
  rw [outcome_transaction, h]

theorem outcome_transaction_of_error {e : StoreError} (h : a.outcome db = (.error e, mid)) :
    (transaction a).outcome db = (.error e, db) := by
  rw [outcome_transaction, h]

section insertUnique

variable [DecidableEq κ] (key : ρ → κ)

theorem outcome_insertUnique {rs : List ρ} {row : ρ} (h : t.get db = some rs)
    (hnew : ∀ r ∈ rs, key r ≠ key row) :
    (insertUnique t key row).outcome db = (.ok (), t.set (some (rs ++ [row])) db) := by
  have hany : (rs.any fun r => decide (key r = key row)) = false := by
    rw [List.any_eq_false]
    intro r hr
    simpa using hnew r hr
  unfold insertUnique
  rw [outcome_bind_of_ok (outcome_rows_of_some h)]
  simp only [hany, Bool.false_eq_true, if_false]
  exact outcome_modifyRows_of_some h

/-- **Rows with new keys are all added, in order.** -/
theorem outcome_forM_insertUnique [t.Lawful] (row : α → ρ) :
    ∀ (xs : List α) (rs : List ρ) (db : Database), t.get db = some rs →
      (xs.map fun x => key (row x)).Nodup → (∀ x ∈ xs, ∀ r ∈ rs, key r ≠ key (row x)) →
      (xs.forM fun x => insertUnique t key (row x)).outcome db
        = (.ok (), t.set (some (rs ++ xs.map row)) db)
  | [], rs, db, hget, _, _ => by
    rw [List.map_nil, List.append_nil, ← hget, Table.Lawful.set_get]
    rfl
  | x :: xs, rs, db, hget, hnodup, hnew => by
    rw [List.map_cons, List.nodup_cons] at hnodup
    have hfirst := outcome_insertUnique key hget (hnew x (List.mem_cons_self ..))
    -- the row that is now the last has none of the keys to come
    have hrest := outcome_forM_insertUnique row xs (rs ++ [row x])
      (t.set (some (rs ++ [row x])) db) (Table.Lawful.get_set _ _) hnodup.2 (by
        intro y hy r hr
        rcases List.mem_append.mp hr with hr | hr
        · exact hnew y (List.mem_cons_of_mem _ hy) r hr
        · rw [List.mem_singleton.mp hr]
          intro heq
          exact hnodup.1 (List.mem_map.mpr ⟨y, hy, heq.symm⟩))
    show (insertUnique t key (row x) >>= fun _ =>
      xs.forM fun x => insertUnique t key (row x)).outcome db = _
    rw [outcome_bind_of_ok hfirst, hrest, Table.Lawful.set_set, List.append_assoc, List.map_cons,
      List.singleton_append]

/-- A row whose key is taken makes the statement fail before it writes. -/
theorem outcome_insertUnique_of_taken {rs : List ρ} {row : ρ} (h : t.get db = some rs)
    (htaken : ∃ r ∈ rs, key r = key row) :
    (insertUnique t key row).outcome db = (.error (.duplicateKey t.name), db) := by
  have hany : (rs.any fun r => decide (key r = key row)) = true := by
    simpa using htaken
  unfold insertUnique
  rw [outcome_bind_of_ok (outcome_rows_of_some h)]
  simp only [hany, if_true]
  rfl

/-- **Where a key is taken or comes twice, not all rows are added**: some statement fails, after
those before it have written. -/
theorem exists_forM_insertUnique_error [t.Lawful] (row : α → ρ) (xs : List α) (rs : List ρ)
    (db : Database) (h : t.get db = some rs)
    (hclash : ¬((xs.map fun x => key (row x)).Nodup ∧
      ∀ x ∈ xs, ∀ r ∈ rs, key r ≠ key (row x))) :
    ∃ after, (xs.forM fun x => insertUnique t key (row x)).outcome db
      = (.error (.duplicateKey t.name), after) := by
  induction xs generalizing rs db with
  | nil => exact absurd ⟨List.nodup_nil, List.forall_mem_nil _⟩ hclash
  | cons x xs ih =>
    show ∃ after, (insertUnique t key (row x) >>= fun _ =>
      xs.forM fun x => insertUnique t key (row x)).outcome db = _
    by_cases hnew : ∀ r ∈ rs, key r ≠ key (row x)
    · rw [outcome_bind_of_ok (outcome_insertUnique key h hnew)]
      refine ih (rs ++ [row x]) _ (Table.Lawful.get_set _ _) fun ⟨hnodup, hrest⟩ => hclash ?_
      -- a key that clashes later does so with an old row, with this one, or with a later one
      refine ⟨List.nodup_cons.mpr ⟨fun hmem => ?_, hnodup⟩, List.forall_mem_cons.mpr ⟨hnew, ?_⟩⟩
      · obtain ⟨y, hy, heq⟩ := List.mem_map.mp hmem
        exact hrest y hy (row x) (by simp) heq.symm
      · exact fun y hy r hr => hrest y hy r (List.mem_append_left _ hr)
    · have htaken : ∃ r ∈ rs, key r = key (row x) := by simpa using hnew
      exact ⟨db, outcome_bind_of_error (outcome_insertUnique_of_taken key h htaken)⟩

end insertUnique

/-! ### What an action keeps -/

/-- The action never breaks the property, whether it succeeds or fails. -/
def Keeps (p : Database → Prop) (a : Action α) : Prop := ∀ db, p db → p (a.outcome db).2

namespace Keeps

variable {p : Database → Prop}

/-- An action that keeps whatever there is leaves the database as it is. -/
theorem database_eq (h : ∀ db, Keeps (· = db) a) (db : Database) : (a.outcome db).2 = db :=
  h db db rfl

theorem exists_outcome (h : ∀ db, Keeps (· = db) a) (db : Database) :
    ∃ result, a.outcome db = (result, db) :=
  ⟨(a.outcome db).1, Prod.ext rfl (database_eq h db)⟩

theorem pure (x : α) : Keeps p (Pure.pure x : Action α) := fun _ h => h

theorem throw (e : StoreError) : Keeps p (throw e : Action α) := fun _ h => h

theorem bind (ha : Keeps p a) (hf : ∀ x, Keeps p (f x)) : Keeps p (a >>= f) := by
  intro db h
  have hmid := ha db h
  rw [outcome_bind]
  rcases ha' : a.outcome db with ⟨e | x, mid⟩
  · rw [ha'] at hmid
    exact hmid
  · rw [ha'] at hmid
    exact hf x mid hmid

theorem forM {g : α → Action Unit} (hg : ∀ x, Keeps p (g x)) :
    ∀ xs : List α, Keeps p (xs.forM g)
  | [] => Keeps.pure ()
  | x :: xs => (hg x).bind fun _ => Keeps.forM hg xs

theorem filterMapM {g : α → Action (Option β)} (hg : ∀ x, Keeps p (g x)) :
    ∀ xs : List α, Keeps p (xs.filterMapM g)
  | [] => Keeps.pure []
  | x :: xs => by
    rw [List.filterMapM_cons]
    refine (hg x).bind fun y => ?_
    cases y with
    | none => exact Keeps.filterMapM hg xs
    | some y => exact (Keeps.filterMapM hg xs).bind fun _ => Keeps.pure _

theorem transaction (ha : Keeps p a) : Keeps p (Store.transaction a) := by
  intro db h
  have hafter := ha db h
  rw [outcome_transaction]
  rcases ha' : a.outcome db with ⟨e | x, mid⟩
  · -- a failure brings back the database as it was
    exact h
  · rw [ha'] at hafter
    exact hafter

theorem rows (t : Table ρ) : Keeps p (Store.rows t) := by
  intro db h
  rw [outcome_rows]
  cases t.get db with
  | none => exact h
  | some rs => exact h

theorem prepare (t : Table ρ) : Keeps p (Store.prepare t) := (rows t).bind fun _ => Keeps.pure ()

theorem modifyRows {g : List ρ → List ρ}
    (hg : ∀ db rs, t.get db = some rs → p db → p (t.set (some (g rs)) db)) :
    Keeps p (Store.modifyRows t g) := by
  intro db h
  rw [outcome_modifyRows]
  cases hget : t.get db with
  | none => exact h
  | some rs => exact hg db rs hget h

theorem insertUnique [DecidableEq κ] {key : ρ → κ} {row : ρ}
    (hg : ∀ db rs, t.get db = some rs → (∀ r ∈ rs, key r ≠ key row) → p db →
      p (t.set (some (rs ++ [row])) db)) :
    Keeps p (Store.insertUnique t key row) := by
  intro db h
  cases hget : t.get db with
  | none =>
    unfold Store.insertUnique
    rw [outcome_bind_of_error (outcome_rows_of_none hget)]
    exact h
  | some rs =>
    by_cases hnew : ∀ r ∈ rs, key r ≠ key row
    · rw [outcome_insertUnique key hget hnew]
      exact hg db rs hget hnew h
    · have htaken : ∃ r ∈ rs, key r = key row := by simpa using hnew
      rw [outcome_insertUnique_of_taken key hget htaken]
      exact h

end Keeps

end Store

end SmartPlaylist
