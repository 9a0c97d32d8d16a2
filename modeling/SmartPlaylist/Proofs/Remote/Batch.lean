import SmartPlaylist.Remote.Batch

/-!
# Lists cut into parts

A list is cut into parts of one size, the last perhaps shorter.  No part is empty, and together they
are the list.

## Main results

* `batches_of_ne_nil` — the first part, and the parts of the rest.
* `getElem?_batches` — which items stand in which part.
* `flatten_batches` — the parts make up the list.
* `parts_of_prefix` — what the first of them are.
-/

namespace SmartPlaylist

variable {α : Type} {size : Nat} {xs : List α}

/-- More parts than there are items are never needed. -/
theorem batchesFrom_eq (hsize : 0 < size) : ∀ (fuel : Nat) (xs : List α), xs.length ≤ fuel →
    batchesFrom size fuel xs = batches size xs
  | 0, xs, h => by
    obtain rfl := List.length_eq_zero_iff.mp (Nat.le_zero.mp h)
    rfl
  | fuel + 1, [], _ => rfl
  | fuel + 1, x :: xs, h => by
    have hrest : ((x :: xs).drop size).length ≤ xs.length := by
      rw [List.length_drop, List.length_cons]
      omega
    rw [List.length_cons] at h
    -- both go on with the same rest, which is shorter
    rw [batches, List.length_cons, batchesFrom, batchesFrom,
      batchesFrom_eq hsize fuel _ (by omega), batchesFrom_eq hsize xs.length _ hrest]
termination_by fuel xs => (fuel, xs.length)

@[simp] theorem batches_nil : batches size ([] : List α) = [] := rfl

/-- **The first part is cut off**, and the rest is cut in the same way. -/
theorem batches_of_ne_nil (hsize : 0 < size) (h : xs ≠ []) :
    batches size xs = xs.take size :: batches size (xs.drop size) := by
  have hlength : xs.length = (xs.length - 1) + 1 := by
    have := List.length_pos_iff.mpr h
    omega
  have hrest : (xs.drop size).length ≤ xs.length - 1 := by
    rw [List.length_drop]
    omega
  rw [batches, hlength, batchesFrom, if_neg (by simpa using h), batchesFrom_eq hsize _ _ hrest]

theorem headD_batches (hsize : 0 < size) (xs : List α) :
    (batches size xs).headD [] = xs.take size := by
  by_cases h : xs = []
  · subst h
    simp
  · rw [batches_of_ne_nil hsize h, List.headD_cons]

theorem drop_one_batches (hsize : 0 < size) (xs : List α) :
    (batches size xs).drop 1 = batches size (xs.drop size) := by
  by_cases h : xs = []
  · subst h
    simp
  · rw [batches_of_ne_nil hsize h, List.drop_one, List.tail_cons]

/-- A list is cut part by part. -/
theorem batches_induction {P : List α → Prop} (hsize : 0 < size) (nil : P [])
    (cut : ∀ xs, xs ≠ [] → P (xs.drop size) → P xs) (xs : List α) : P xs := by
  by_cases h : xs = []
  · exact h ▸ nil
  · have : (xs.drop size).length < xs.length := by
      have := List.length_pos_iff.mpr h
      rw [List.length_drop]
      omega
    exact cut xs h (batches_induction hsize nil cut (xs.drop size))
termination_by xs.length

/-- **The parts make up the list.** -/
theorem flatten_batches (hsize : 0 < size) (xs : List α) : (batches size xs).flatten = xs := by
  induction xs using batches_induction hsize with
  | nil => rfl
  | cut xs h ih => rw [batches_of_ne_nil hsize h, List.flatten_cons, ih, List.take_append_drop]

/-- The first parts of a list make up its beginning. -/
theorem flatten_take_batches (hsize : 0 < size) (xs : List α) (i : Nat) :
    ((batches size xs).take i).flatten = xs.take (size * i) := by
  induction xs using batches_induction hsize generalizing i with
  | nil => simp
  | cut xs h ih =>
    rw [batches_of_ne_nil hsize h]
    cases i with
    | zero => rfl
    | succ i =>
      rw [List.take_succ_cons, List.flatten_cons, ih, Nat.mul_succ, Nat.add_comm, List.take_add]

/-- **Which items stand in which part**: there is one for each multiple of the size that is less than
the length. -/
theorem getElem?_batches (hsize : 0 < size) (xs : List α) (i : Nat) :
    (batches size xs)[i]? =
      if size * i < xs.length then some ((xs.drop (size * i)).take size) else none := by
  induction xs using batches_induction hsize generalizing i with
  | nil => simp
  | cut xs h ih =>
    rw [batches_of_ne_nil hsize h]
    cases i with
    | zero => simp [List.length_pos_iff.mpr h]
    | succ i =>
      have hbound : size * i < (xs.drop size).length ↔ size * (i + 1) < xs.length := by
        rw [List.length_drop, Nat.mul_succ]
        omega
      rw [List.getElem?_cons_succ, ih, List.drop_drop, Nat.mul_succ, Nat.add_comm size]
      simp only [hbound, Nat.mul_succ]

theorem lt_length_batches_iff (hsize : 0 < size) (xs : List α) (i : Nat) :
    i < (batches size xs).length ↔ size * i < xs.length := by
  rw [← Nat.not_le, ← List.getElem?_eq_none_iff, getElem?_batches hsize]
  split <;> simp_all

/-- **The first parts of a list**: each has its items at its place, and together they begin it. -/
theorem parts_of_prefix (hsize : 0 < size) {parts : List (List α)}
    (h : parts <+: batches size xs) :
    (∀ (i : Nat) (part : List α), parts[i]? = some part →
      part = (xs.drop (size * i)).take size ∧ part ≠ []) ∧ parts.flatten <+: xs := by
  obtain ⟨rest, hrest⟩ := h
  refine ⟨fun i part hpart => ?_, ⟨rest.flatten, ?_⟩⟩
  · have hall : (batches size xs)[i]? = some part := by
      rw [← hrest, List.getElem?_append_left (List.getElem?_eq_some_iff.mp hpart).1, hpart]
    rw [getElem?_batches hsize] at hall
    split at hall
    next hbound =>
      obtain rfl := Option.some.inj hall
      refine ⟨rfl, ?_⟩
      rw [← List.length_pos_iff, List.length_take, List.length_drop]
      omega
    next => cases hall
  · rw [← List.flatten_append, hrest, flatten_batches hsize]

end SmartPlaylist
