import Mathlib.Data.List.Forall2
import SmartPlaylist.Json.Basic

/-!
# Fields by key

An object may be written with a key more than once, and then the last of them counts.  Sorting the
fields keeps just that: the keys come in strict order, and each stands with the value that the last
of its fields had.

## Main definitions

* `Json.KeysSorted` — the keys are strictly increasing.
* `Json.lastField` — the value of a key in fields that may repeat it.

## Main results

* `Json.mem_insertField_iff` — the fields after one is put in.
* `Json.mem_sortFields_iff` — **sorted fields hold, for every key, what its last field held.**
* `Json.mem_iff_lastField` — with sorted keys, a field is there iff it is the last of its key.
* `Json.filter_key` — sorted fields hold a key at most once.
-/

namespace SmartPlaylist.Json

variable {α β : Type} {fields : List (String × α)} {key k : String} {value v : α}

/-- The keys are strictly increasing. -/
def KeysSorted (fields : List (String × α)) : Prop := fields.Pairwise fun p q => p.1 < q.1

/-! ### Putting in one field -/

theorem mem_of_mem_insertField {p : String × α} (h : p ∈ insertField key value fields) :
    p = (key, value) ∨ p ∈ fields := by
  induction fields with
  | nil => exact Or.inl (List.mem_singleton.mp h)
  | cons q rest ih =>
    obtain ⟨head, x⟩ := q
    rw [insertField] at h
    split at h
    · exact List.mem_cons.mp h
    · split at h
      · exact (List.mem_cons.mp h).imp_right (List.mem_cons_of_mem _)
      · rcases List.mem_cons.mp h with rfl | h
        · exact Or.inr (List.mem_cons_self ..)
        · exact (ih h).imp_right (List.mem_cons_of_mem _)

theorem keysSorted_insertField (h : KeysSorted fields) :
    KeysSorted (insertField key value fields) := by
  induction fields with
  | nil => exact List.pairwise_singleton _ _
  | cons q rest ih =>
    obtain ⟨head, x⟩ := q
    obtain ⟨hhead, hrest⟩ := List.pairwise_cons.mp h
    rw [insertField]
    split
    next hlt =>
      refine List.pairwise_cons.mpr ⟨fun p hp => ?_, h⟩
      rcases List.mem_cons.mp hp with rfl | hp
      · exact hlt
      · exact String.lt_trans hlt (hhead p hp)
    next hlt =>
      split
      next heq =>
        subst heq
        exact List.pairwise_cons.mpr ⟨hhead, hrest⟩
      next hne =>
        refine List.pairwise_cons.mpr ⟨fun p hp => ?_, ih hrest⟩
        rcases mem_of_mem_insertField hp with rfl | hp
        · exact String.not_le.mp fun hle => hne (String.le_antisymm hle (String.not_lt.mp hlt))
        · exact hhead p hp

/-- A key below all others is none of them. -/
theorem not_mem_of_lt_keys (h : ∀ p ∈ fields, key < p.1) : (key, v) ∉ fields :=
  fun hmem => String.lt_irrefl key (h _ hmem)

theorem mem_insertField_iff (h : KeysSorted fields) :
    (k, v) ∈ insertField key value fields ↔ k = key ∧ v = value ∨ k ≠ key ∧ (k, v) ∈ fields := by
  induction fields with
  | nil =>
    rw [insertField, List.mem_singleton, Prod.mk.injEq]
    simp
  | cons q rest ih =>
    obtain ⟨head, x⟩ := q
    obtain ⟨hhead, hrest⟩ := List.pairwise_cons.mp h
    rw [insertField]
    split
    next hlt =>
      -- the key comes before all others, so it is none of them
      have hnew : ∀ p ∈ (head, x) :: rest, key < p.1 := by
        intro p hp
        rcases List.mem_cons.mp hp with rfl | hp
        · exact hlt
        · exact String.lt_trans hlt (hhead p hp)
      rw [List.mem_cons, Prod.mk.injEq]
      by_cases hk : k = key
      · subst hk
        simp [not_mem_of_lt_keys hnew]
      · simp [hk]
    next hlt =>
      split
      next heq =>
        -- the value at the head is overwritten
        subst heq
        rw [List.mem_cons, List.mem_cons, Prod.mk.injEq, Prod.mk.injEq]
        by_cases hk : k = key
        · subst hk
          simp [not_mem_of_lt_keys hhead]
        · simp [hk]
      next hne =>
        -- the head stays, and the field goes in behind it
        rw [List.mem_cons, List.mem_cons, ih hrest, Prod.mk.injEq]
        by_cases hk : k = head
        · subst hk
          simp [Ne.symm hne]
        · simp [hk]

/-! ### The last field of a key -/

/-- The value of a key in fields that may repeat it: the last counts. -/
def lastField (fields : List (String × α)) (key : String) : Option α := fields.reverse.lookup key

@[simp] theorem lastField_nil : lastField ([] : List (String × α)) key = none := rfl

/-- A later field of the key comes before the head. -/
theorem lastField_cons (f : String × α) (rest : List (String × α)) :
    lastField (f :: rest) key = (lastField rest key).or (if key = f.1 then some f.2 else none) := by
  rw [lastField, List.reverse_cons, List.lookup_append]
  congr 1
  rw [List.lookup_cons, List.lookup_nil]
  by_cases h : key = f.1
  · simp [h]
  · simp [h, beq_false_of_ne h]

theorem lastField_map (f : α → β) :
    lastField (fields.map fun field => (field.1, f field.2)) key
      = (lastField fields key).map f := by
  induction fields with
  | nil => rfl
  | cons p rest ih =>
    rw [List.map_cons, lastField_cons, lastField_cons, ih]
    cases lastField rest key with
    | some v => rfl
    | none =>
      by_cases h : key = p.1
      · simp [h]
      · simp [h]

/-! ### Sorting -/

theorem keysSorted_foldl_insertField {sorted : List (String × α)} (h : KeysSorted sorted) :
    KeysSorted
      (fields.foldl (fun sorted field => insertField field.1 field.2 sorted) sorted) := by
  induction fields generalizing sorted with
  | nil => exact h
  | cons f rest ih => exact ih (keysSorted_insertField h)

theorem keysSorted_sortFields (fields : List (String × α)) : KeysSorted (sortFields fields) :=
  keysSorted_foldl_insertField List.Pairwise.nil

/-- The fields put in last count before those that were there. -/
theorem mem_foldl_insertField_iff {sorted : List (String × α)} (h : KeysSorted sorted) :
    (k, v) ∈ fields.foldl (fun sorted field => insertField field.1 field.2 sorted) sorted ↔
      lastField fields k = some v ∨ lastField fields k = none ∧ (k, v) ∈ sorted := by
  induction fields generalizing sorted with
  | nil => simp
  | cons f rest ih =>
    rw [List.foldl_cons, ih (keysSorted_insertField h), mem_insertField_iff h, lastField_cons]
    cases lastField rest k with
    | some x => simp
    | none =>
      by_cases hk : k = f.1
      · simp [hk, eq_comm]
      · simp [hk]

/-- **Sorted fields hold, for every key, what its last field held.** -/
theorem mem_sortFields_iff : (k, v) ∈ sortFields fields ↔ lastField fields k = some v := by
  rw [sortFields, mem_foldl_insertField_iff List.Pairwise.nil]
  simp

/-- A key below all others has no field. -/
theorem lastField_eq_none_of_lt (h : ∀ p ∈ fields, key < p.1) : lastField fields key = none := by
  induction fields with
  | nil => rfl
  | cons f rest ih =>
    have hne : key ≠ f.1 := fun heq => String.lt_irrefl f.1 (heq ▸ h f (List.mem_cons_self ..))
    rw [lastField_cons, ih fun p hp => h p (List.mem_cons_of_mem _ hp), if_neg hne]
    rfl

/-- With sorted keys, a field is there iff it is the last of its key. -/
theorem mem_iff_lastField (h : KeysSorted fields) :
    (k, v) ∈ fields ↔ lastField fields k = some v := by
  induction fields with
  | nil => simp
  | cons f rest ih =>
    obtain ⟨hhead, hrest⟩ := List.pairwise_cons.mp h
    rw [List.mem_cons, ih hrest, lastField_cons]
    by_cases hk : k = f.1
    · subst hk
      simp [lastField_eq_none_of_lt hhead, Prod.ext_iff, eq_comm]
    · simp [hk, Prod.ext_iff]

/-- Sorted fields hold a key at most once. -/
theorem filter_key (h : KeysSorted fields) :
    fields.filter (fun field => field.1 = key)
      = (lastField fields key).toList.map fun v => (key, v) := by
  induction fields with
  | nil => rfl
  | cons f rest ih =>
    obtain ⟨hhead, hrest⟩ := List.pairwise_cons.mp h
    rw [List.filter_cons, ih hrest, lastField_cons]
    by_cases hk : key = f.1
    · subst hk
      simp [lastField_eq_none_of_lt hhead]
    · simp [hk, Ne.symm hk]

/-! ### Two lists of fields -/

section TwoLists

variable {R : α → β → Prop} {f : String × α} {rest fs : List (String × α)}
  {gs : List (String × β)}

theorem lastField_head (h : KeysSorted (f :: rest)) : lastField (f :: rest) f.1 = some f.2 := by
  rw [lastField_cons, lastField_eq_none_of_lt (List.pairwise_cons.mp h).1, if_pos rfl]
  rfl

theorem lastField_of_ne_head (h : key ≠ f.1) :
    lastField (f :: rest) key = lastField rest key := by
  rw [lastField_cons, if_neg h, Option.or_none]

/-- No key that has a value comes before the head. -/
theorem head_le_of_lastField (h : KeysSorted (f :: rest))
    (hv : lastField (f :: rest) key = some v) : f.1 ≤ key := by
  rcases List.mem_cons.mp ((mem_iff_lastField h).mpr hv) with heq | hmem
  · subst heq
    exact String.le_refl key
  · exact String.not_lt.mp (String.lt_asymm ((List.pairwise_cons.mp h).1 _ hmem))

theorem rel_some_left {x : α} {o : Option β} (h : Option.Rel R (some x) o) :
    ∃ y, o = some y ∧ R x y := by
  cases h with
  | some hr => exact ⟨_, rfl, hr⟩

theorem rel_some_right {y : β} {o : Option α} (h : Option.Rel R o (some y)) :
    ∃ x, o = some x ∧ R x y := by
  cases h with
  | some hr => exact ⟨_, rfl, hr⟩

/-- **Lists with sorted keys correspond field by field iff they do key by key.** -/
theorem forall₂_iff_lastField (hf : KeysSorted fs) (hg : KeysSorted gs) :
    List.Forall₂ (fun f g => f.1 = g.1 ∧ R f.2 g.2) fs gs ↔
      ∀ key, Option.Rel R (lastField fs key) (lastField gs key) := by
  induction fs generalizing gs with
  | nil =>
    rw [List.forall₂_nil_left_iff]
    constructor
    · rintro rfl key
      exact .none
    · intro h
      cases gs with
      | nil => rfl
      | cons g gs =>
        obtain ⟨x, hx, -⟩ := rel_some_right (lastField_head hg ▸ h g.1)
        nomatch hx
  | cons f fs ih =>
    cases gs with
    | nil =>
      refine iff_of_false (fun h => nomatch h) fun h => ?_
      obtain ⟨y, hy, -⟩ := rel_some_left (lastField_head hf ▸ h f.1)
      nomatch hy
    | cons g gs =>
      rw [List.forall₂_cons, ih hf.of_cons hg.of_cons]
      constructor
      · rintro ⟨⟨hkey, hvalue⟩, hrest⟩ key
        by_cases h : key = f.1
        · rw [h, lastField_head hf, hkey, lastField_head hg]
          exact .some hvalue
        · rw [lastField_of_ne_head h, lastField_of_ne_head (hkey ▸ h)]
          exact hrest key
      · intro h
        -- each head's key has a value in the other list, so neither comes before the other
        obtain ⟨y, hy, hvalue⟩ := rel_some_left (lastField_head hf ▸ h f.1)
        obtain ⟨x, hx, -⟩ := rel_some_right (lastField_head hg ▸ h g.1)
        have hkey : f.1 = g.1 :=
          String.le_antisymm (head_le_of_lastField hf hx) (head_le_of_lastField hg hy)
        have hgy : some g.2 = some y := by rw [← lastField_head hg, ← hkey, hy]
        refine ⟨⟨hkey, (Option.some.inj hgy).symm ▸ hvalue⟩, fun key => ?_⟩
        by_cases hk : key = f.1
        · rw [hk, lastField_eq_none_of_lt (List.pairwise_cons.mp hf).1, hkey,
            lastField_eq_none_of_lt (List.pairwise_cons.mp hg).1]
          exact .none
        · rw [← lastField_of_ne_head hk, ← lastField_of_ne_head (f := g) (hkey ▸ hk)]
          exact h key

/-- Lists that correspond field by field have the same keys. -/
theorem KeysSorted.of_forall₂ (hf : KeysSorted fs)
    (h : List.Forall₂ (fun f g => f.1 = g.1 ∧ R f.2 g.2) fs gs) : KeysSorted gs := by
  have hkeys : fs.map Prod.fst = gs.map Prod.fst := by
    induction h with
    | nil => rfl
    | cons hpair _ ih => rw [List.map_cons, List.map_cons, hpair.1, ih hf.of_cons]
  rw [KeysSorted, ← List.pairwise_map (f := Prod.fst) (R := (· < ·)), ← hkeys, List.pairwise_map]
  exact hf

end TwoLists

end SmartPlaylist.Json
