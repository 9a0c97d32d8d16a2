import Mathlib.Data.List.Forall2

/-!
# Lists gone through in order

What is read or checked item by item succeeds when every item does, and the first item that fails
decides what it fails with.

## Main results

* `exists_first_not` — a list that does not satisfy a property throughout has a first item that does
  not.
* `mapM_eq_some_iff` — items are read one for one.
* `mapM_eq_error` — the first failure ends the reading.
-/

namespace SmartPlaylist

variable {α β ε : Type}

/-- In every list some item is the first without a property, unless all have it. -/
theorem exists_first_not {P : α → Prop} {xs : List α} (h : ¬∀ x ∈ xs, P x) :
    ∃ before x after, xs = before ++ x :: after ∧ (∀ y ∈ before, P y) ∧ ¬P x := by
  induction xs with
  | nil => exact absurd (List.forall_mem_nil P) h
  | cons x xs ih =>
    by_cases hx : P x
    · obtain ⟨before, y, after, rfl, hbefore, hy⟩ :=
        ih fun hxs => h (List.forall_mem_cons.mpr ⟨hx, hxs⟩)
      exact ⟨x :: before, y, after, rfl, List.forall_mem_cons.mpr ⟨hx, hbefore⟩, hy⟩
    · exact ⟨[], x, xs, rfl, List.forall_mem_nil P, hx⟩

/-- In a list of one item only that item stands anywhere. -/
theorem eq_of_singleton_eq_append {x y : α} {before after : List α}
    (h : [x] = before ++ y :: after) : before = [] ∧ x = y ∧ after = [] := by
  cases before with
  | nil =>
    obtain ⟨hx, hafter⟩ := List.cons.inj h
    exact ⟨rfl, hx, hafter.symm⟩
  | cons z before => exact absurd (List.cons.inj h).2 (by simp)

/-- A part that stands at a position, and what comes after it, make up the rest of the list. -/
theorem drop_eq_append_drop {part whole : List α} {n : Nat} (h : part <+: whole.drop n) :
    whole.drop n = part ++ whole.drop (n + part.length) := by
  rw [← List.drop_drop]
  exact (List.prefix_iff_eq_append.mp h).symm

/-- A list is read iff every item of it is. -/
theorem mapM_eq_some_iff {f : α → Option β} {xs : List α} {ys : List β} :
    xs.mapM f = some ys ↔ List.Forall₂ (fun x y => f x = some y) xs ys := by
  induction xs generalizing ys with
  | nil => simp [eq_comm]
  | cons x xs ih =>
    rw [List.mapM_cons]
    constructor
    · intro h
      obtain ⟨y, hy, h⟩ := Option.bind_eq_some_iff.mp h
      obtain ⟨zs, hzs, h⟩ := Option.bind_eq_some_iff.mp h
      obtain rfl := Option.some.inj h
      exact .cons hy (ih.mp hzs)
    · intro h
      cases h with
      | cons hy hys =>
        rw [hy, ih.mpr hys]
        rfl

/-- Each item that was read was read from one. -/
theorem exists_of_mem_mapM {f : α → Option β} {xs : List α} {ys : List β} {y : β}
    (h : xs.mapM f = some ys) (hy : y ∈ ys) : ∃ x ∈ xs, f x = some y := by
  have hread := mapM_eq_some_iff.mp h
  clear h
  induction hread with
  | nil => exact absurd hy List.not_mem_nil
  | @cons x z xs ys hz _ ih =>
    rcases List.mem_cons.mp hy with rfl | hy
    · exact ⟨x, List.mem_cons_self, hz⟩
    · obtain ⟨x', hx', hread⟩ := ih hy
      exact ⟨x', List.mem_cons_of_mem _ hx', hread⟩

/-- The first failure ends the reading of a list. -/
theorem mapM_eq_error {f : α → Except ε β} {before after : List α} {x : α} {e : ε}
    (hbefore : ∀ y ∈ before, ∃ z, f y = .ok z) (hx : f x = .error e) :
    (before ++ x :: after).mapM f = .error e := by
  induction before with
  | nil =>
    rw [List.nil_append, List.mapM_cons, hx]
    rfl
  | cons y before ih =>
    rw [List.forall_mem_cons] at hbefore
    obtain ⟨⟨z, hz⟩, hbefore⟩ := hbefore
    rw [List.cons_append, List.mapM_cons, hz]
    show (((before ++ x :: after).mapM f) >>= fun zs => pure (z :: zs)) = _
    rw [ih hbefore]
    rfl

end SmartPlaylist
