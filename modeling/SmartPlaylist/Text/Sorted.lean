/-!
# Sorted texts

Texts are ordered by their code points, which is also the order of their UTF-8
bytes.

## Main definitions

* `sorted` — the texts in order, repeats kept.
* `distinct` — the texts in order, each once.
* `greatest?` — the last of them in order.
-/

namespace SmartPlaylist.Text

/-- The texts in order. -/
def sorted (xs : List String) : List String := xs.mergeSort fun a b => decide (a ≤ b)

/-- Drops each text that equals the one before it. -/
def dropRepeats : List String → List String
  | a :: b :: rest => if a = b then dropRepeats (b :: rest) else a :: dropRepeats (b :: rest)
  | xs => xs

/-- The texts in order, each once. -/
def distinct (xs : List String) : List String := dropRepeats (sorted xs)

/-- The greatest text, if there is one. -/
def greatest? : List String → Option String
  | [] => none
  | x :: rest =>
    match greatest? rest with
    | none => some x
    | some y => some (if y ≤ x then x else y)

theorem mem_sorted {x : String} {xs : List String} : x ∈ sorted xs ↔ x ∈ xs :=
  (List.mergeSort_perm xs _).mem_iff

theorem mem_dropRepeats {x : String} {xs : List String} : x ∈ dropRepeats xs ↔ x ∈ xs := by
  fun_induction dropRepeats xs <;> simp_all

theorem mem_distinct {x : String} {xs : List String} : x ∈ distinct xs ↔ x ∈ xs := by
  rw [distinct, mem_dropRepeats, mem_sorted]

end SmartPlaylist.Text
