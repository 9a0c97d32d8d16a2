import Mathlib.Data.List.Perm.Basic
import SmartPlaylist.Proofs.Session.Outcome

/-!
# Random samples

Whatever the random numbers are, a sample takes items at distinct positions of a list, and a shuffle
takes all of them.  Items at distinct positions, in any order, are what `List.Subperm` speaks of.

## Main results

* `Job.exists_sample` — **a sample takes distinct positions.**
* `Job.exists_shuffle` — a shuffle is a permutation.
-/

namespace SmartPlaylist.Job

variable {σ ε α : Type}

/-- The session with other random numbers to come. -/
def SameButEntropy (s t : Session σ) : Prop := t = { s with entropy := t.entropy }

theorem SameButEntropy.refl (s : Session σ) : SameButEntropy s s := rfl

theorem SameButEntropy.trans {s t u : Session σ} (h : SameButEntropy s t)
    (h' : SameButEntropy t u) : SameButEntropy s u := by
  unfold SameButEntropy at *
  rw [h', h]

/-- **A sample takes distinct positions**: it never fails, and gives as many items as asked for, or
all if there are fewer. -/
theorem exists_sample (n : Nat) (xs : List α) (s : Session σ) :
    ∃ chosen after, (sample n xs : Job σ ε (List α)).outcome s = (.ok chosen, after) ∧
      chosen.Subperm xs ∧ chosen.length = min n xs.length ∧ SameButEntropy s after := by
  induction n generalizing xs s with
  | zero => exact ⟨[], s, rfl, List.nil_subperm, (Nat.zero_min _).symm, .refl s⟩
  | succ n ih =>
    match xs with
    | [] => exact ⟨[], s, rfl, List.nil_subperm, (Nat.min_zero _).symm, .refl s⟩
    | x :: xs =>
      -- whatever number is drawn, it is the position of some item
      have hbelow := outcome_below (ε := ε) (xs.length + 1) s
      generalize hi : s.entropy.word s.entropy.drawn % (xs.length + 1) = i at hbelow
      have hlt : i < (x :: xs).length := by
        rw [← hi]
        exact Nat.mod_lt _ (Nat.succ_pos _)
      obtain ⟨others, after, hrest, hsub, hlen, hsame⟩ := ih ((x :: xs).eraseIdx i)
        { s with entropy := { s.entropy with drawn := s.entropy.drawn + 1 } }
      have hget : (x :: xs).getD i x = (x :: xs)[i] := by
        rw [List.getD_eq_getElem?_getD, List.getElem?_eq_getElem hlt, Option.getD_some]
      refine ⟨(x :: xs)[i] :: others, after, ?_, ?_, ?_, ?_⟩
      · rw [sample, outcome_bind_of_ok hbelow, outcome_bind_of_ok hrest, hget]
        rfl
      · -- the item chosen and those left make up the list
        refine (List.Perm.subperm_left (List.getElem_cons_eraseIdx_perm hlt)).mp ?_
        exact (List.subperm_cons _).mpr hsub
      · rw [List.length_cons, hlen, List.length_eraseIdx_of_lt hlt, List.length_cons]
        omega
      · have hdrawn : SameButEntropy s
            { s with entropy := { s.entropy with drawn := s.entropy.drawn + 1 } } := rfl
        exact hdrawn.trans hsame

/-- A shuffle is a permutation. -/
theorem exists_shuffle (xs : List α) (s : Session σ) :
    ∃ shuffled after, (shuffle xs : Job σ ε (List α)).outcome s = (.ok shuffled, after) ∧
      shuffled.Perm xs ∧ SameButEntropy s after := by
  obtain ⟨shuffled, after, houtcome, hsub, hlen, hsame⟩ := exists_sample (ε := ε) xs.length xs s
  rw [Nat.min_self] at hlen
  exact ⟨shuffled, after, houtcome, hsub.perm_of_length_le (Nat.le_of_eq hlen.symm), hsame⟩

end SmartPlaylist.Job
