import SmartPlaylist.Proofs.Session.Sample
import SmartPlaylist.Proofs.Session.Trace

/-!
# What a job says

A step of a job says one thing, passes on the remarks of the service, or says nothing, and what was
said is never taken back.  So what holds of the notices of every step holds of those of the job.

## Main definitions

* `Job.Tells` — every notice of the job has a property.

## Main results

* `Job.Tells.bind`, `Job.Tells.call`, … — the notices of a job, step by step.
-/

namespace SmartPlaylist

variable {σ ε ε' α β : Type}

/-- Every notice of the job has the property. -/
def Job.Tells (P : Notice → Prop) (j : Job σ ε α) : Prop := Leaves Session.notices P j

namespace Job.Tells

variable {P : Notice → Prop} {j : Job σ ε α} {f : α → Job σ ε β}

/-- A run of the job puts notices with the property last. -/
theorem exists_told {s after : Session σ} {result : Except ε α} (h : Tells P j)
    (houtcome : j.outcome s = (result, after)) :
    ∃ told, after.notices = s.notices ++ told ∧ ∀ n ∈ told, P n := by
  obtain ⟨told, hnotices, htold⟩ := h s
  have hafter : (j.outcome s).2 = after := congrArg Prod.snd houtcome
  refine ⟨told, ?_, htold⟩
  rw [← hafter]
  exact hnotices

theorem pure (x : α) : Tells P (Pure.pure x : Job σ ε α) := Leaves.of_eq fun _ => rfl

theorem throw (e : ε) : Tells P (throw e : Job σ ε α) := Leaves.throw e

theorem bind (h : Tells P j) (hf : ∀ x, Tells P (f x)) : Tells P (j >>= f) := Leaves.bind h hf

theorem store (a : Store.Action α) : Tells P (Job.store a : Job σ StoreError α) :=
  Leaves.of_eq fun _ => rfl

theorem tell {n : Notice} (h : P n) : Tells P (Job.tell n : Job σ ε Unit) :=
  fun _ => ⟨[n], rfl, List.forall_mem_singleton.mpr h⟩

theorem call (h : ∀ n, P (.remote n)) (c : Call σ α) : Tells P (Job.call c) := by
  intro s
  refine ⟨(c s.remote).1.notices.map Notice.remote, rfl, fun n hn => ?_⟩
  obtain ⟨remark, -, rfl⟩ := List.mem_map.mp hn
  exact h remark

theorem failAs {g : ε → ε'} (h : Tells P j) : Tells P (j.failAs g) := by
  intro s
  obtain ⟨told, hnotices, htold⟩ := h s
  refine ⟨told, ?_, htold⟩
  show ((j.failAs g).outcome s).2.notices = _
  rw [outcome_failAs_eq_mapError]
  exact hnotices

theorem forM_tell {f : α → Notice} (h : ∀ x, P (f x)) (xs : List α) :
    Tells P (xs.forM fun x => (Job.tell (f x) : Job σ ε Unit)) := by
  intro s
  have hrun := outcome_forM_tell (ε := ε) f xs s
  refine ⟨xs.map f, congrArg (fun r => r.2.notices) hrun, fun n hn => ?_⟩
  obtain ⟨x, -, rfl⟩ := List.mem_map.mp hn
  exact h x

theorem sample (n : Nat) (xs : List α) : Tells P (Job.sample n xs : Job σ ε (List α)) := by
  refine Leaves.of_eq fun s => ?_
  obtain ⟨chosen, after, hsample, -, -, hsame⟩ := exists_sample (ε := ε) n xs s
  have hafter : (Job.sample n xs : Job σ ε (List α)).run s = (.ok chosen, after) := hsample
  rw [hafter, hsame]

theorem shuffle (xs : List α) : Tells P (Job.shuffle xs : Job σ ε (List α)) := sample xs.length xs

end Job.Tells

end SmartPlaylist
