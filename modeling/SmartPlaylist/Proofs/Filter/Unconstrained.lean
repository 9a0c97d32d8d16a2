import SmartPlaylist.Proofs.Filter.Dimension
import SmartPlaylist.Proofs.Filter.Render

/-!
# Filters that constrain nothing

Whether a filter constrains anything is asked in three places: of a definition, by its lists and the
bounds of its ranges; of a predicate, down its tree; and of a rendered predicate, which has a clause
or none.  The answers agree, and each is right: a predicate that constrains nothing is satisfied by
every row, and one that constrains something is not satisfied by a row without values.

So once a definition is known to have filters, there is a clause to put to the stored rows, and
there are rows for which it is not true.

## Main definitions

* `Predicate.emptyRow` — a row without values.
* `Store.query` — the saved tracks with a joined row for which a clause is true.
* `Store.renderedMatches` — the matches of a definition by way of the clause, step by step.

## Main results

* `Predicate.isEmpty_iff_terms` — a tree constrains nothing when it has no terms.
* `Predicate.satisfied_emptyRow_iff` — and when a row without values satisfies it.
* `Predicate.isEmpty_ofDefinition` — the predicate of a definition with filters is not empty.
* `Store.filterMatches_eq_renderedMatches` — the matches are those of the clause.
* `Store.constraint_notions_agree` — **all notions of constraining nothing agree**, so no run ends
  between a definition with filters and its query.
-/

namespace SmartPlaylist

namespace Predicate

variable {c : Comparison}

/-! ### Empty trees -/

mutual

/-- **A tree constrains nothing when it has no terms.** -/
theorem isEmpty_iff_terms : ∀ p : Predicate, p.isEmpty = true ↔ p.terms = []
  | range column min max => by
    cases min <;> cases max <;> simp [isEmpty, terms, rangeTerms, rangeParts]
  | membership column values => by simp [isEmpty, terms]
  | all children => by
    rw [isEmpty, terms]
    exact allEmpty_iff_terms children

theorem allEmpty_iff_terms : ∀ ps : List Predicate, allEmpty ps = true ↔ termsOfAll ps = []
  | [] => by simp [allEmpty, termsOfAll]
  | p :: rest => by
    rw [allEmpty, termsOfAll, Bool.and_eq_true, List.append_eq_nil_iff, isEmpty_iff_terms p,
      allEmpty_iff_terms rest]

end

theorem clause?_eq_none_iff {ts : List Term} : clause? ts = none ↔ ts = [] := by
  simp [clause?]

theorem renderOnto_fst_eq_none_iff (p : Predicate) (bound : List BoundValue) :
    (p.renderOnto bound).1 = none ↔ p.isEmpty = true := by
  rw [renderOnto_eq, isEmpty_iff_terms]
  exact clause?_eq_none_iff

/-- Where there is no clause, no values are bound. -/
theorem renderOnto_eq_none_iff (p : Predicate) (bound : List BoundValue) :
    p.renderOnto bound = (none, bound) ↔ p.isEmpty = true := by
  constructor
  · intro h
    rw [← renderOnto_fst_eq_none_iff p bound, h]
  · intro h
    rw [isEmpty_iff_terms] at h
    rw [renderOnto_eq, h, List.flatMap_nil, List.append_nil]
    rfl

/-! ### Rows without values -/

/-- A row without values. -/
def emptyRow : Column → Option Cell := fun _ => none

mutual

/-- **A row without values satisfies a tree that constrains nothing, and no other tree.** -/
theorem satisfied_emptyRow_iff : ∀ p : Predicate, p.Satisfied c emptyRow ↔ p.isEmpty = true
  | range column min max => by
    cases min <;> cases max <;> simp [Satisfied, isEmpty, emptyRow]
  | membership column values => by simp [Satisfied, isEmpty, emptyRow]
  | all children => by
    rw [Satisfied, isEmpty]
    exact allSatisfied_emptyRow_iff children

theorem allSatisfied_emptyRow_iff : ∀ ps : List Predicate,
    AllSatisfied c emptyRow ps ↔ allEmpty ps = true
  | [] => by simp [AllSatisfied, allEmpty]
  | p :: rest => by
    rw [AllSatisfied, allEmpty, Bool.and_eq_true, satisfied_emptyRow_iff p,
      allSatisfied_emptyRow_iff rest]

end

/-- A tree that constrains nothing is satisfied by every row. -/
theorem isEmpty_iff_forall_satisfied (p : Predicate) :
    p.isEmpty = true ↔ ∀ (c : Comparison) (row : Column → Option Cell), p.Satisfied c row := by
  constructor
  · intro h c row
    rw [isEmpty_iff_terms] at h
    rw [satisfied_iff_terms, h]
    exact List.forall_mem_nil _
  · intro h
    exact satisfied_emptyRow_iff p |>.mp (h storedOrder emptyRow)

/-! ### The predicate of a definition -/

theorem allEmpty_eq_all : ∀ ps : List Predicate, allEmpty ps = ps.all isEmpty
  | [] => rfl
  | p :: rest => by rw [allEmpty, List.all_cons, allEmpty_eq_all rest]

/-- **The predicate of a definition with filters is not empty.** -/
theorem isEmpty_ofDefinition (d : Definition) : (ofDefinition d).isEmpty = !d.hasFilters := by
  have hlist : ∀ (column : Column) (values : List String),
      (if values.isEmpty then [] else [membership column values]).all isEmpty
        = values.isEmpty := by
    intro column values
    cases values <;> simp [isEmpty]
  rw [ofDefinition, isEmpty, allEmpty_eq_all, List.all_append, List.all_append, hlist, hlist,
    Definition.hasFilters]
  cases d.features with
  | none => simp [Bool.and_comm]
  | some ranges =>
    rw [Option.getD_some]
    induction ranges with
    | nil => simp [Bool.and_comm]
    | cons entry rest ih =>
      obtain ⟨f, r⟩ := entry
      -- a range without bounds adds no node, and the node of any other one is not empty
      cases h : r.isUnbounded with
      | true => simpa [h] using ih
      | false =>
        have hnode : (range (.feature f) r.min r.max).isEmpty = false := by
          rw [isEmpty]
          exact h
        simp [h, hnode]

/-- The clause that a predicate has is read as a condition that is true for the rows that satisfy
the predicate. -/
theorem exists_read_render {p : Predicate} (h : p.isEmpty = false) :
    ∃ clause values condition, p.render = (some clause, values) ∧
      Condition.read clause values = some condition ∧
      ∀ (c : Comparison) (row : Column → Option Cell),
        condition.truth c row = some true ↔ p.Satisfied c row := by
  rw [Bool.eq_false_iff, Ne, isEmpty_iff_terms, ← clause?_eq_none_iff] at h
  obtain ⟨clause, hclause⟩ := Option.ne_none_iff_exists'.mp h
  obtain ⟨-, hread⟩ := exists_read hclause (exists_isRead p)
  refine ⟨clause, p.terms.flatMap Term.values, _, ?_, hread, ?_⟩
  · rw [render, renderOnto_eq, hclause, List.nil_append]
  · intro c row
    rw [Condition.truth_every_iff, List.forall_mem_map, satisfied_iff_terms]

end Predicate

/-! ### The query -/

namespace Store

/-- The saved tracks with a joined row for which a clause is true, in order. -/
def query (clause : String) (values : List BoundValue) : Action (List String) := do
  let joined ← joinedLibrary
  match Condition.read clause values with
  | some condition =>
    return Text.distinct ((joined.filter fun r =>
      condition.truth Predicate.storedOrder r.cell? = some true).map JoinedRow.trackId)
  | none => throw .unreadableStatement

/-- The matches of a definition by way of the clause: there are none without filters; otherwise the
predicate is rendered, which may end the run in its own way if there is no clause. -/
def renderedMatches (exit : Action (List String)) (d : Definition) : Action (List String) :=
  if d.hasFilters then
    match (Predicate.ofDefinition d).render with
    | (none, _) => exit
    | (some clause, values) => query clause values
  else return []

/-- **The matches are those of the clause**, and what would be done without one does not matter. -/
theorem filterMatches_eq_renderedMatches (exit : Action (List String)) (d : Definition) :
    filterMatches d = renderedMatches exit d := by
  unfold renderedMatches
  by_cases hfilters : d.hasFilters = true
  · have hempty : (Predicate.ofDefinition d).isEmpty = false := by
      rw [Predicate.isEmpty_ofDefinition, hfilters]
      rfl
    obtain ⟨clause, values, condition, hrender, hread, htruth⟩ :=
      Predicate.exists_read_render hempty
    have hholds : ∀ r : JoinedRow,
        decide (condition.truth Predicate.storedOrder r.cell? = some true)
          = (Predicate.ofDefinition d).holds r := by
      intro r
      rw [Bool.eq_iff_iff, decide_eq_true_eq, htruth, Predicate.satisfied_iff_holds]
    rw [if_pos hfilters, hrender,
      filterMatches_of_hasFilter (Definition.hasFilters_eq_true_iff.mp hfilters)]
    simp only [query, hread, hholds]
  · rw [if_neg hfilters, filterMatches, if_neg hfilters]

/-- **All notions of constraining nothing agree.**  A tree renders to no clause exactly when it is
empty, and then nothing is bound and every row satisfies it; any other tree is not satisfied by a
row without values.  A definition has filters exactly when its predicate is not empty, and exactly
when its predicate has a clause; the clause is read as a condition that is not true for a row
without values.  So the matches are those of the clause, whatever would be done without one. -/
theorem constraint_notions_agree :
    (∀ (p : Predicate) (bound : List BoundValue),
      ((p.renderOnto bound).1 = none ↔ p.isEmpty = true) ∧
      (p.renderOnto bound = (none, bound) ↔ p.isEmpty = true) ∧
      (p.isEmpty = true ↔ ∀ c row, p.Satisfied c row) ∧
      ∀ c, p.Satisfied c Predicate.emptyRow ↔ p.isEmpty = true) ∧
    ∀ d : Definition,
      (d.hasFilters = true ↔ (Predicate.ofDefinition d).isEmpty = false) ∧
      (d.hasFilters = true ↔ ∃ clause values condition,
        (Predicate.ofDefinition d).render = (some clause, values) ∧
        Condition.read clause values = some condition ∧
        ∀ c, condition.truth c Predicate.emptyRow ≠ some true) ∧
      ∀ exit, filterMatches d = renderedMatches exit d := by
  have hempty : ∀ d : Definition,
      d.hasFilters = true ↔ (Predicate.ofDefinition d).isEmpty = false := by
    intro d
    rw [Predicate.isEmpty_ofDefinition, Bool.not_eq_false']
  constructor
  · intro p bound
    exact ⟨Predicate.renderOnto_fst_eq_none_iff p bound, Predicate.renderOnto_eq_none_iff p bound,
      Predicate.isEmpty_iff_forall_satisfied p, fun _ => Predicate.satisfied_emptyRow_iff p⟩
  · intro d
    refine ⟨hempty d, ?_, fun exit => filterMatches_eq_renderedMatches exit d⟩
    rw [hempty]
    constructor
    · intro h
      obtain ⟨clause, values, condition, hrender, hread, htruth⟩ := Predicate.exists_read_render h
      refine ⟨clause, values, condition, hrender, hread, ?_⟩
      intro c
      rw [Ne, htruth, Predicate.satisfied_emptyRow_iff, h]
      exact Bool.false_ne_true
    · rintro ⟨clause, values, condition, hrender, -, -⟩
      rw [Bool.eq_false_iff, Ne, ← Predicate.renderOnto_fst_eq_none_iff _ []]
      intro hnone
      rw [← Predicate.render, hrender] at hnone
      exact absurd hnone (by simp)

/-- Ranges without bounds are no filter, and neither are lists without names. -/
example : (Definition.mk "open" (some [(.tempo, ⟨none, none⟩)]) [] [] []).hasFilters = false := rfl

end Store

end SmartPlaylist
