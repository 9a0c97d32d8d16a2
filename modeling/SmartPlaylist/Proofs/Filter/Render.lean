import SmartPlaylist.Proofs.Filter.Clause
import SmartPlaylist.Proofs.Numeric.Exact

/-!
# What a rendered predicate says

However conditions are nested, the clause of a predicate is a row of terms with `AND` between them:
one in parentheses for each condition that asks for something.  Each term has its own values, in the
order of its placeholders, so the values of the whole clause stand in the order of its placeholders
too, and what is read is the conjunction of what the terms say.

The text is made of the columns, and of how many values there are, and of nothing else.

## Main definitions

* `Predicate.Satisfied` — what a predicate asks of a row, any of whose columns may be absent.
* `Predicate.Term`, `Predicate.terms` — the terms of a clause.
* `Predicate.Skeleton`, `Predicate.skeleton` — what is left of a predicate without its values.

## Main results

* `Predicate.renderOnto_eq` — the clause is made of the terms.
* `Predicate.exists_isRead` — each term is read as the condition it stands for.
* `Predicate.satisfied_iff_terms` — a row satisfies a predicate when all of its terms are true.
* `Predicate.renderOnto_means` — **the clause says what the predicate asks**, with as many
  placeholders as values, and its text does not depend on the values.
-/

namespace SmartPlaylist

open Script

/-! ### What a predicate asks -/

namespace Predicate

mutual

/-- What a tree asks of a row: for each bound of a range a value within it, where nothing lies
within a bound that is no number; for a membership a value of its list; and for a conjunction
everything that its children ask. -/
def Satisfied (c : Comparison) (row : Column → Option Cell) : Predicate → Prop
  | range column min max =>
    (∀ low, min = some low → low.isNaN = false ∧
      ∃ v, row column = some v ∧ c.atLeast column v (.real low) = true) ∧
    ∀ high, max = some high → high.isNaN = false ∧
      ∃ v, row column = some v ∧ c.atMost column v (.real high) = true
  | membership column values =>
    ∃ v, row column = some v ∧ ∃ s ∈ values, c.equal column v (.text s) = true
  | all children => AllSatisfied c row children

/-- What all of the trees ask of a row. -/
def AllSatisfied (c : Comparison) (row : Column → Option Cell) : List Predicate → Prop
  | [] => True
  | p :: rest => Satisfied c row p ∧ AllSatisfied c row rest

end

/-- What is left of a tree without its values: the columns, which bounds there are, and how many
values a membership has. -/
inductive Skeleton where
  | range (column : Column) (hasMin hasMax : Bool)
  | membership (column : Column) (count : Nat)
  | all (children : List Skeleton)

mutual

/-- The tree without its values. -/
def skeleton : Predicate → Skeleton
  | range column min max => .range column min.isSome max.isSome
  | membership column values => .membership column values.length
  | all children => .all (skeletons children)

/-- The trees without their values. -/
def skeletons : List Predicate → List Skeleton
  | [] => []
  | p :: rest => skeleton p :: skeletons rest

end

/-! ### Terms -/

/-- A term of a clause: its text, its values, and what it says. -/
structure Term where
  text : String
  values : List BoundValue
  condition : Condition

/-- One of the bounds of a range. -/
inductive Bound where
  | low (x : Float)
  | high (x : Float)

namespace Bound

/-- The bounds that a range has. -/
def ofRange (min max : Option Float) : List Bound :=
  (min.map low).toList ++ (max.map high).toList

/-- How a comparison with the bound is written, with its value. -/
def part (column : Column) : Bound → String × BoundValue
  | low x => (column.reference ++ " >= ?", .real x)
  | high x => (column.reference ++ " <= ?", .real x)

/-- What a comparison with the bound says. -/
def condition (column : Column) : Bound → Condition
  | low x => .atLeast column (BoundValue.real x).cell?
  | high x => .atMost column (BoundValue.real x).cell?

/-- The tokens of a comparison with the bound. -/
def shown (column : Column) : Bound → List Token
  | low x => Condition.columnTokens column ++ [.mark '>', .mark '=', (BoundValue.real x).token]
  | high x => Condition.columnTokens column ++ [.mark '<', .mark '=', (BoundValue.real x).token]

theorem rangeParts_eq (column : Column) (min max : Option Float) :
    rangeParts column min max = (ofRange min max).map (part column) := by
  cases min <;> cases max <;> rfl

end Bound

/-- The term of a range, if it has a bound. -/
def rangeTerms (column : Column) (min max : Option Float) : List Term :=
  if (rangeParts column min max).isEmpty then []
  else [⟨"(" ++ " AND ".intercalate ((rangeParts column min max).map Prod.fst) ++ ")",
    (rangeParts column min max).map Prod.snd,
    .every ((Bound.ofRange min max).map (Bound.condition column))⟩]

/-- The term of a membership. -/
def membershipTerm (column : Column) (values : List String) : Term :=
  if values.isEmpty then ⟨"(0 = 1)", [], .every [.equal 0 1]⟩
  else
    ⟨"(" ++ column.reference ++ " IN (" ++ ", ".intercalate (values.map fun _ => "?") ++ "))",
      values.map .text, .every [.among column ((values.map .text).map BoundValue.cell?)]⟩

mutual

/-- The terms of a tree, from left to right. -/
def terms : Predicate → List Term
  | range column min max => rangeTerms column min max
  | membership column values => [membershipTerm column values]
  | all children => termsOfAll children

/-- The terms of several trees. -/
def termsOfAll : List Predicate → List Term
  | [] => []
  | p :: rest => terms p ++ termsOfAll rest

end

/-- The clause of several terms; without terms there is none. -/
def clause? (ts : List Term) : Option String :=
  if ts.isEmpty then none else some (" AND ".intercalate (ts.map Term.text))

/-- The clauses of several trees make up the clause of all of their terms. -/
theorem clause?_append (ts us : List Term) (clauses : List String)
    (h : clause? us = if clauses.isEmpty then none else some (" AND ".intercalate clauses)) :
    clause? (ts ++ us) =
      if ((clause? ts).toList ++ clauses).isEmpty then none
      else some (" AND ".intercalate ((clause? ts).toList ++ clauses)) := by
  cases ts with
  | nil => exact h
  | cons t ts =>
    have hfirst : clause? (t :: ts) = some (" AND ".intercalate ((t :: ts).map Term.text)) := rfl
    rw [hfirst, Option.toList_some, List.singleton_append]
    cases us with
    | nil =>
      cases clauses with
      | nil => simp [hfirst]
      | cons _ _ => simp [clause?] at h
    | cons u us =>
      cases clauses with
      | nil => simp [clause?] at h
      | cons c cs =>
        have hrest : " AND ".intercalate ((u :: us).map Term.text) = " AND ".intercalate (c :: cs) := by
          simpa [clause?] using h
        have hne : (u :: us).map Term.text ≠ [] := by simp
        have hall : clause? (t :: ts ++ u :: us)
            = some (" AND ".intercalate ((t :: ts ++ u :: us).map Term.text)) := rfl
        rw [hall, List.map_append, String.intercalate_append_of_ne_nil (by simp) hne, hrest]
        simp [String.intercalate_cons_of_ne_nil]

theorem renderRange_eq (column : Column) (min max : Option Float) :
    renderRange column min max = (clause? (rangeTerms column min max),
      (rangeTerms column min max).flatMap Term.values) := by
  unfold renderRange rangeTerms
  by_cases h : rangeParts column min max = [] <;> simp [h, clause?]

theorem renderMembership_eq (column : Column) (values : List String) :
    renderMembership column values = (clause? [membershipTerm column values],
      [membershipTerm column values].flatMap Term.values) := by
  unfold renderMembership membershipTerm
  by_cases h : values = [] <;> simp [h, clause?]

mutual

/-- **The clause of a tree is made of its terms**, and the values bound are those of its terms, behind
the ones that were bound before. -/
theorem renderOnto_eq (bound : List BoundValue) : ∀ p : Predicate,
    p.renderOnto bound = (clause? p.terms, bound ++ p.terms.flatMap Term.values)
  | range column min max => by rw [renderOnto, renderRange_eq, terms]
  | membership column values => by rw [renderOnto, renderMembership_eq, terms]
  | all children => by
    obtain ⟨hclause, hbound⟩ := renderAllOnto_eq bound children
    rw [renderOnto, terms, hclause, ← hbound]

theorem renderAllOnto_eq (bound : List BoundValue) : ∀ ps : List Predicate,
    clause? (termsOfAll ps) = (if (renderAllOnto bound ps).1.isEmpty then none
      else some (" AND ".intercalate (renderAllOnto bound ps).1)) ∧
    (renderAllOnto bound ps).2 = bound ++ (termsOfAll ps).flatMap Term.values
  | [] => by simp [renderAllOnto, termsOfAll, clause?]
  | p :: rest => by
    obtain ⟨hclause, hbound⟩ :=
      renderAllOnto_eq (bound ++ p.terms.flatMap Term.values) rest
    rw [renderAllOnto, renderOnto_eq bound p, termsOfAll]
    refine ⟨clause?_append _ _ _ hclause, ?_⟩
    rw [List.flatMap_append, ← List.append_assoc]
    exact hbound

end

/-! ### What the terms say -/

variable {c : Comparison} {row : Column → Option Cell}

theorem bounds_true_iff {column : Column} {min max : Option Float} :
    (∀ b ∈ Bound.ofRange min max, (b.condition column).truth c row = some true) ↔
      (range column min max).Satisfied c row := by
  have hbound : ∀ (f : Cell → Cell → Bool) (x : Float),
      Truth.compared f (row column) (BoundValue.real x).cell? = some true ↔
        x.isNaN = false ∧ ∃ v, row column = some v ∧ f v (.real x) = true := by
    intro f x
    rw [Truth.compared_eq_true, BoundValue.cell?]
    cases x.isNaN <;> simp
  rw [Bound.ofRange, List.forall_mem_append, Satisfied]
  refine and_congr ?_ ?_
  · cases min with
    | none => simp
    | some low => simp [Bound.condition, Condition.truth, hbound]
  · cases max with
    | none => simp
    | some high => simp [Bound.condition, Condition.truth, hbound]

theorem membershipTerm_true_iff {column : Column} {values : List String} :
    (membershipTerm column values).condition.truth c row = some true ↔
      (membership column values).Satisfied c row := by
  unfold membershipTerm
  by_cases h : values = []
  · rw [if_pos (List.isEmpty_iff.mpr h), Condition.truth_every_iff, List.forall_mem_singleton]
    simp [h, Satisfied, Condition.truth]
  · rw [if_neg (mt List.isEmpty_iff.mp h), Condition.truth_every_iff, List.forall_mem_singleton]
    simp [Satisfied, Condition.truth_among_iff, BoundValue.cell?]

mutual

/-- **A row satisfies a tree when all of its terms are true.** -/
theorem satisfied_iff_terms : ∀ p : Predicate,
    p.Satisfied c row ↔ ∀ t ∈ p.terms, t.condition.truth c row = some true
  | range column min max => by
    rw [← bounds_true_iff, terms, rangeTerms, Bound.rangeParts_eq]
    split
    next h =>
      -- without bounds nothing is asked
      simp_all
    next h => simp [Condition.truth_every_iff]
  | membership column values => by
    rw [← membershipTerm_true_iff, terms, List.forall_mem_singleton]
  | all children => by rw [Satisfied, terms, allSatisfied_iff_terms children]

theorem allSatisfied_iff_terms : ∀ ps : List Predicate,
    AllSatisfied c row ps ↔ ∀ t ∈ termsOfAll ps, t.condition.truth c row = some true
  | [] => by simp [AllSatisfied, termsOfAll]
  | p :: rest => by
    rw [AllSatisfied, termsOfAll, List.forall_mem_append, satisfied_iff_terms p,
      allSatisfied_iff_terms rest]

end

/-! ### How the terms are read -/

/-- The text of a term is cut into tokens that are read as what the term says. -/
structure Term.IsRead (t : Term) (shown : List Token) : Prop where
  fills : Fills t.text.toList t.values shown
  shown_ne_nil : shown ≠ []
  read : ∀ depth rest, Condition.term (Condition.conjunction (depth + 1)) (shown ++ rest)
    = some (t.condition, rest)

theorem fills_reference (column : Column) :
    Fills (column.reference.toList ++ [' ']) [] (Condition.columnTokens column) := by
  have hcut : ∀ n rest, tokensWithin (n + 4) (column.reference.toList ++ [' '] ++ rest)
      = Condition.columnTokens column ++ tokensWithin n rest := by
    intro n rest
    cases column with
    | artistName => rfl
    | genre => rfl
    | feature f => cases f <;> rfl
  have hplain : 4 ≤ (column.reference.toList ++ [' ']).length ∧
      (column.reference.toList ++ [' ']).count '?' = 0 ∧
      filled? [] (Condition.columnTokens column) = some (Condition.columnTokens column) := by
    cases column with
    | artistName => decide
    | genre => decide
    | feature f => cases f <;> decide
  exact .of_steps 4 hplain.1 hplain.2.1 hplain.2.2 hcut

namespace Bound

theorem fills (column : Column) (b : Bound) :
    Fills (b.part column).1.toList [(b.part column).2] (b.shown column) := by
  cases b with
  | low x =>
    have hmark : Fills ['>', '=', ' '] [] [.mark '>', .mark '='] :=
      .of_steps 3 (by decide) rfl rfl fun _ _ => rfl
    have hall := ((fills_reference column).append hmark).append (.placeholder (.real x))
    simpa [part, shown] using hall
  | high x =>
    have hmark : Fills ['<', '=', ' '] [] [.mark '<', .mark '='] :=
      .of_steps 3 (by decide) rfl rfl fun _ _ => rfl
    have hall := ((fills_reference column).append hmark).append (.placeholder (.real x))
    simpa [part, shown] using hall

theorem term_shown (column : Column) (b : Bound) (inner : Reader Condition) (rest : List Token) :
    Condition.term inner (b.shown column ++ rest) = some (b.condition column, rest) := by
  cases b with
  | low x =>
    rw [shown, List.append_assoc]
    exact Condition.term_comparison inner (Condition.comparison_atLeast column (.real x) rest)
  | high x =>
    rw [shown, List.append_assoc]
    exact Condition.term_comparison inner (Condition.comparison_atMost column (.real x) rest)

end Bound

theorem fills_and : Fills " AND ".toList [] [.word "AND"] :=
  .of_steps 3 (by decide) rfl rfl fun _ _ => rfl

theorem fills_open : Fills ['('] [] [.mark '('] := .of_steps 1 (by decide) rfl rfl fun _ _ => rfl

theorem fills_close : Fills [')'] [] [.mark ')'] := .of_steps 1 (by decide) rfl rfl fun _ _ => rfl

theorem isRead_range (column : Column) {bounds : List Bound} (hne : bounds ≠ []) :
    Term.IsRead ⟨"(" ++ " AND ".intercalate ((bounds.map (Bound.part column)).map Prod.fst) ++ ")",
        (bounds.map (Bound.part column)).map Prod.snd,
        .every (bounds.map (Bound.condition column))⟩
      (.mark '(' :: ([.word "AND"].intercalate (bounds.map (Bound.shown column)) ++ [.mark ')']))
    where
  fills := by
    have hparts := Fills.intercalate fills_and bounds fun b _ => b.fills column
    have hall := (fills_open.append hparts).append fills_close
    rw [← List.map_eq_flatMap] at hall
    simpa [String.toList_intercalate, Function.comp_def] using hall
  shown_ne_nil := List.cons_ne_nil _ _
  read := fun _ rest => Condition.term_terms bounds hne (fun b _ => b.term_shown column _) rest

/-- The tokens of a membership. -/
def membershipTokens (column : Column) (values : List String) : List Token :=
  Condition.columnTokens column ++ .word "IN" :: .mark '(' ::
    ([.mark ','].intercalate ((values.map BoundValue.text).map fun v => [v.token]) ++ [.mark ')'])

theorem isRead_among (column : Column) {values : List String} (hne : values ≠ []) :
    Term.IsRead (membershipTerm column values)
      (.mark '(' :: (membershipTokens column values ++ [.mark ')'])) where
  fills := by
    have hin : Fills "IN (".toList [] [.word "IN", .mark '('] :=
      .of_steps 3 (by decide) rfl rfl fun _ _ => rfl
    have hcomma : Fills ", ".toList [] [.mark ','] :=
      .of_steps 2 (by decide) rfl rfl fun _ _ => rfl
    have hvalues := Fills.intercalate hcomma (values.map BoundValue.text) fun v _ =>
      Fills.placeholder v
    have hall := ((((fills_open.append (fills_reference column)).append hin).append
      hvalues).append fills_close).append fills_close
    rw [← List.map_eq_flatMap, List.map_id'] at hall
    rw [membershipTerm, if_neg (mt List.isEmpty_iff.mp hne), membershipTokens]
    simpa [String.toList_intercalate, Function.comp_def] using hall
  shown_ne_nil := List.cons_ne_nil _ _
  read := by
    intro depth rest
    have hamong : ∀ rest, Condition.term (Condition.conjunction depth)
        (membershipTokens column values ++ rest)
          = some (.among column ((values.map .text).map BoundValue.cell?), rest) := by
      intro rest
      have hcomparison := Condition.comparison_among column (values.map .text)
        (by simpa using hne) rest
      have hterm := Condition.term_comparison (Condition.conjunction depth) hcomparison
      simpa [membershipTokens] using hterm
    rw [membershipTerm, if_neg (mt List.isEmpty_iff.mp hne)]
    exact Condition.term_term _ hamong rest

/-- No row satisfies the term of a membership without values. -/
theorem isRead_never (column : Column) :
    Term.IsRead (membershipTerm column [])
      [.mark '(', .value (.whole 0), .mark '=', .value (.whole 1), .mark ')'] where
  fills := by
    show Fills "(0 = 1)".toList [] _
    refine .of_steps 7 (by decide) (by decide) rfl fun n rest => ?_
    -- the last number ends where no exponent follows
    cases rest with
    | nil => rfl
    | cons c rest => rfl
  shown_ne_nil := List.cons_ne_nil _ _
  read := fun _ rest =>
    Condition.term_term [.value (.whole 0), .mark '=', .value (.whole 1)] (fun _ => rfl) rest

mutual

/-- **Each term of a tree is read as what it says.** -/
theorem exists_isRead : ∀ (p : Predicate), ∀ t ∈ p.terms, ∃ shown, t.IsRead shown
  | range column min max => by
    rw [terms, rangeTerms, Bound.rangeParts_eq]
    split
    next h => exact List.forall_mem_nil _
    next h =>
      have hne : Bound.ofRange min max ≠ [] := by simpa using h
      exact List.forall_mem_singleton.mpr ⟨_, isRead_range column hne⟩
  | membership column values => by
    rw [terms, List.forall_mem_singleton]
    by_cases h : values = []
    · exact ⟨_, h ▸ isRead_never column⟩
    · exact ⟨_, isRead_among column h⟩
  | all children => exists_isRead_of_all children

theorem exists_isRead_of_all : ∀ (ps : List Predicate), ∀ t ∈ termsOfAll ps, ∃ shown, t.IsRead shown
  | [] => List.forall_mem_nil _
  | p :: rest => List.forall_mem_append.mpr ⟨exists_isRead p, exists_isRead_of_all rest⟩

end

/-- The clause of terms has as many placeholders as they have values, and says what they say. -/
theorem exists_read {ts : List Term} {clause : String} (hclause : clause? ts = some clause)
    (hread : ∀ t ∈ ts, ∃ shown, t.IsRead shown) :
    clause.toList.count '?' = (ts.flatMap Term.values).length ∧
      Condition.read clause (ts.flatMap Term.values) = some (.every (ts.map Term.condition)) := by
  obtain ⟨hne, rfl⟩ : ts ≠ [] ∧ " AND ".intercalate (ts.map Term.text) = clause := by
    simpa [clause?] using hclause
  -- the tokens of each term
  choose! shown hshown using hread
  have hfills := Fills.intercalate fills_and ts fun t ht => (hshown t ht).fills
  have htext : (" AND ".intercalate (ts.map Term.text)).toList
      = " AND ".toList.intercalate (ts.map fun t => t.text.toList) := by
    rw [String.toList_intercalate, List.map_map]
    rfl
  rw [← htext] at hfills
  exact ⟨hfills.count, Condition.read_of_fills ts hne hfills fun t ht =>
    ⟨(hshown t ht).shown_ne_nil, (hshown t ht).read⟩⟩

/-! ### What the text depends on -/

mutual

/-- **The texts of the terms depend on the skeleton only.** -/
theorem texts_eq_of_skeleton : ∀ p q : Predicate, p.skeleton = q.skeleton →
    p.terms.map Term.text = q.terms.map Term.text
  | range column min max, range column' min' max', h => by
    obtain ⟨rfl, hmin, hmax⟩ := Skeleton.range.inj h
    cases min <;> cases min' <;> cases max <;> cases max' <;>
      first | rfl | simp at hmin hmax
  | membership column values, membership column' values', h => by
    obtain ⟨rfl, hlength⟩ := Skeleton.membership.inj h
    have hempty : values = [] ↔ values' = [] := by
      rw [← List.length_eq_zero_iff, ← List.length_eq_zero_iff, hlength]
    by_cases hvalues : values = []
    · simp [terms, membershipTerm, hvalues, hempty.mp hvalues]
    · simp [terms, membershipTerm, hvalues, mt hempty.mpr hvalues, hlength]
  | all children, all children', h =>
    texts_eq_of_skeletons children children' (Skeleton.all.inj h)
  | range .., membership .., h | range .., all _, h | membership .., range .., h
  | membership .., all _, h | all _, range .., h | all _, membership .., h => nomatch h

theorem texts_eq_of_skeletons : ∀ ps qs : List Predicate, skeletons ps = skeletons qs →
    (termsOfAll ps).map Term.text = (termsOfAll qs).map Term.text
  | [], [], _ => rfl
  | p :: ps, q :: qs, h => by
    obtain ⟨hhead, htail⟩ := List.cons.inj h
    rw [termsOfAll, termsOfAll, List.map_append, List.map_append, texts_eq_of_skeleton p q hhead,
      texts_eq_of_skeletons ps qs htail]
  | [], _ :: _, h | _ :: _, [], h => nomatch h

end

theorem clause?_eq_of_texts {ts us : List Term} (h : ts.map Term.text = us.map Term.text) :
    clause? ts = clause? us := by
  have hempty : ts.isEmpty = us.isEmpty := by
    rw [← List.isEmpty_map (f := Term.text), h, List.isEmpty_map]
  rw [clause?, clause?, hempty, h]

/-! ### Stored rows -/

/-- Values compare as the store compares them: numbers exactly, with every text after them. -/
def storedOrder : Comparison where
  atLeast _ v bound := match bound with
    | .real low => v.atLeast low
    | _ => false
  atMost _ v bound := match bound with
    | .real high => v.atMost high
    | _ => false
  equal _ v bound := v = bound

/-- Nothing lies within a bound that is no number. -/
theorem isNaN_of_ofFloat? {x : Float} (h : (Place.ofFloat? x).isSome = true) :
    x.isNaN = false := by
  rw [Bool.eq_false_iff, Ne, isNaN_iff, ← map_exact_ofFloat?, Option.map_eq_none_iff]
  exact Option.isSome_iff_ne_none.mp h

theorem isNaN_of_atLeast {v : Cell} {low : Float} (h : v.atLeast low = true) :
    low.isNaN = false := by
  refine isNaN_of_ofFloat? (Option.isSome_iff_ne_none.mpr fun hnone => ?_)
  simp [Cell.atLeast, hnone] at h

theorem isNaN_of_atMost {v : Cell} {high : Float} (h : v.atMost high = true) :
    high.isNaN = false := by
  refine isNaN_of_ofFloat? (Option.isSome_iff_ne_none.mpr fun hnone => ?_)
  simp [Cell.atMost, hnone] at h

theorem satisfied_range_iff_holds {column : Column} {min max : Option Float} {r : JoinedRow} :
    (range column min max).Satisfied storedOrder r.cell? ↔
      (range column min max).holds r = true := by
  rw [Satisfied, holds]
  cases hvalue : r.cell? column with
  | none => cases min <;> cases max <;> simp
  | some v =>
    have hlow : ∀ low, (low.isNaN = false ∧ v.atLeast low = true) ↔ v.atLeast low = true :=
      fun low => and_iff_right_of_imp isNaN_of_atLeast
    have hhigh : ∀ high, (high.isNaN = false ∧ v.atMost high = true) ↔ v.atMost high = true :=
      fun high => and_iff_right_of_imp isNaN_of_atMost
    simp only [storedOrder, Option.some.injEq, exists_eq_left']
    cases min <;> cases max <;>
      simp only [reduceCtorEq, Option.some.injEq, false_implies, implies_true, forall_eq', hlow,
        hhigh] <;>
      simp [within]

mutual

/-- A stored row satisfies a tree when the filter lets it through. -/
theorem satisfied_iff_holds {r : JoinedRow} : ∀ p : Predicate,
    p.Satisfied storedOrder r.cell? ↔ p.holds r = true
  | range .. => satisfied_range_iff_holds
  | membership column values => by
    rw [Satisfied, holds]
    cases r.cell? column <;> simp [storedOrder]
  | all children => by rw [Satisfied, holds, allSatisfied_iff_allHold children]

theorem allSatisfied_iff_allHold {r : JoinedRow} : ∀ ps : List Predicate,
    AllSatisfied storedOrder r.cell? ps ↔ allHold r ps = true
  | [] => by simp [AllSatisfied, allHold]
  | p :: rest => by
    rw [AllSatisfied, allHold, Bool.and_eq_true, satisfied_iff_holds p,
      allSatisfied_iff_allHold rest]

end

/-! ### The clause -/

/-- **The clause says what the tree asks.**  The values bound before stay in front.  A clause has as
many placeholders as there are new values, and when these are filled in, in order, it reads as a
condition that is true for the rows that satisfy the tree and for no others, however values compare;
so in particular for the stored rows that the filter lets through.  A tree without a clause binds
nothing and asks nothing.  And trees that differ in their values only have the same clause. -/
theorem renderOnto_means (p : Predicate) (bound : List BoundValue) :
    ∃ added, (p.renderOnto bound).2 = bound ++ added ∧
      (∀ clause, (p.renderOnto bound).1 = some clause →
        clause.toList.count '?' = added.length ∧
          ∃ condition, Condition.read clause added = some condition ∧
            (∀ c row, condition.truth c row = some true ↔ p.Satisfied c row) ∧
            ∀ r : JoinedRow, condition.truth storedOrder r.cell? = some true ↔ p.holds r = true) ∧
      ((p.renderOnto bound).1 = none → added = [] ∧ ∀ c row, p.Satisfied c row) ∧
      ∀ (q : Predicate) (bound' : List BoundValue), q.skeleton = p.skeleton →
        (q.renderOnto bound').1 = (p.renderOnto bound).1 := by
  have hsatisfied : ∀ c row, (Condition.every (p.terms.map Term.condition)).truth c row = some true ↔
      p.Satisfied c row := by
    intro c row
    rw [Condition.truth_every_iff, List.forall_mem_map, satisfied_iff_terms]
  refine ⟨p.terms.flatMap Term.values, by rw [renderOnto_eq], ?_, ?_, ?_⟩
  · intro clause hclause
    rw [renderOnto_eq] at hclause
    obtain ⟨hcount, hread⟩ := exists_read hclause (exists_isRead p)
    exact ⟨hcount, _, hread, hsatisfied, fun r => (hsatisfied _ _).trans (satisfied_iff_holds p)⟩
  · intro hclause
    rw [renderOnto_eq] at hclause
    have hterms : p.terms = [] := by simpa [clause?] using hclause
    refine ⟨by rw [hterms, List.flatMap_nil], fun c row => ?_⟩
    rw [satisfied_iff_terms, hterms]
    exact List.forall_mem_nil _
  · intro q bound' hskeleton
    rw [renderOnto_eq, renderOnto_eq]
    exact clause?_eq_of_texts (texts_eq_of_skeleton q p hskeleton)

/-- A tree with an empty conjunction, a range without bounds, names that look like parts of a clause
and a bound on a feature, nested. -/
def nestedTree : Predicate :=
  all [all [], range (.feature .tempo) none none,
    all [membership .artistName ["?", "x' OR '1'='1"],
      all [range (.feature .energy) (some 0.5) none]]]

/-- A value is bound already, and the clause has placeholders for the three new ones; the names in
it do not matter to its text. -/
theorem renderOnto_nestedTree :
    nestedTree.renderOnto [.text "kept"]
        = (some "(artists.name IN (?, ?)) AND (track_audio_features.\"energy\" >= ?)",
          [.text "kept"] ++ [.text "?", .text "x' OR '1'='1", .real 0.5]) ∧
      (∃ condition, Condition.read
          "(artists.name IN (?, ?)) AND (track_audio_features.\"energy\" >= ?)"
          [.text "?", .text "x' OR '1'='1", .real 0.5] = some condition ∧
        ∀ c row, condition.truth c row = some true ↔ nestedTree.Satisfied c row) ∧
      ((membership .genre ["?", "b"]).renderOnto []).1
        = ((membership .genre ["rock", "pop"]).renderOnto []).1 := by
  have hrender : nestedTree.renderOnto [.text "kept"]
      = (some "(artists.name IN (?, ?)) AND (track_audio_features.\"energy\" >= ?)",
        [.text "kept"] ++ [.text "?", .text "x' OR '1'='1", .real 0.5]) := by
    rfl
  obtain ⟨added, hadded, hsome, -, -⟩ := renderOnto_means nestedTree [.text "kept"]
  rw [hrender] at hadded hsome
  obtain rfl := List.append_cancel_left hadded
  obtain ⟨-, condition, hread, htruth, -⟩ := hsome _ rfl
  obtain ⟨-, -, -, -, hsame⟩ := renderOnto_means (membership .genre ["rock", "pop"]) []
  exact ⟨hrender, ⟨condition, hread, htruth⟩, hsame (membership .genre ["?", "b"]) [] rfl⟩

end Predicate

end SmartPlaylist
