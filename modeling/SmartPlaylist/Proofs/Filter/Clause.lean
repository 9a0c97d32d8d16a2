import SmartPlaylist.Filter.JoinedRow
import SmartPlaylist.Store.Script

/-!
# Clauses and what they mean

A clause is a text with placeholders, and beside it stand the values bound to them.  Here it is said
what such a text means, without regard to how it came about: it is cut into tokens as a script is,
each placeholder gives way to the value bound to it, and the tokens are read as a condition on a row.

Where a value is absent, a comparison is neither true nor false.  How two values compare that are
there is left open: the database may convert one of them to the kind of the column first.

## Main definitions

* `BoundValue.cell?` — the value that a placeholder stands for, none for a number that is none.
* `Condition`, `Condition.read` — what a clause says, and how it is read.
* `Truth`, `Condition.truth` — whether a row meets a condition.
* `Fills` — the tokens of a part of a clause, its placeholders filled.

## Main results

* `Condition.truth_every_iff` — a conjunction is true when all of its parts are.
* `Fills.append`, `Fills.intercalate` — the tokens of a text, from those of its parts.
* `Script.separated_items` — items with a word between them are read one by one.
* `Condition.read_of_fills` — a clause made of terms is read term by term.
-/

namespace SmartPlaylist

open Script

/-! ### Bound values -/

/-- The value that is bound; a number that is none is bound as an absent value. -/
def BoundValue.cell? : BoundValue → Option Cell
  | real x => if x.isNaN then none else some (.real x)
  | text s => some (.text s)

/-- What stands in the place of a placeholder. -/
def BoundValue.token (v : BoundValue) : Token :=
  match v.cell? with
  | some c => .value c
  | none => .word "NULL"

/-- The tokens with the values in place of the placeholders, in order; there must be as many of the
one as of the other. -/
def filled? (values : List BoundValue) : List Token → Option (List Token)
  | [] => if values.isEmpty then some [] else none
  | t :: rest =>
    if t = .mark '?' then
      match values with
      | [] => none
      | v :: values => (filled? values rest).map (v.token :: ·)
    else (filled? values rest).map (t :: ·)

theorem filled?_append {vs ws : List BoundValue} {ts us fs : List Token}
    (h : filled? vs ts = some fs) :
    filled? (vs ++ ws) (ts ++ us) = (filled? ws us).map (fs ++ ·) := by
  induction ts generalizing vs fs with
  | nil =>
    cases vs with
    | nil =>
      obtain rfl : [] = fs := Option.some.inj h
      simp
    | cons v vs => simp [filled?] at h
  | cons t ts ih =>
    rw [List.cons_append]
    by_cases ht : t = .mark '?'
    · cases vs with
      | nil => simp [filled?, ht] at h
      | cons v vs =>
        simp only [filled?, if_pos ht, Option.map_eq_some_iff] at h
        obtain ⟨gs, hrest, rfl⟩ := h
        simp only [List.cons_append, filled?, if_pos ht, ih hrest, Option.map_map]
        rfl
    · simp only [filled?, if_neg ht, Option.map_eq_some_iff] at h
      obtain ⟨gs, hrest, rfl⟩ := h
      simp only [filled?, if_neg ht, ih hrest, Option.map_map]
      rfl

/-! ### Conditions -/

/-- A condition on the columns of a row.  The values of a clause are filled in, and any of them may
be absent. -/
inductive Condition where
  | atLeast (column : Column) (bound : Option Cell)
  | atMost (column : Column) (bound : Option Cell)
  | among (column : Column) (values : List (Option Cell))
  /-- Two whole numbers are the same. -/
  | equal (m n : Int64)
  | every (parts : List Condition)

/-- The column that is called so in a table. -/
def Column.named? (table name : String) : Option Column :=
  match table with
  | "artists" => if name = "name" then some .artistName else none
  | "artist_genres" => if name = "genre" then some .genre else none
  | "track_audio_features" => (Feature.ofName? name).map .feature
  | _ => none

namespace Condition

/-- Reads a column by its table and its name. -/
def column : Reader Column := do
  let table ← name
  expect ["."]
  let name ← name
  StateT.lift (Column.named? table name)

/-- Reads a comparison of a column with values. -/
def comparison : Reader Condition := do
  let column ← column
  if ← accept ">" then
    expect ["="]
    return .atLeast column (← value)
  else if ← accept "<" then
    expect ["="]
    return .atMost column (← value)
  else
    expect ["in"]
    return .among column (← listed value)

/-- Reads a whole number. -/
def whole : Reader Int64 := fun
  | .value (.whole n) :: rest => some (n, rest)
  | _ => none

/-- Reads a comparison of two whole numbers. -/
def constant : Reader Condition := do
  let m ← whole
  expect ["="]
  return .equal m (← whole)

/-- Reads a condition in parentheses, or a comparison. -/
def term (inner : Reader Condition) : Reader Condition := do
  if ← accept "(" then
    let c ← inner
    expect [")"]
    return c
  else comparison <|> constant

/-- Reads terms with `AND` between them; parentheses nest less deep than the number says. -/
def conjunction : Nat → Reader Condition
  | 0 => failure
  | depth + 1 => do
    return .every (← separated "and" (term (conjunction depth)))

/-- Reads a clause with the values bound to its placeholders. -/
def read (clause : String) (values : List BoundValue) : Option Condition :=
  match filled? values (tokens clause) with
  | none => none
  | some ts =>
    match conjunction (ts.length + 1) ts with
    | some (c, []) => some c
    | _ => none

end Condition

/-! ### Truth -/

/-- True, false, or neither. -/
abbrev Truth := Option Bool

namespace Truth

/-- Both are true; false when one is, whatever the other. -/
def and : Truth → Truth → Truth
  | some true, q => q
  | some false, _ => some false
  | none, some false => some false
  | none, _ => none

/-- One of them is true; false only when both are. -/
def or : Truth → Truth → Truth
  | some false, q => q
  | some true, _ => some true
  | none, some true => some true
  | none, _ => none

theorem and_eq_true {p q : Truth} : p.and q = some true ↔ p = some true ∧ q = some true := by
  rcases p with _ | _ | _ <;> rcases q with _ | _ | _ <;> simp [and]

theorem or_eq_true {p q : Truth} : p.or q = some true ↔ p = some true ∨ q = some true := by
  rcases p with _ | _ | _ <;> rcases q with _ | _ | _ <;> simp [or]

/-- Compares two values; where one is absent, the answer is neither true nor false. -/
def compared (f : Cell → Cell → Bool) (x y : Option Cell) : Truth :=
  x.bind fun v => y.map fun w => f v w

theorem compared_eq_true {f : Cell → Cell → Bool} {x y : Option Cell} :
    compared f x y = some true ↔ ∃ v w, x = some v ∧ y = some w ∧ f v w = true := by
  cases x <;> cases y <;> simp [compared]

end Truth

/-- How a value of a column compares with a value that is bound, if both are there. -/
structure Comparison where
  atLeast (column : Column) (value bound : Cell) : Bool
  atMost (column : Column) (value bound : Cell) : Bool
  equal (column : Column) (value bound : Cell) : Bool

namespace Condition

variable {c : Comparison} {row : Column → Option Cell}

mutual

/-- Whether a row meets a condition. -/
def truth (c : Comparison) (row : Column → Option Cell) : Condition → Truth
  | atLeast column bound => Truth.compared (c.atLeast column) (row column) bound
  | atMost column bound => Truth.compared (c.atMost column) (row column) bound
  | among column values =>
    values.foldr (fun v rest => (Truth.compared (c.equal column) (row column) v).or rest)
      (some false)
  | equal m n => some (m = n)
  | every parts => allTruth c row parts

/-- Whether a row meets all of the conditions. -/
def allTruth (c : Comparison) (row : Column → Option Cell) : List Condition → Truth
  | [] => some true
  | p :: rest => (truth c row p).and (allTruth c row rest)

end

/-- A conjunction is true when all of its parts are. -/
theorem truth_every_iff {parts : List Condition} :
    (every parts).truth c row = some true ↔ ∀ p ∈ parts, p.truth c row = some true := by
  rw [truth]
  induction parts with
  | nil => simp [allTruth]
  | cons p rest ih => rw [allTruth, Truth.and_eq_true, ih, List.forall_mem_cons]

theorem truth_among_iff {column : Column} {values : List (Option Cell)} :
    (among column values).truth c row = some true ↔
      ∃ v w, row column = some v ∧ some w ∈ values ∧ c.equal column v w = true := by
  rw [truth]
  induction values with
  | nil => simp
  | cons x rest ih =>
    rw [List.foldr_cons, Truth.or_eq_true, ih, Truth.compared_eq_true]
    constructor
    · rintro (⟨v, w, hv, hw, heq⟩ | ⟨v, w, hv, hw, heq⟩)
      · exact ⟨v, w, hv, hw ▸ List.mem_cons_self .., heq⟩
      · exact ⟨v, w, hv, List.mem_cons_of_mem _ hw, heq⟩
    · rintro ⟨v, w, hv, hw, heq⟩
      rcases List.mem_cons.mp hw with hw | hw
      · exact Or.inl ⟨v, w, hv, hw.symm, heq⟩
      · exact Or.inr ⟨v, w, hv, hw, heq⟩

end Condition

/-! ### The tokens of a clause -/

/-- A part of a clause is cut into these tokens, whatever follows it, once its placeholders have
given way to the values; it has as many placeholders as there are values. -/
structure Fills (text : List Char) (values : List BoundValue) (filled : List Token) : Prop where
  count : text.count '?' = values.length
  cut : ∃ ts, filled? values ts = some filled ∧
    ∀ n rest, text.length + rest.length ≤ n →
      ∃ m, rest.length ≤ m ∧ tokensWithin n (text ++ rest) = ts ++ tokensWithin m rest

namespace Fills

variable {text text' sep : List Char} {values values' : List BoundValue} {filled filled' : List Token}

/-- A part without placeholders that is cut up in a number of steps. -/
theorem of_steps (k : Nat) (hk : k ≤ text.length) (hcount : text.count '?' = 0)
    (hfilled : filled? [] filled = some filled)
    (h : ∀ n rest, tokensWithin (n + k) (text ++ rest) = filled ++ tokensWithin n rest) :
    Fills text [] filled where
  count := hcount
  cut := by
    refine ⟨filled, hfilled, fun n rest hn => ⟨n - k, by omega, ?_⟩⟩
    obtain ⟨m, rfl⟩ : ∃ m, n = m + k := ⟨n - k, by omega⟩
    rw [h, Nat.add_sub_cancel]

theorem nil : Fills [] [] [] := of_steps 0 (Nat.le_refl _) rfl rfl fun _ _ => rfl

/-- A placeholder. -/
theorem placeholder (v : BoundValue) : Fills ['?'] [v] [v.token] where
  count := rfl
  cut := by
    refine ⟨[.mark '?'], rfl, fun n rest hn => ?_⟩
    obtain ⟨m, rfl⟩ : ∃ m, n = m + 1 := ⟨n - 1, by simp at hn; omega⟩
    refine ⟨m, by simp at hn; omega, rfl⟩

theorem append (h : Fills text values filled) (h' : Fills text' values' filled') :
    Fills (text ++ text') (values ++ values') (filled ++ filled') where
  count := by rw [List.count_append, h.count, h'.count, List.length_append]
  cut := by
    obtain ⟨ts, hts, hcut⟩ := h.cut
    obtain ⟨us, hus, hcut'⟩ := h'.cut
    refine ⟨ts ++ us, by rw [filled?_append hts, hus]; rfl, fun n rest hn => ?_⟩
    rw [List.length_append] at hn
    obtain ⟨m, hm, hfirst⟩ := hcut n (text' ++ rest) (by rw [List.length_append]; omega)
    rw [List.length_append] at hm
    obtain ⟨m', hm', hrest⟩ := hcut' m rest hm
    exact ⟨m', hm', by rw [List.append_assoc, hfirst, hrest, List.append_assoc]⟩

/-- Parts with the same text between them. -/
theorem intercalate {α : Type} {text : α → List Char} {values : α → List BoundValue}
    {filled : α → List Token} {between : List Token} (hsep : Fills sep [] between) (xs : List α)
    (h : ∀ x ∈ xs, Fills (text x) (values x) (filled x)) :
    Fills (sep.intercalate (xs.map text)) (xs.flatMap values)
      (between.intercalate (xs.map filled)) := by
  induction xs with
  | nil => exact nil
  | cons x xs ih =>
    rw [List.forall_mem_cons] at h
    cases xs with
    | nil => simpa using h.1
    | cons y ys =>
      rw [List.map_cons, List.map_cons, List.intercalate_cons_cons, List.flatMap_cons,
        List.map_cons, List.map_cons, List.intercalate_cons_cons]
      have hfirst := h.1.append hsep
      rw [List.append_nil] at hfirst
      exact hfirst.append (ih h.2)

/-- The tokens of a whole text. -/
theorem filled?_tokens {s : String} (h : Fills s.toList values filled) :
    filled? values (tokens s) = some filled := by
  obtain ⟨ts, hts, hcut⟩ := h.cut
  obtain ⟨m, -, hall⟩ := hcut s.length [] (by rw [String.length_toList]; exact Nat.le_refl _)
  have hend : tokensWithin m [] = [] := by cases m <;> rfl
  rw [List.append_nil, hend, List.append_nil] at hall
  rw [tokens, hall, hts]

end Fills

/-! ### Reading the tokens -/

namespace Script

variable {ι α β : Type} {r : Reader α} {f : α → Reader β} {ts us : List Token}

theorem run_bind_of_some {x : α} (h : r ts = some (x, us)) : (r >>= f) ts = f x us := by
  show (r ts >>= fun p => f p.1 p.2) = _
  rw [h]
  rfl

/-- Nothing comes next that could be taken for a separator. -/
def Ends (separator : String) (rest : List Token) : Prop :=
  ∀ t ∈ rest.head?, t.is separator = false

theorem accept_of_ends {separator : String} (h : Ends separator ts) :
    accept separator ts = some (false, ts) := by
  cases ts with
  | nil => rfl
  | cons t ts => rw [accept, if_neg (by rw [h t rfl]; exact Bool.false_ne_true)]

/-- The items read by the loop, which may go on for as many separators as `n` says. -/
theorem separated_go {item : Reader α} {separator : String} {between : Token}
    (hbetween : between.is separator = true) {rest : List Token} (hrest : Ends separator rest)
    {shown : ι → List Token} {result : ι → α} (xs : List ι) (hne : xs ≠ [])
    (h : ∀ x ∈ xs, ∀ rest, item (shown x ++ rest) = some (result x, rest)) {n : Nat}
    (hn : xs.length ≤ n + 1) :
    separated.go separator item n ([between].intercalate (xs.map shown) ++ rest)
      = some (xs.map result, rest) := by
  induction xs generalizing n with
  | nil => exact absurd rfl hne
  | cons x xs ih =>
    rw [List.forall_mem_cons] at h
    cases xs with
    | nil =>
      have hitem := h.1 rest
      rw [List.map_singleton, List.intercalate_singleton]
      cases n with
      | zero =>
        rw [separated.go, run_bind_of_some hitem]
        rfl
      | succ n =>
        rw [separated.go, run_bind_of_some hitem, run_bind_of_some (accept_of_ends hrest)]
        rfl
    | cons y ys =>
      obtain ⟨n, rfl⟩ : ∃ m, n = m + 1 := ⟨n - 1, by simp at hn; omega⟩
      have hlater := ih (by simp) h.2 (n := n) (by simp at hn ⊢; omega)
      have hitem := h.1 (between :: ([between].intercalate ((y :: ys).map shown) ++ rest))
      have haccept : accept separator
          (between :: ([between].intercalate ((y :: ys).map shown) ++ rest))
            = some (true, [between].intercalate ((y :: ys).map shown) ++ rest) := by
        rw [accept, if_pos hbetween]
      rw [List.map_cons, List.map_cons, List.intercalate_cons_cons, List.append_assoc,
        List.append_assoc, List.singleton_append, ← List.map_cons, separated.go,
        run_bind_of_some hitem, run_bind_of_some haccept]
      simp only [if_true]
      rw [run_bind_of_some hlater]
      rfl

theorem length_le_intercalate (between : Token) (parts : List (List Token)) :
    parts.length ≤ ([between].intercalate parts).length + 1 := by
  induction parts with
  | nil => simp
  | cons part parts ih =>
    cases parts with
    | nil => simp
    | cons next parts =>
      rw [List.intercalate_cons_cons]
      simp only [List.length_cons, List.length_append, List.length_nil] at ih ⊢
      omega

/-- **Items with a separator between them** are read one by one, each with what is its own. -/
theorem separated_items {item : Reader α} {separator : String} {between : Token}
    (hbetween : between.is separator = true) {rest : List Token} (hrest : Ends separator rest)
    {shown : ι → List Token} {result : ι → α} (xs : List ι) (hne : xs ≠ [])
    (h : ∀ x ∈ xs, ∀ rest, item (shown x ++ rest) = some (result x, rest)) :
    separated separator item ([between].intercalate (xs.map shown) ++ rest)
      = some (xs.map result, rest) := by
  refine separated_go hbetween hrest xs hne h ?_
  have hlength := length_le_intercalate between (xs.map shown)
  rw [List.length_map] at hlength
  rw [List.length_append]
  omega

theorem expect_of_accept {s : String} (h : accept s ts = some (true, us)) :
    expect [s] ts = some ((), us) := by
  have hfirst : (do guard (← accept s) : Reader Unit) ts = some ((), us) := run_bind_of_some h
  exact run_bind_of_some hfirst

theorem accept_mark {s : String} {c : Char} (h : String.singleton c = s) (rest : List Token) :
    accept s (.mark c :: rest) = some (true, rest) := by
  rw [accept, if_pos (by simpa [Token.is] using h)]

theorem accept_word {s w : String} (h : w.toLower = s) (rest : List Token) :
    accept s (.word w :: rest) = some (true, rest) := by
  rw [accept, if_pos (by simpa [Token.is] using h)]

end Script

namespace Condition

/-- The tokens with which a column is named. -/
def columnTokens : Column → List Token
  | .artistName => [.word "artists", .mark '.', .word "name"]
  | .genre => [.word "artist_genres", .mark '.', .word "genre"]
  | .feature f => [.word "track_audio_features", .mark '.', .name f.name]

theorem column_columnTokens (c : Column) (rest : List Token) :
    column (columnTokens c ++ rest) = some (c, rest) := by
  cases c with
  | artistName => rfl
  | genre => rfl
  | feature f => cases f <;> rfl

/-- The value that was bound is read. -/
theorem value_token (v : BoundValue) (rest : List Token) :
    value (v.token :: rest) = some (v.cell?, rest) := by
  have hnull : "NULL".toLower = "null" := by decide +kernel
  unfold BoundValue.token
  cases v.cell? with
  | some c => rfl
  | none =>
    rw [value, hnull]
    rfl

theorem comparison_atLeast (c : Column) (v : BoundValue) (rest : List Token) :
    comparison (columnTokens c ++ .mark '>' :: .mark '=' :: v.token :: rest)
      = some (.atLeast c v.cell?, rest) := by
  rw [comparison, run_bind_of_some (column_columnTokens c _),
    run_bind_of_some (accept_mark (by decide) _)]
  simp only [if_true]
  rw [run_bind_of_some (expect_of_accept (accept_mark (by decide) _)),
    run_bind_of_some (value_token v rest)]
  rfl

theorem comparison_atMost (c : Column) (v : BoundValue) (rest : List Token) :
    comparison (columnTokens c ++ .mark '<' :: .mark '=' :: v.token :: rest)
      = some (.atMost c v.cell?, rest) := by
  have hother : Ends ">" (.mark '<' :: .mark '=' :: v.token :: rest) := by simp [Ends, Token.is]
  rw [comparison, run_bind_of_some (column_columnTokens c _),
    run_bind_of_some (accept_of_ends hother)]
  simp only [Bool.false_eq_true, if_false]
  rw [run_bind_of_some (accept_mark (by decide) _)]
  simp only [if_true]
  rw [run_bind_of_some (expect_of_accept (accept_mark (by decide) _)),
    run_bind_of_some (value_token v rest)]
  rfl

theorem comparison_among (c : Column) (vs : List BoundValue) (hvs : vs ≠ []) (rest : List Token) :
    comparison (columnTokens c ++ .word "IN" :: .mark '(' ::
        ([.mark ','].intercalate (vs.map fun v => [v.token]) ++ .mark ')' :: rest))
      = some (.among c (vs.map BoundValue.cell?), rest) := by
  have hword : "IN".toLower = "in" := by decide +kernel
  have hother : ∀ s rest, s ≠ "in" → Ends s (.word "IN" :: rest) := by
    intro s rest hs
    simpa [Ends, Token.is, hword] using hs.symm
  have hend : Ends "," (.mark ')' :: rest) := by simp [Ends, Token.is]
  have hlisted : listed value (.mark '(' ::
      ([.mark ','].intercalate (vs.map fun v => [v.token]) ++ .mark ')' :: rest))
        = some (vs.map BoundValue.cell?, rest) := by
    rw [listed, run_bind_of_some (expect_of_accept (accept_mark (by decide) _)),
      run_bind_of_some (separated_items (by decide) hend vs hvs fun v _ => value_token v),
      run_bind_of_some (expect_of_accept (accept_mark (by decide) _))]
    rfl
  rw [comparison, run_bind_of_some (column_columnTokens c _),
    run_bind_of_some (accept_of_ends (hother ">" _ (by decide)))]
  simp only [Bool.false_eq_true, if_false]
  rw [run_bind_of_some (accept_of_ends (hother "<" _ (by decide)))]
  simp only [Bool.false_eq_true, if_false]
  rw [run_bind_of_some (expect_of_accept (accept_word hword _)), run_bind_of_some hlisted]
  rfl

/-- A comparison is a term. -/
theorem term_comparison (inner : Reader Condition) {c : Column} {ts rest : List Token}
    {p : Condition} (h : comparison (columnTokens c ++ ts) = some (p, rest)) :
    term inner (columnTokens c ++ ts) = some (p, rest) := by
  have hends : Ends "(" (columnTokens c ++ ts) := by
    have hwords : "artists".toLower ≠ "(" ∧ "artist_genres".toLower ≠ "(" ∧
      "track_audio_features".toLower ≠ "(" := by decide +kernel
    cases c <;> simp [Ends, columnTokens, Token.is, hwords]
  rw [term, run_bind_of_some (accept_of_ends hends)]
  simp only [Bool.false_eq_true, if_false]
  show (comparison _ <|> constant _) = _
  rw [h]
  rfl

/-- Terms with `AND` between them are read as a conjunction. -/
theorem conjunction_terms {ι : Type} {shown : ι → List Token} {result : ι → Condition}
    {depth : Nat} {rest : List Token} (hrest : Ends "and" rest) (xs : List ι) (hne : xs ≠ [])
    (h : ∀ x ∈ xs, ∀ rest, term (conjunction depth) (shown x ++ rest) = some (result x, rest)) :
    conjunction (depth + 1) ([.word "AND"].intercalate (xs.map shown) ++ rest)
      = some (.every (xs.map result), rest) := by
  have hword : (Token.word "AND").is "and" = true := by decide +kernel
  rw [conjunction, run_bind_of_some (separated_items hword hrest xs hne h)]
  rfl

/-- Terms in parentheses, with `AND` between them, are a term. -/
theorem term_terms {ι : Type} {shown : ι → List Token} {result : ι → Condition} {depth : Nat}
    (xs : List ι) (hne : xs ≠ [])
    (h : ∀ x ∈ xs, ∀ rest, term (conjunction depth) (shown x ++ rest) = some (result x, rest))
    (rest : List Token) :
    term (conjunction (depth + 1))
        (.mark '(' :: ([.word "AND"].intercalate (xs.map shown) ++ [.mark ')']) ++ rest)
      = some (.every (xs.map result), rest) := by
  have hend : Ends "and" (.mark ')' :: rest) := by simp [Ends, Token.is]
  rw [List.cons_append, List.append_assoc, List.singleton_append, term,
    run_bind_of_some (accept_mark (by decide) _)]
  simp only [if_true]
  rw [run_bind_of_some (conjunction_terms hend xs hne h),
    run_bind_of_some (expect_of_accept (accept_mark (by decide) _))]
  rfl

/-- A single term in parentheses is a term. -/
theorem term_term (ts : List Token) {p : Condition} {depth : Nat}
    (h : ∀ rest, term (conjunction depth) (ts ++ rest) = some (p, rest)) (rest : List Token) :
    term (conjunction (depth + 1)) (.mark '(' :: (ts ++ [.mark ')']) ++ rest)
      = some (.every [p], rest) := by
  have hterms : term (conjunction (depth + 1))
      (.mark '(' :: ([.word "AND"].intercalate ([()].map fun _ => ts) ++ [.mark ')']) ++ rest)
        = some (.every ([()].map fun _ => p), rest) :=
    term_terms [()] (by simp) (fun _ _ => h) rest
  rwa [List.map_singleton, List.map_singleton, List.intercalate_singleton] at hterms

/-- **A clause that is cut into terms is read term by term.** -/
theorem read_of_fills {ι : Type} {clause : String} {values : List BoundValue}
    {shown : ι → List Token} {result : ι → Condition} (xs : List ι) (hne : xs ≠ [])
    (hclause : Fills clause.toList values ([.word "AND"].intercalate (xs.map shown)))
    (h : ∀ x ∈ xs, shown x ≠ [] ∧ ∀ depth rest,
      term (conjunction (depth + 1)) (shown x ++ rest) = some (result x, rest)) :
    read clause values = some (.every (xs.map result)) := by
  generalize hts : [Token.word "AND"].intercalate (xs.map shown) = ts at hclause
  have hlength : ts ≠ [] := by
    rw [← hts]
    cases xs with
    | nil => exact absurd rfl hne
    | cons x xs =>
      cases xs with
      | nil => simpa using (h x (List.mem_cons_self ..)).1
      | cons y ys => simp [List.intercalate_cons_cons]
  -- parentheses may nest as deep as there are tokens, and one level is enough
  obtain ⟨depth, hdepth⟩ := Nat.exists_eq_succ_of_ne_zero (mt List.length_eq_zero_iff.mp hlength)
  have hread : conjunction (depth + 2) ([.word "AND"].intercalate (xs.map shown) ++ [])
      = some (.every (xs.map result), []) :=
    conjunction_terms (by simp [Ends]) xs hne fun x hx => (h x hx).2 depth
  rw [List.append_nil, hts] at hread
  simp only [read, hclause.filled?_tokens, hdepth, Nat.succ_eq_add_one, hread]

end Condition

end SmartPlaylist
