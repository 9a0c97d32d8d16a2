import SmartPlaylist.Json.Kind
import SmartPlaylist.Json.Writer
import SmartPlaylist.Proofs.Decimal.Digits
import SmartPlaylist.Proofs.Text.Utf8

/-!
# JSON text and back

A value written without blanks is read back as it was, as long as its numbers are whole and it nests
no deeper than readers go.  Each part of the text has a law of its reader: on the characters of the
part, with more behind them, it gives the part and leaves the rest.  Texts and brackets say where
they end.  A number does not, and so the law asks of what follows that it could not go on with the
number, which is true of all that may follow a value.

## Main definitions

* `Reader.Ends` — what may follow a value.
* `Reader.Takes` — a reader takes a text off the front of what is read.
* `Storable` — whole numbers and bounded nesting.

## Main results

* `Reader.text_text`, `Reader.number_whole` — texts with all their escapes, and whole numbers.
* `Reader.takes_value` — **a value is read back as it was written.**
* `Reader.takes_record` — so is a record whose keys are all declared, by a reader that passes over
  other keys.
* `Kind.ofBytes?_any` — a value is read back from its bytes.
-/

namespace SmartPlaylist.Json

variable {rest : Source}

namespace Reader

/-! ### Texts -/

/-- The hexadecimal digits of a control character give its number. -/
theorem hexUnit?_hexDigit : ∀ n < 0x20,
    hexUnit? '0' '0' (Writer.hexDigit (n / 16)) (Writer.hexDigit (n % 16)) = some n := by decide

/-- A one-letter escape stands for its character. -/
theorem textBody_letter {c e : Char} (hc : c ≠ 'u') (h : escaped? c = some e) (rest : Source) :
    textBody (some '\\' :: some c :: rest)
      = (textBody rest).map fun (cs, rest) => (e :: cs, rest) := by
  simp [textBody, hc, h]

/-- A character is read back as it was written. -/
theorem textBody_escape (c : Char) (rest : Source) :
    textBody ((Writer.escape c).map some ++ rest)
      = (textBody rest).map fun (cs, rest) => (c :: cs, rest) := by
  by_cases hletter : c ∈ ['"', '\\', '\x08', '\x0c', '\n', '\r', '\t']
  · -- seven characters have an escape of one letter
    simp only [List.mem_cons, List.not_mem_nil, or_false] at hletter
    rcases hletter with rfl | rfl | rfl | rfl | rfl | rfl | rfl <;>
      exact textBody_letter (by decide) rfl rest
  · simp only [List.mem_cons, List.not_mem_nil, or_false, not_or] at hletter
    obtain ⟨hquote, hbackslash, hback, hfeed, hline, hreturn, htab⟩ := hletter
    rw [Writer.escape, if_neg hquote, if_neg hbackslash, if_neg hback, if_neg hfeed, if_neg hline,
      if_neg hreturn, if_neg htab]
    split
    next hcontrol =>
      -- a control character is no surrogate, so its four digits stand alone
      have hunit := hexUnit?_hexDigit c.toNat hcontrol
      have hchar : Char.ofNat c.toNat = c := Char.ofNat_toNat c
      simp only [List.map_cons, List.map_nil, List.cons_append, List.nil_append, textBody, hunit]
      rw [if_neg (by omega), if_neg (by omega), hchar]
    next hcontrol => simp [textBody, hbackslash, hcontrol]

/-- The characters of a text are read up to its closing quote. -/
theorem textBody_escapes (cs : List Char) (rest : Source) :
    textBody ((cs.flatMap Writer.escape).map some ++ some '"' :: rest) = some (cs, rest) := by
  induction cs with
  | nil => simp [textBody]
  | cons c cs ih =>
    rw [List.flatMap_cons, List.map_append, List.append_assoc, textBody_escape, ih]
    rfl

/-- **A text is read back as it was written.** -/
theorem text_text (s : String) (rest : Source) :
    text ((Writer.text s).map some ++ rest) = some (s, rest) := by
  have hquoted : (Writer.text s).map some ++ rest
      = some '"' :: ((s.toList.flatMap Writer.escape).map some ++ some '"' :: rest) := by
    simp [Writer.text]
  rw [hquoted, text, textBody_escapes]
  exact congrArg (fun s => some (s, rest)) String.ofList_toList

/-! ### Numbers -/

/-- What may follow a value: nothing, a comma or a closing bracket. -/
def Ends : Source → Prop
  | [] => True
  | some c :: _ => c = ',' ∨ c = ']' ∨ c = '\x7d'
  | none :: _ => False

theorem ends_comma (rest : Source) : Ends (some ',' :: rest) := Or.inl rfl

theorem ends_bracket (rest : Source) : Ends (some ']' :: rest) := Or.inr (Or.inl rfl)

theorem ends_brace (rest : Source) : Ends (some '\x7d' :: rest) := Or.inr (Or.inr rfl)

/-- The digits of a number end where the number does. -/
theorem digits_append {cs : List Char} (hcs : Decimal.AllDigits cs) (hrest : Ends rest) :
    digits (cs.map some ++ rest) = (cs, rest) := by
  induction cs with
  | nil =>
    rw [List.map_nil, List.nil_append]
    match rest, hrest with
    | [], _ => rfl
    | some c :: rest, hc =>
      have hdigit : c.isDigit = false := by rcases hc with rfl | rfl | rfl <;> decide
      rw [digits, hdigit, if_neg (by decide)]
  | cons c cs ih =>
    have hc : c.isDigit = true := hcs c (List.mem_cons_self ..)
    have hrec := ih fun d hd => hcs d (List.mem_cons_of_mem _ hd)
    rw [List.map_cons, List.cons_append, digits, hc, if_pos rfl, hrec]

/-- The number of digits behind those of another number. -/
def more (n : Nat) (cs : List Char) : Nat := cs.foldl (fun n c => n * 10 + digitValue c) n

theorem le_more (n : Nat) (cs : List Char) : n ≤ more n cs := by
  induction cs generalizing n with
  | nil => exact Nat.le_refl _
  | cons c cs ih =>
    have hstep : n ≤ n * 10 + digitValue c := by omega
    exact Nat.le_trans hstep (ih _)

/-- A number that fits is taken whole. -/
theorem accumulate_eq {n : Nat} {cs : List Char} (h : more n cs < 0x1_0000_0000_0000_0000) :
    accumulate n cs = (more n cs, 0) := by
  induction cs generalizing n with
  | nil => rfl
  | cons c cs ih =>
    have hstep : n * 10 + digitValue c ≤ more (n * 10 + digitValue c) cs := le_more _ _
    have hnext : n * 10 + digitValue c < 0x1_0000_0000_0000_0000 := Nat.lt_of_le_of_lt hstep h
    rw [accumulate]
    exact (if_pos hnext).trans (ih h)

theorem accumulate_toDigits {n : Nat} (h : n < 0x1_0000_0000_0000_0000) :
    accumulate 0 (Nat.toDigits 10 n) = (n, 0) := by
  have hmore : more 0 (Nat.toDigits 10 n) = n := Decimal.ofDigits_toDigits n
  rw [accumulate_eq (hmore.symm ▸ h), hmore]

/-- No number is written with a zero in front. -/
theorem length_toDigits_of_zero {n : Nat} (h : (Nat.toDigits 10 n).head? = some '0') :
    (Nat.toDigits 10 n).length = 1 := by
  cases hdigits : Nat.toDigits 10 n with
  | nil => exact absurd hdigits Nat.toDigits_ne_nil
  | cons c cs =>
    rw [hdigits] at h
    obtain rfl : c = '0' := Option.some.inj h
    rcases Nat.eq_zero_or_pos cs.length with hzero | hpos
    · rw [List.length_cons, hzero]
    · -- without the zero there would be as few digits as the rest has
      have hall : Decimal.AllDigits cs := fun d hd =>
        Decimal.allDigits_toDigits n d (hdigits ▸ List.mem_cons_of_mem _ hd)
      have hvalue : Decimal.ofDigits cs = n := by
        have hofDigits := Decimal.ofDigits_toDigits n
        rw [hdigits, Decimal.ofDigits_cons] at hofDigits
        simpa using hofDigits
      have hlength := (Nat.length_toDigits_le_iff (by decide) hpos).mpr
        (hvalue ▸ Decimal.ofDigits_lt hall)
      rw [hdigits, List.length_cons] at hlength
      omega

theorem Whole.ofInt?_val (w : Whole) : Whole.ofInt? w.val = some w := by
  rw [Whole.ofInt?, dif_pos ⟨w.lower, w.upper⟩]

/-- The digits of a number that fits are read as a whole number. -/
theorem unsignedNumber_toDigits {n : Nat} {negative : Bool} {w : Whole}
    (hw : w.val = if negative then -(n : Int) else n) (hzero : negative = true → n ≠ 0)
    (hrest : Ends rest) :
    unsignedNumber negative ((Nat.toDigits 10 n).map some ++ rest) = some (.whole w, rest) := by
  have hlower := w.lower
  have hupper := w.upper
  have hfits : n < 0x1_0000_0000_0000_0000 := by
    cases negative <;> simp only [Bool.false_eq_true, if_false, if_true] at hw <;> omega
  have hfirst : ((Nat.toDigits 10 n).isEmpty || (decide ((Nat.toDigits 10 n).head? = some '0') &&
      (Nat.toDigits 10 n).length != 1)) = false := by
    rw [Bool.or_eq_false_iff, List.isEmpty_eq_false_iff]
    refine ⟨Nat.toDigits_ne_nil, ?_⟩
    by_cases hhead : (Nat.toDigits 10 n).head? = some '0'
    · simp [length_toDigits_of_zero hhead]
    · simp [hhead]
  have hsign : (negative && (n == 0 || decide (0x8000_0000_0000_0000 < n))) = false := by
    cases negative with
    | false => rfl
    | true =>
      have hne := hzero rfl
      simp only [if_true] at hw
      simp only [Bool.true_and, Bool.or_eq_false_iff, beq_eq_false_iff_ne, decide_eq_false_iff_not]
      omega
  have hval : Whole.ofInt? (if negative then -(n : Int) else n) = some w := by
    rw [← hw, Whole.ofInt?_val]
  -- nothing that ends a value could begin a fraction or an exponent
  simp only [unsignedNumber, digits_append (Decimal.allDigits_toDigits n) hrest, hfirst,
    accumulate_toDigits hfits]
  match rest, hrest with
  | [], _ => simp [hsign, hval]
  | some c :: rest, hc => rcases hc with rfl | rfl | rfl <;> simp [hsign, hval]

theorem exists_toDigits_eq_cons (n : Nat) :
    ∃ c cs, Nat.toDigits 10 n = c :: cs ∧ c.isDigit = true := by
  cases hdigits : Nat.toDigits 10 n with
  | nil => exact absurd hdigits Nat.toDigits_ne_nil
  | cons c cs =>
    exact ⟨c, cs, rfl, Decimal.allDigits_toDigits n c (hdigits ▸ List.mem_cons_self ..)⟩

/-- What begins with a digit has no sign. -/
theorem number_toDigits (n : Nat) (rest : Source) :
    number ((Nat.toDigits 10 n).map some ++ rest)
      = unsignedNumber false ((Nat.toDigits 10 n).map some ++ rest) := by
  obtain ⟨c, cs, hdigits, hc⟩ := exists_toDigits_eq_cons n
  have hminus : c ≠ '-' := by
    rintro rfl
    exact absurd hc (by decide)
  rw [hdigits, List.map_cons, List.cons_append, number]
  exact fun _ heq => absurd (Option.some.inj (List.cons.inj heq).1) hminus

/-- A whole number is its digits, after a sign if it is negative. -/
theorem toList_number_whole (w : Whole) :
    (Writer.number (.whole w)).toList = (if 0 ≤ w.val then [] else ['-']) ++
      Nat.toDigits 10 w.val.natAbs := by
  rw [Writer.number, Int.toString_eq_repr, Int.repr_eq_if]
  split
  next hnonneg =>
    have habs : w.val.toNat = w.val.natAbs := by omega
    rw [Nat.toList_repr, List.nil_append, habs]
  next hneg =>
    have habs : (-w.val).toNat = w.val.natAbs := by omega
    rw [String.toList_append, Nat.toList_repr, habs]
    rfl

/-- **A whole number is read back as it was written.** -/
theorem number_whole (w : Whole) (hrest : Ends rest) :
    number ((Writer.number (.whole w)).toList.map some ++ rest) = some (.whole w, rest) := by
  rw [toList_number_whole]
  split
  next hnonneg =>
    rw [List.nil_append, number_toDigits]
    exact unsignedNumber_toDigits (Int.natAbs_of_nonneg hnonneg).symm (fun h => nomatch h) hrest
  next hneg =>
    have hval : w.val = -(w.val.natAbs : Int) := by omega
    exact unsignedNumber_toDigits hval (fun _ => by omega) hrest

/-! ### Items and fields -/

/-- A text that begins with neither a blank nor a closing bracket. -/
def Begins (cs : List Char) : Prop :=
  ∃ c tail, cs = c :: tail ∧ c ∉ [' ', '\n', '\t', '\r', ']', '\x7d']

/-- A reader takes a text off the front of what is read. -/
def Takes {α : Type} (read : Reader α) (cs : List Char) (x : α) : Prop :=
  ∀ rest, Ends rest → read (cs.map some ++ rest) = some (x, rest)

theorem skipBlanks_of_begins {cs : List Char} (h : Begins cs) (rest : Source) :
    skipBlanks (cs.map some ++ rest) = cs.map some ++ rest := by
  obtain ⟨c, tail, rfl, hc⟩ := h
  simp only [List.mem_cons, List.not_mem_nil, or_false, not_or] at hc
  obtain ⟨hspace, hline, htab, hreturn, -, -⟩ := hc
  simp [skipBlanks, hspace, hline, htab, hreturn]

theorem Begins.append {cs : List Char} (h : Begins cs) (ds : List Char) : Begins (cs ++ ds) := by
  obtain ⟨c, tail, rfl, hc⟩ := h
  exact ⟨c, tail ++ ds, rfl, hc⟩

theorem begins_text (s : String) : Begins (Writer.text s) :=
  ⟨'"', s.toList.flatMap Writer.escape ++ ['"'], rfl, by decide⟩

theorem begins_renderItems {vs : List Json} (hne : vs ≠ [])
    (h : ∀ v ∈ vs, Begins (render v)) : Begins (renderItems vs) := by
  match vs, hne with
  | [v], _ => exact h v (List.mem_singleton_self v)
  | v :: next :: vs, _ => exact (h v (List.mem_cons_self ..)).append _

/-- There are no more items than characters. -/
theorem length_le_renderItems {vs : List Json} (h : ∀ v ∈ vs, Begins (render v)) :
    vs.length ≤ (renderItems vs).length := by
  induction vs with
  | nil => exact Nat.zero_le _
  | cons v vs ih =>
    rw [List.forall_mem_cons] at h
    have hrest := ih h.2
    obtain ⟨c, tail, hv, -⟩ := h.1
    cases vs with
    | nil => simp [renderItems, hv]
    | cons next vs =>
      simp only [renderItems, hv, List.length_append, List.length_cons] at hrest ⊢
      omega

/-- Items with commas between them are read one after another. -/
theorem items_renderItems {read : Reader Json} {vs : List Json} (hne : vs ≠ [])
    (hbegins : ∀ v ∈ vs, Begins (render v)) (htakes : ∀ v ∈ vs, Takes read (render v) v)
    {fuel : Nat} (hfuel : vs.length ≤ fuel) (place : Nat) (rest : Source) :
    items (fun _ => read) place fuel ((renderItems vs).map some ++ some ']' :: rest)
      = some (vs, rest) := by
  induction vs generalizing fuel place with
  | nil => exact absurd rfl hne
  | cons v vs ih =>
    obtain ⟨fuel, rfl⟩ :=
      Nat.exists_eq_succ_of_ne_zero (Nat.ne_of_gt (Nat.lt_of_lt_of_le (Nat.succ_pos _) hfuel))
    rw [List.forall_mem_cons] at hbegins htakes
    -- behind the last item comes the bracket, and behind any other a comma
    cases vs with
    | nil =>
      have hv := htakes.1 _ (ends_bracket rest)
      rw [items, renderItems, skipBlanks_of_begins hbegins.1, hv]
      rfl
    | cons next vs =>
      have hv := htakes.1 _ (ends_comma ((renderItems (next :: vs)).map some ++ some ']' :: rest))
      have hrest := ih (List.cons_ne_nil _ _) hbegins.2 htakes.2 (Nat.le_of_succ_le_succ hfuel)
        (place + 1)
      have hsplit : (renderItems (v :: next :: vs)).map some ++ some ']' :: rest
          = (render v).map some ++ some ',' ::
            ((renderItems (next :: vs)).map some ++ some ']' :: rest) := by
        simp [renderItems]
      rw [hsplit, items, skipBlanks_of_begins hbegins.1, hv]
      show (items (fun _ => read) (place + 1) fuel
        ((renderItems (next :: vs)).map some ++ some ']' :: rest) >>= _) = _
      rw [hrest]
      rfl

/-- An array is read back when its items are. -/
theorem arrayTail_renderItems {read : Reader Json} {vs : List Json}
    (hbegins : ∀ v ∈ vs, Begins (render v)) (htakes : ∀ v ∈ vs, Takes read (render v) v)
    (rest : Source) :
    arrayTail (fun _ => read) ((renderItems vs).map some ++ some ']' :: rest)
      = some (vs, rest) := by
  by_cases hne : vs = []
  · subst hne
    rfl
  · have hbegin := begins_renderItems hne hbegins
    have hfuel : vs.length ≤ ((renderItems vs).map some ++ some ']' :: rest).length + 1 := by
      have hlength := length_le_renderItems hbegins
      simp only [List.length_append, List.length_map, List.length_cons]
      omega
    rw [arrayTail, skipBlanks_of_begins hbegin]
    obtain ⟨c, tail, hcons, hc⟩ := hbegin
    have hclose : c ≠ ']' := by
      rintro rfl
      exact hc (by decide)
    have hitems := items_renderItems hne hbegins htakes hfuel 0 rest
    rw [hcons] at hitems ⊢
    split
    next heq =>
      exact absurd (Option.some.inj (List.cons.inj heq).1) hclose
    next => exact hitems

/-- A field's text, its key read first. -/
theorem begins_renderFields {fs : List (String × Json)} (hne : fs ≠ []) :
    Begins (renderFields fs) := by
  match fs, hne with
  | [(key, v)], _ => exact (begins_text key).append _
  | (key, v) :: next :: fs, _ =>
    rw [renderFields]
    exact ((begins_text key).append _).append _

/-- There are no more fields than characters. -/
theorem length_le_renderFields (fs : List (String × Json)) :
    fs.length ≤ (renderFields fs).length := by
  induction fs with
  | nil => exact Nat.zero_le _
  | cons f fs ih =>
    obtain ⟨key, v⟩ := f
    cases fs with
    | nil =>
      simp only [renderFields, List.length_append, List.length_cons, List.length_nil]
      omega
    | cons next fs =>
      simp only [renderFields, List.length_append, List.length_cons] at ih ⊢
      omega

/-- One field is read, and what follows it decides how it goes on. -/
theorem fields_step {α : Type} {item : String → Reader α} {key : String} {v : Json} {x : α}
    (hbegins : Begins (render v)) (htakes : Takes (item key) (render v) x) (fuel : Nat)
    {after : Source} (hafter : Ends after) :
    fields text item (fuel + 1)
        ((Writer.text key).map some ++ some ':' :: ((render v).map some ++ after))
      = (match skipBlanks after with
        | some ',' :: cs => do
          let (others, cs) ← fields text item fuel cs
          some ((key, x) :: others, cs)
        | some '\x7d' :: cs => some ([(key, x)], cs)
        | _ => none) := by
  rw [fields, skipBlanks_of_begins (begins_text key), text_text]
  show (item key (skipBlanks ((render v).map some ++ after)) >>= _) = _
  rw [skipBlanks_of_begins hbegins, htakes after hafter]
  rfl

/-- Fields with commas between them are read one after another. -/
theorem fields_renderFields {α : Type} {item : String → Reader α} {g : Json → α}
    {fs : List (String × Json)} (hne : fs ≠ []) (hbegins : ∀ f ∈ fs, Begins (render f.2))
    (htakes : ∀ f ∈ fs, Takes (item f.1) (render f.2) (g f.2)) {fuel : Nat}
    (hfuel : fs.length ≤ fuel) (rest : Source) :
    fields text item fuel ((renderFields fs).map some ++ some '\x7d' :: rest)
      = some (fs.map fun f => (f.1, g f.2), rest) := by
  induction fs generalizing fuel with
  | nil => exact absurd rfl hne
  | cons f fs ih =>
    obtain ⟨key, v⟩ := f
    obtain ⟨fuel, rfl⟩ :=
      Nat.exists_eq_succ_of_ne_zero (Nat.ne_of_gt (Nat.lt_of_lt_of_le (Nat.succ_pos _) hfuel))
    rw [List.forall_mem_cons] at hbegins htakes
    cases fs with
    | nil =>
      have hsplit : (renderFields [(key, v)]).map some ++ some '\x7d' :: rest
          = (Writer.text key).map some ++ some ':' ::
            ((render v).map some ++ some '\x7d' :: rest) := by
        simp [renderFields]
      rw [hsplit, fields_step hbegins.1 htakes.1 fuel (ends_brace rest)]
      rfl
    | cons next fs =>
      have hrest := ih (List.cons_ne_nil _ _) hbegins.2 htakes.2 (Nat.le_of_succ_le_succ hfuel)
      have hsplit : (renderFields ((key, v) :: next :: fs)).map some ++ some '\x7d' :: rest
          = (Writer.text key).map some ++ some ':' :: ((render v).map some ++ some ',' ::
            ((renderFields (next :: fs)).map some ++ some '\x7d' :: rest)) := by
        simp [renderFields]
      rw [hsplit, fields_step hbegins.1 htakes.1 fuel (ends_comma _)]
      show (fields text item fuel
        ((renderFields (next :: fs)).map some ++ some '\x7d' :: rest) >>= _) = _
      rw [hrest]
      rfl

/-- An object is read back when its values are. -/
theorem objectTail_renderFields {α : Type} (item : String → Reader α) (g : Json → α)
    {fs : List (String × Json)} (hbegins : ∀ f ∈ fs, Begins (render f.2))
    (htakes : ∀ f ∈ fs, Takes (item f.1) (render f.2) (g f.2)) (rest : Source) :
    objectTail text item ((renderFields fs).map some ++ some '\x7d' :: rest)
      = some (fs.map fun f => (f.1, g f.2), rest) := by
  by_cases hne : fs = []
  · subst hne
    rfl
  · have hbegin := begins_renderFields hne
    have hfuel : fs.length ≤ ((renderFields fs).map some ++ some '\x7d' :: rest).length + 1 := by
      have hlength := length_le_renderFields fs
      simp only [List.length_append, List.length_map, List.length_cons]
      omega
    have hfields := fields_renderFields hne hbegins htakes hfuel rest
    rw [objectTail, skipBlanks_of_begins hbegin]
    obtain ⟨c, tail, hcons, hc⟩ := hbegin
    have hclose : c ≠ '\x7d' := by
      rintro rfl
      exact hc (by decide)
    rw [hcons] at hfields ⊢
    split
    next heq =>
      exact absurd (Option.some.inj (List.cons.inj heq).1) hclose
    next => exact hfields

end Reader

/-! ### Values -/

/-- A value whose numbers are whole, with arrays and objects that nest at most `depth` deep. -/
inductive Storable : Nat → Json → Prop where
  | null {depth : Nat} : Storable depth .null
  | bool {depth : Nat} (b : Bool) : Storable depth (.bool b)
  | whole {depth : Nat} (w : Whole) : Storable depth (.number (.whole w))
  | string {depth : Nat} (s : String) : Storable depth (.string s)
  | array {depth : Nat} {vs : List Json} (h : ∀ v ∈ vs, Storable depth v) :
    Storable (depth + 1) (.array vs)
  | object {depth : Nat} {fs : List (String × Json)} (h : ∀ f ∈ fs, Storable depth f.2) :
    Storable (depth + 1) (.object fs)

namespace Reader

/-- A whole number begins with its sign or a digit. -/
theorem exists_number_eq_cons (w : Whole) :
    ∃ c tail, (Writer.number (.whole w)).toList = c :: tail ∧ (c = '-' ∨ c.isDigit = true) := by
  rw [toList_number_whole]
  split
  · obtain ⟨c, cs, hdigits, hc⟩ := exists_toDigits_eq_cons w.val.natAbs
    exact ⟨c, cs, hdigits, Or.inr hc⟩
  · exact ⟨'-', _, rfl, Or.inl rfl⟩

theorem begins_render {depth : Nat} {v : Json} (h : Storable depth v) : Begins (render v) := by
  cases h with
  | null => exact ⟨'n', ['u', 'l', 'l'], rfl, by decide⟩
  | bool b =>
    cases b with
    | false => exact ⟨'f', ['a', 'l', 's', 'e'], rfl, by decide⟩
    | true => exact ⟨'t', ['r', 'u', 'e'], rfl, by decide⟩
  | whole w =>
    obtain ⟨c, tail, hcons, hc⟩ := exists_number_eq_cons w
    refine ⟨c, tail, hcons, fun hmem => ?_⟩
    simp only [List.mem_cons, List.not_mem_nil, or_false] at hmem
    rcases hmem with rfl | rfl | rfl | rfl | rfl | rfl <;> exact absurd hc (by decide)
  | string s => exact begins_text s
  | array h => exact ⟨'[', _, rfl, by decide⟩
  | object h => exact ⟨'\x7b', _, rfl, by decide⟩

/-- What begins with no bracket is no array and no object. -/
theorem value_eq_scalar {c : Char} (hbracket : c ≠ '[') (hbrace : c ≠ '\x7b') (depth : Nat)
    (rest : Source) : value depth (some c :: rest) = scalar (some c :: rest) := by
  cases depth with
  | zero => rfl
  | succ depth =>
    rw [value]
    · exact fun _ heq => hbracket (Option.some.inj (List.cons.inj heq).1)
    · exact fun _ heq => hbrace (Option.some.inj (List.cons.inj heq).1)

/-- What begins as a number is read as one. -/
theorem scalar_of_number {c : Char} (hc : c = '-' ∨ c.isDigit = true) (rest : Source) :
    scalar (some c :: rest)
      = (number (some c :: rest)).map fun (n, rest) => (.number n, rest) := by
  rw [scalar]
  all_goals
    intro _ heq
    obtain rfl := Option.some.inj (List.cons.inj heq).1
    exact absurd hc (by decide)

/-- **A value is read back as it was written.** -/
theorem takes_value {depth : Nat} {v : Json} (h : Storable depth v) :
    Takes (value depth) (render v) v := by
  -- a step into an array or an object takes one off both depths
  induction h with
  | null => exact fun rest _ => value_eq_scalar (by decide) (by decide) _ _
  | bool b =>
    cases b with
    | false => exact fun rest _ => value_eq_scalar (by decide) (by decide) _ _
    | true => exact fun rest _ => value_eq_scalar (by decide) (by decide) _ _
  | whole w =>
    intro rest hrest
    have hnumber := number_whole w hrest
    obtain ⟨c, tail, hcons, hc⟩ := exists_number_eq_cons w
    have hbracket : c ≠ '[' := by
      rintro rfl
      exact absurd hc (by decide)
    have hbrace : c ≠ '\x7b' := by
      rintro rfl
      exact absurd hc (by decide)
    rw [hcons] at hnumber
    rw [render, hcons, List.map_cons, List.cons_append, value_eq_scalar hbracket hbrace,
      scalar_of_number hc]
    exact congrArg (Option.map _) hnumber
  | string s =>
    intro rest _
    refine (value_eq_scalar (by decide) (by decide) _ _).trans ?_
    exact congrArg (Option.map _) (text_text s rest)
  | @array depth vs h ih =>
    intro rest _
    have hitems := arrayTail_renderItems (fun v hv => begins_render (h v hv)) ih rest
    have hsplit : (render (.array vs)).map some ++ rest
        = some '[' :: ((renderItems vs).map some ++ some ']' :: rest) := by
      simp [render]
    rw [hsplit, value, hitems]
    rfl
  | @object depth fs h ih =>
    intro rest _
    have hfields := objectTail_renderFields (fun _ => value depth) id
      (fun f hf => begins_render (h f hf)) ih rest
    have hsplit : (render (.object fs)).map some ++ rest
        = some '\x7b' :: ((renderFields fs).map some ++ some '\x7d' :: rest) := by
      simp [render]
    rw [hsplit, value, hfields]
    simp

theorem shaped_everything (depth : Nat) : shaped depth .everything = value depth := by
  funext cs
  cases depth with
  | zero => rfl
  | succ depth => rw [shaped] <;> intros <;> contradiction

theorem lookup_plain {names : List String} {name : String} (h : name ∈ names) :
    (names.map fun name => (name, Shape.everything)).lookup name = some .everything := by
  induction names with
  | nil => exact absurd h List.not_mem_nil
  | cons head names ih =>
    rw [List.map_cons, List.lookup_cons]
    by_cases hhead : name = head
    · simp [hhead]
    · rw [beq_false_of_ne hhead]
      exact ih ((List.mem_cons.mp h).resolve_left hhead)

/-- How the fields of a record with declared names are read. -/
def declaredField (depth : Nat) (names : List String) (key : String) : Reader (Option Json) :=
  fun cs =>
    match (names.map fun name => (name, Shape.everything)).lookup key with
    | some shape => (shaped depth shape cs).map fun (v, rest) => (some v, rest)
    | none => (pass cs).map fun (_, rest) => (none, rest)

/-- **A record whose keys are all declared is read back as it was written.** -/
theorem takes_record {depth : Nat} {names : List String} {fs : List (String × Json)}
    (hnames : ∀ f ∈ fs, f.1 ∈ names) (h : ∀ f ∈ fs, Storable depth f.2) :
    Takes (shaped (depth + 1) (.plain names)) (render (.object fs)) (.object fs) := by
  intro rest _
  have hfield : ∀ f ∈ fs, Takes (declaredField depth names f.1) (render f.2) (some f.2) := by
    intro f hf after hafter
    rw [declaredField, lookup_plain (hnames f hf)]
    show (shaped depth .everything _).map _ = _
    rw [shaped_everything, takes_value (h f hf) after hafter]
    rfl
  have hfields := objectTail_renderFields (declaredField depth names) some
    (fun f hf => begins_render (h f hf)) hfield rest
  have hsplit : (render (.object fs)).map some ++ rest
      = some '\x7b' :: ((renderFields fs).map some ++ some '\x7d' :: rest) := by
    simp [render]
  have hkept : (fs.map fun f => (f.1, some f.2)).filterMap (fun f => f.2.map (f.1, ·)) = fs := by
    rw [List.filterMap_map]
    exact List.filterMap_some
  rw [hsplit]
  refine (congrArg (Option.map _) hfields).trans ?_
  exact congrArg (fun fs => some (Json.object fs, rest)) hkept

end Reader

/-! ### Whole texts -/

/-- A text that is one value, given by its bytes, is read as that value. -/
theorem whole_decode {read : Reader Json} {v : Json} (hbegins : Reader.Begins (render v))
    (htakes : Reader.Takes read (render v) v) :
    whole read (Text.Utf8.decode (Text.utf8 v.compact)) = some v := by
  have hread := htakes [] trivial
  rw [List.append_nil] at hread
  have hskip := Reader.skipBlanks_of_begins hbegins []
  rw [List.append_nil] at hskip
  rw [Text.Utf8.decode_utf8, compact, String.toList_ofList, whole, hskip, hread]
  rfl

/-- **A value is read back from its bytes.** -/
theorem Kind.ofBytes?_any {v : Json} (h : Storable nestingLimit v) :
    Kind.any.ofBytes? (Text.utf8 v.compact) = some v := by
  have hread := whole_decode (Reader.begins_render h) (Reader.takes_value h)
  rw [← Reader.shaped_everything] at hread
  exact congrArg (Option.bind · some) hread

end SmartPlaylist.Json
