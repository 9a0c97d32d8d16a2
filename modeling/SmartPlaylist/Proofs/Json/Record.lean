import SmartPlaylist.Json.Record
import SmartPlaylist.Proofs.Json.Fields
import SmartPlaylist.Proofs.List.InOrder
import SmartPlaylist.Proofs.Text.ByteOrder

/-!
# What a record says

A record is an object with its fields by name, or an array with its fields by place; of the fields
that an object repeats the last counts.  The relations below say what value a field has, without
saying how it is read, and each reader of `SmartPlaylist.Json` is shown to succeed exactly where
its relation holds.  The readers work on collapsed values and the relations on the value as it was
written, so that repeated keys are dealt with here once and for all.

## Main definitions

* `Json.field?` — what a record has for one of its fields.
* `Json.HasOptional`, `Json.HasDefaulted` — the value of a field that may be left out.
* `Json.IsListOf`, `Json.IsDictionaryOf` — lists and dictionaries of values.

## Main results

* `Json.slots_collapse` — a record has a slot for every declared name.
* `Json.optional_slotAt_iff`, `Json.defaulted_slotAt_iff` — **the two kinds of field.**
* `Json.list?_collapse_iff`, `Json.dictionary?_collapse_iff` — lists and dictionaries.
-/

namespace SmartPlaylist.Json

variable {α β : Type}

/-! ### Relations -/

/-- A value that is a text. -/
def IsText (v : Json) (s : String) : Prop := v = .string s

/-- A value that is a truth value. -/
def IsBool (v : Json) (b : Bool) : Prop := v = .bool b

/-- A value that is a number, taken as a double. -/
def IsNumber (v : Json) (x : Float) : Prop := ∃ n, v = .number n ∧ x = n.toFloat

/-- A value that is an object. -/
def IsObject (v : Json) : Prop := ∃ fields, v = .object fields

/-- A value that can be a record of `n` fields: an object, or an array that is not longer. -/
def IsRecord (n : Nat) (v : Json) : Prop :=
  v.IsObject ∨ ∃ items, v = .array items ∧ items.length ≤ n

/-- What a record has for the field with that place and name. -/
def field? (v : Json) (place : Nat) (name : String) : Option Json :=
  match v with
  | .object fields => lastField fields name
  | .array items => items[place]?
  | _ => none

/-- The value of a field that may be `null`, and that an object may leave out. -/
def HasOptional (R : Json → α → Prop) (v : Json) (place : Nat) (name : String)
    (x : Option α) : Prop :=
  match v.field? place name with
  | none => v.IsObject ∧ x = none
  | some .null => x = none
  | some u => ∃ y, x = some y ∧ R u y

/-- The value of a field that may be left out, for which a default then stands. -/
def HasDefaulted (R : Json → α → Prop) (default : α) (v : Json) (place : Nat) (name : String)
    (x : α) : Prop :=
  match v.field? place name with
  | none => x = default
  | some u => R u x

/-- An array of values, in order. -/
def IsListOf (R : Json → α → Prop) (v : Json) (xs : List α) : Prop :=
  ∃ items, v = .array items ∧ List.Forall₂ R items xs

/-- An object's entries in the byte order of their keys, each key with its last value. -/
structure IsDictionaryOf (R : Json → α → Prop) (v : Json) (entries : List (String × α)) : Prop where
  ordered : entries.Pairwise fun p q => Text.utf8 p.1 < Text.utf8 q.1
  content : ∃ fields, v = .object fields ∧
    ∀ key, Option.Rel R (lastField fields key) (lastField entries key)

/-! ### Collapsed values -/

@[simp] theorem collapseItems_eq_map (items : List Json) :
    collapseItems items = items.map collapse := by
  induction items with
  | nil => rfl
  | cons item rest ih => rw [collapseItems, ih, List.map_cons]

@[simp] theorem collapseFields_eq_map (fields : List (String × Json)) :
    collapseFields fields = fields.map fun field => (field.1, field.2.collapse) := by
  induction fields with
  | nil => rfl
  | cons f rest ih => rw [collapseFields, ih, List.map_cons]

theorem lastField_sortFields (fields : List (String × α)) (key : String) :
    lastField (sortFields fields) key = lastField fields key := by
  ext v
  rw [← mem_iff_lastField (keysSorted_sortFields fields), mem_sortFields_iff]

theorem field?_collapse (v : Json) (place : Nat) (name : String) :
    v.collapse.field? place name = (v.field? place name).map collapse := by
  cases v with
  | object fields =>
    rw [collapse, field?, field?, lastField_sortFields, collapseFields_eq_map, lastField_map]
  | array items => rw [collapse, field?, field?, collapseItems_eq_map, List.getElem?_map]
  | _ => rfl

/-! ### Slots -/

/-- What stands in the slot of a field that a record does not have. -/
def gap : Json → Slot
  | .object _ => .unnamed
  | _ => .beyond

/-- The slot of a field in a record. -/
def slotAt (v : Json) (place : Nat) (name : String) : Slot :=
  ((v.field? place name).map Slot.value).getD v.gap

theorem objectSlots_eq {fields : List (String × Json)} (h : KeysSorted fields)
    (names : List String) :
    objectSlots names fields = some (names.mapIdx (slotAt (.object fields))) := by
  induction names with
  | nil => rfl
  | cons name names ih =>
    have hname : slotAt (.object fields) 0 name
        = ((lastField fields name).map Slot.value).getD .unnamed := rfl
    -- with sorted keys no name is met twice, so no slot is refused
    rw [objectSlots] at ih
    rw [objectSlots, List.mapM_cons, ih, filter_key h, List.mapIdx_cons, hname]
    cases lastField fields name <;> rfl

/-- An array that has ended has nothing in any further place. -/
theorem mapIdx_slotAt_nil (names : List String) :
    names.mapIdx (slotAt (.array [])) = names.map fun _ => .beyond := by
  refine List.mapIdx_eq_iff.mpr fun place => ?_
  rw [List.getElem?_map]
  rfl

theorem arraySlots_eq {names : List String} {items : List Json}
    (h : items.length ≤ names.length) :
    arraySlots names items = some (names.mapIdx (slotAt (.array items))) := by
  induction names generalizing items with
  | nil =>
    obtain rfl := List.length_eq_zero_iff.mp (Nat.le_zero.mp h)
    rfl
  | cons name names ih =>
    cases items with
    | nil => rw [arraySlots, mapIdx_slotAt_nil]
    | cons item items =>
      have htail : (fun i => slotAt (.array (item :: items)) (i + 1)) = slotAt (.array items) :=
        rfl
      rw [arraySlots, ih (Nat.le_of_succ_le_succ h), List.mapIdx_cons, htail]
      rfl

theorem arraySlots_eq_none {names : List String} {items : List Json}
    (h : names.length < items.length) : arraySlots names items = none := by
  induction names generalizing items with
  | nil =>
    cases items with
    | nil => exact absurd h (Nat.lt_irrefl _)
    | cons item items => rfl
  | cons name names ih =>
    cases items with
    | nil => exact absurd h (Nat.not_lt_zero _)
    | cons item items =>
      rw [arraySlots, ih (Nat.lt_of_succ_lt_succ h)]
      rfl

/-- **A record has a slot for every declared name.** -/
theorem slots_collapse {v : Json} {names : List String} (h : v.IsRecord names.length) :
    v.collapse.slots names = some (names.mapIdx v.collapse.slotAt) := by
  rcases h with ⟨fields, rfl⟩ | ⟨items, rfl, hlength⟩
  · exact objectSlots_eq (keysSorted_sortFields _) names
  · refine arraySlots_eq ?_
    rwa [collapseItems_eq_map, List.length_map]

/-- Nothing else has slots. -/
theorem slots_collapse_eq_none {v : Json} {names : List String} (h : ¬v.IsRecord names.length) :
    v.collapse.slots names = none := by
  cases v with
  | object fields => exact absurd (Or.inl ⟨fields, rfl⟩) h
  | array items =>
    refine arraySlots_eq_none ?_
    rw [collapseItems_eq_map, List.length_map]
    exact Nat.not_le.mp fun hlength => h (Or.inr ⟨items, rfl, hlength⟩)
  | _ => rfl

theorem slotAt_collapse_of_some {v u : Json} {place : Nat} {name : String}
    (h : v.field? place name = some u) : v.collapse.slotAt place name = .value u.collapse := by
  rw [slotAt, field?_collapse, h]
  rfl

theorem slotAt_collapse_of_none {v : Json} {place : Nat} {name : String}
    (h : v.field? place name = none) : v.collapse.slotAt place name = v.collapse.gap := by
  rw [slotAt, field?_collapse, h]
  rfl

/-! ### Fields -/

section Fields

variable {R : Json → α → Prop} {read : Json → Option α} {v : Json} {place : Nat} {name : String}

/-- Only an object may leave out an optional field. -/
theorem optional_gap_iff {x : Option α} :
    v.collapse.gap.optional read = some x ↔ v.IsObject ∧ x = none := by
  cases v <;> simp [collapse, gap, Slot.optional, IsObject, eq_comm]

theorem defaulted_gap {default : α} : v.collapse.gap.defaulted default read = some default := by
  cases v <;> rfl

/-- **An optional field is read where it has a value.** -/
theorem optional_slotAt_iff (hread : ∀ u x, read u.collapse = some x ↔ R u x) {x : Option α} :
    (v.collapse.slotAt place name).optional read = some x ↔ HasOptional R v place name x := by
  rw [HasOptional]
  cases hfield : v.field? place name with
  | none => rw [slotAt_collapse_of_none hfield, optional_gap_iff]
  | some u =>
    rw [slotAt_collapse_of_some hfield, Slot.optional]
    cases u with
    | null => exact Option.some_inj.trans eq_comm
    | _ =>
      refine Option.map_eq_some_iff.trans (exists_congr fun y => ?_)
      rw [and_comm, eq_comm]
      exact and_congr_right' (hread _ y)

/-- What an optional field has is one of its values. -/
theorem HasOptional.exists {x : α} (h : HasOptional R v place name (some x)) : ∃ u, R u x := by
  rw [HasOptional] at h
  split at h
  · nomatch h.2
  · nomatch h
  · obtain ⟨y, hy, hr⟩ := h
    obtain rfl := Option.some.inj hy
    exact ⟨_, hr⟩

/-- **A defaulted field is read where it has a value.** -/
theorem defaulted_slotAt_iff (hread : ∀ u x, read u.collapse = some x ↔ R u x) {default x : α} :
    (v.collapse.slotAt place name).defaulted default read = some x ↔
      HasDefaulted R default v place name x := by
  rw [HasDefaulted]
  cases hfield : v.field? place name with
  | none => rw [slotAt_collapse_of_none hfield, defaulted_gap, Option.some_inj, eq_comm]
  | some u =>
    rw [slotAt_collapse_of_some hfield]
    exact hread u x

end Fields

/-! ### Values of fields -/

theorem text?_collapse_iff (v : Json) (s : String) : v.collapse.text? = some s ↔ v.IsText s := by
  cases v <;> simp [collapse, text?, IsText]

theorem bool?_collapse_iff (v : Json) (b : Bool) : v.collapse.bool? = some b ↔ v.IsBool b := by
  cases v <;> simp [collapse, bool?, IsBool]

theorem double?_collapse_iff (v : Json) (x : Float) :
    v.collapse.double? = some x ↔ v.IsNumber x := by
  cases v <;> simp [collapse, double?, IsNumber, eq_comm]

theorem list?_collapse_iff {R : Json → α → Prop} {read : Json → Option α}
    (hread : ∀ u x, read u.collapse = some x ↔ R u x) (v : Json) (xs : List α) :
    v.collapse.list? read = some xs ↔ IsListOf R v xs := by
  cases v with
  | array items =>
    rw [collapse, list?, collapseItems_eq_map, mapM_eq_some_iff, List.forall₂_map_left_iff]
    simp only [hread, IsListOf, array.injEq, exists_eq_left']
  | _ => simp [collapse, list?, IsListOf]

/-- Byte order of keys is their order as texts. -/
theorem pairwise_utf8_iff {entries : List (String × α)} :
    (entries.Pairwise fun p q => Text.utf8 p.1 < Text.utf8 q.1) ↔ KeysSorted entries := by
  unfold KeysSorted
  simp only [Text.utf8_lt_utf8]

/-- An object is a dictionary iff each of its keys is. -/
theorem isDictionaryOf_object_iff {R : Json → α → Prop} {fields : List (String × Json)}
    {entries : List (String × α)} :
    IsDictionaryOf R (.object fields) entries ↔ KeysSorted entries ∧
      ∀ key, Option.Rel R (lastField fields key) (lastField entries key) := by
  constructor
  · rintro ⟨hordered, fields', hfields, hcontent⟩
    obtain rfl := object.inj hfields
    exact ⟨pairwise_utf8_iff.mp hordered, hcontent⟩
  · rintro ⟨hordered, hcontent⟩
    exact ⟨pairwise_utf8_iff.mpr hordered, fields, rfl, hcontent⟩

/-- What a dictionary has is the value of one of its keys. -/
theorem IsDictionaryOf.exists_of_mem {R : Json → α → Prop} {v : Json}
    {entries : List (String × α)} (h : IsDictionaryOf R v entries) {entry : String × α}
    (hentry : entry ∈ entries) : ∃ u, R u entry.2 := by
  obtain ⟨hordered, fields, -, hcontent⟩ := h
  have hlast := (mem_iff_lastField (pairwise_utf8_iff.mp hordered)).mp hentry
  obtain ⟨u, -, hu⟩ := rel_some_right (hlast ▸ hcontent entry.1)
  exact ⟨u, hu⟩

theorem rel_map_collapse_iff {R : Json → α → Prop} {read : Json → Option α}
    (hread : ∀ u x, read u.collapse = some x ↔ R u x) {o : Option Json} {x : Option α} :
    Option.Rel (fun u x => read u = some x) (o.map collapse) x ↔ Option.Rel R o x := by
  cases o <;> cases x <;> simp [hread]

theorem dictionary?_collapse_iff {R : Json → α → Prop} {read : Json → Option α}
    (hread : ∀ u x, read u.collapse = some x ↔ R u x) (v : Json) (entries : List (String × α)) :
    v.collapse.dictionary? read = some entries ↔ IsDictionaryOf R v entries := by
  cases v with
  | object fields =>
    let Reads (u : Json) (x : α) : Prop := read u = some x
    have hentry : ∀ (p : String × Json) (q : String × α),
        (read p.2).map (p.1, ·) = some q ↔ p.1 = q.1 ∧ read p.2 = some q.2 := by
      rintro ⟨k, u⟩ ⟨key, x⟩
      rw [Option.map_eq_some_iff]
      simp [and_comm]
    -- the keys are sorted twice, which does no more than once
    have hcollapsed : ∀ key,
        lastField (sortFields (sortFields (collapseFields fields))) key
          = (lastField fields key).map collapse := by
      intro key
      rw [lastField_sortFields, lastField_sortFields, collapseFields_eq_map, lastField_map]
    have hsorted := keysSorted_sortFields (sortFields (collapseFields fields))
    have hreads : (object fields).collapse.dictionary? read = some entries ↔
        List.Forall₂ (fun p q => p.1 = q.1 ∧ read p.2 = some q.2)
          (sortFields (sortFields (collapseFields fields))) entries := by
      rw [collapse, dictionary?, mapM_eq_some_iff]
      simp only [hentry]
    rw [hreads, isDictionaryOf_object_iff]
    constructor
    · intro h
      have hkeys := hsorted.of_forall₂ (R := Reads) h
      refine ⟨hkeys, fun key => ?_⟩
      rw [← rel_map_collapse_iff hread, ← hcollapsed]
      exact (forall₂_iff_lastField (R := Reads) hsorted hkeys).mp h key
    · rintro ⟨hkeys, hcontent⟩
      refine (forall₂_iff_lastField (R := Reads) hsorted hkeys).mpr fun key => ?_
      rw [hcollapsed, rel_map_collapse_iff hread]
      exact hcontent key
  | _ =>
    refine iff_of_false (fun h => nomatch h) ?_
    rintro ⟨-, _, hfields, -⟩
    nomatch hfields

end SmartPlaylist.Json
