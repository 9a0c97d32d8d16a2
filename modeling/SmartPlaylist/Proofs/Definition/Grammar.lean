import SmartPlaylist.Definition.OfJson
import SmartPlaylist.Proofs.Json.Record
import SmartPlaylist.Proofs.List.InOrder
import SmartPlaylist.Proofs.Numeric.Order

/-!
# The grammar of definitions

Which values are definitions, and what each of the others is refused for.  The shape of a value is
a matter of all its parts, and nothing else is looked at before it; then come the name, the features
by the byte order of their keys, and the pins in order, and the first fault among them is the one
that is reported.  `Verdict` says all this by cases, without the functions that read and check.

## Main definitions

* `IsRange`, `IsPin`, `HasShape` — **what a value of each shape says.**
* `Sound`, `RangeFault` — a range under a key that is accepted, and what is wrong with the others.
* `Verdict` — what is said about a value.

## Main results

* `ofJson?_eq_some_iff` — the shape is read where there is one.
* `mem_arrange_iff`, `pairwise_arrange` — ranges are kept in the order of the features.
* `ofJson_verdict` — **a value is read as a definition iff it is one, and otherwise its first fault
  is reported.**
-/

namespace SmartPlaylist.Definition

open Json

/-! ### Shape -/

/-- A range: a record of its two optional bounds. -/
structure IsRange (v : Json) (r : FeatureRange) : Prop where
  record : v.IsRecord 2
  min : HasOptional IsNumber v 0 "min" r.min
  max : HasOptional IsNumber v 1 "max" r.max

/-- A pin: a record of three optional fields. -/
structure IsPin (v : Json) (p : PinShape) : Prop where
  record : v.IsRecord 3
  name : HasOptional IsText v 0 "name" p.name
  artist : HasOptional IsText v 1 "artist" p.artist
  rotate : HasOptional IsBool v 2 "rotate" p.rotate

/-- A definition: a record whose first two fields are optional and whose three lists may be left
out. -/
structure HasShape (v : Json) (s : Shape) : Prop where
  record : v.IsRecord 5
  name : HasOptional IsText v 0 "name" s.name
  features : HasOptional (IsDictionaryOf IsRange) v 1 "audio_features" s.features
  genres : HasDefaulted (IsListOf IsText) [] v 2 "genres" s.genres
  artists : HasDefaulted (IsListOf IsText) [] v 3 "artists" s.artists
  pins : HasDefaulted (IsListOf IsPin) [] v 4 "additional_tracks" s.pins

theorem rangeShape?_collapse_iff (v : Json) (r : FeatureRange) :
    rangeShape? v.collapse = some r ↔ IsRange v r := by
  by_cases h : v.IsRecord 2
  · have hslots : v.collapse.slots ["min", "max"]
        = some [v.collapse.slotAt 0 "min", v.collapse.slotAt 1 "max"] := slots_collapse h
    rw [rangeShape?, hslots]
    constructor
    · intro hread
      obtain ⟨min, hmin, hread⟩ := Option.bind_eq_some_iff.mp hread
      obtain ⟨max, hmax, hread⟩ := Option.bind_eq_some_iff.mp hread
      obtain rfl := Option.some.inj hread
      exact ⟨h, (optional_slotAt_iff double?_collapse_iff).mp hmin,
        (optional_slotAt_iff double?_collapse_iff).mp hmax⟩
    · rintro ⟨-, hmin, hmax⟩
      simp [(optional_slotAt_iff double?_collapse_iff).mpr hmin,
        (optional_slotAt_iff double?_collapse_iff).mpr hmax]
  · have hslots : v.collapse.slots ["min", "max"] = none := slots_collapse_eq_none h
    rw [rangeShape?, hslots]
    exact iff_of_false (fun hread => nomatch hread) fun hrange => h hrange.record

theorem pinShape?_collapse_iff (v : Json) (p : PinShape) :
    pinShape? v.collapse = some p ↔ IsPin v p := by
  by_cases h : v.IsRecord 3
  · have hslots : v.collapse.slots ["name", "artist", "rotate"]
        = some [v.collapse.slotAt 0 "name", v.collapse.slotAt 1 "artist",
            v.collapse.slotAt 2 "rotate"] := slots_collapse h
    rw [pinShape?, hslots]
    constructor
    · intro hread
      obtain ⟨name, hname, hread⟩ := Option.bind_eq_some_iff.mp hread
      obtain ⟨artist, hartist, hread⟩ := Option.bind_eq_some_iff.mp hread
      obtain ⟨rotate, hrotate, hread⟩ := Option.bind_eq_some_iff.mp hread
      obtain rfl := Option.some.inj hread
      exact ⟨h, (optional_slotAt_iff text?_collapse_iff).mp hname,
        (optional_slotAt_iff text?_collapse_iff).mp hartist,
        (optional_slotAt_iff bool?_collapse_iff).mp hrotate⟩
    · rintro ⟨-, hname, hartist, hrotate⟩
      simp [(optional_slotAt_iff text?_collapse_iff).mpr hname,
        (optional_slotAt_iff text?_collapse_iff).mpr hartist,
        (optional_slotAt_iff bool?_collapse_iff).mpr hrotate]
  · have hslots : v.collapse.slots ["name", "artist", "rotate"] = none :=
      slots_collapse_eq_none h
    rw [pinShape?, hslots]
    exact iff_of_false (fun hread => nomatch hread) fun hpin => h hpin.record

/-- **The shape is read where there is one.** -/
theorem ofJson?_eq_some_iff (v : Json) (s : Shape) : Shape.ofJson? v = some s ↔ HasShape v s := by
  have hdictionary := dictionary?_collapse_iff rangeShape?_collapse_iff
  have htexts := list?_collapse_iff text?_collapse_iff
  have hpinned := list?_collapse_iff pinShape?_collapse_iff
  by_cases h : v.IsRecord 5
  · have hslots : v.collapse.slots
          ["name", "audio_features", "genres", "artists", "additional_tracks"]
        = some [v.collapse.slotAt 0 "name", v.collapse.slotAt 1 "audio_features",
            v.collapse.slotAt 2 "genres", v.collapse.slotAt 3 "artists",
            v.collapse.slotAt 4 "additional_tracks"] := slots_collapse h
    rw [Shape.ofJson?, hslots]
    constructor
    · intro hread
      obtain ⟨name, hname, hread⟩ := Option.bind_eq_some_iff.mp hread
      obtain ⟨features, hfeatures, hread⟩ := Option.bind_eq_some_iff.mp hread
      obtain ⟨genres, hgenres, hread⟩ := Option.bind_eq_some_iff.mp hread
      obtain ⟨artists, hartists, hread⟩ := Option.bind_eq_some_iff.mp hread
      obtain ⟨pins, hpins, hread⟩ := Option.bind_eq_some_iff.mp hread
      obtain rfl := Option.some.inj hread
      exact ⟨h, (optional_slotAt_iff text?_collapse_iff).mp hname,
        (optional_slotAt_iff hdictionary).mp hfeatures,
        (defaulted_slotAt_iff htexts).mp hgenres, (defaulted_slotAt_iff htexts).mp hartists,
        (defaulted_slotAt_iff hpinned).mp hpins⟩
    · rintro ⟨-, hname, hfeatures, hgenres, hartists, hpins⟩
      simp [(optional_slotAt_iff text?_collapse_iff).mpr hname,
        (optional_slotAt_iff hdictionary).mpr hfeatures,
        (defaulted_slotAt_iff htexts).mpr hgenres, (defaulted_slotAt_iff htexts).mpr hartists,
        (defaulted_slotAt_iff hpinned).mpr hpins]
  · have hslots : v.collapse.slots
        ["name", "audio_features", "genres", "artists", "additional_tracks"] = none :=
      slots_collapse_eq_none h
    rw [Shape.ofJson?, hslots]
    exact iff_of_false (fun hread => nomatch hread) fun hshape => h hshape.record

theorem ofJson?_eq_none_iff (v : Json) : Shape.ofJson? v = none ↔ ∀ s, ¬HasShape v s := by
  simp only [Option.eq_none_iff_forall_ne_some, Ne, ofJson?_eq_some_iff]

/-! ### Content -/

/-- A text that is there and not empty. -/
def Named (text : Option String) (name : String) : Prop := text = some name ∧ name ≠ ""

/-- A range under its key that is accepted: the key names a feature, and the bounds are in
order. -/
structure Sound (entry : String × FeatureRange) : Prop where
  feature : ∃ f : Feature, f.name = entry.1
  ordered : ∀ min max, entry.2.min = some min → entry.2.max = some max → min ≤ max

/-- What is wrong with a range under its key. -/
inductive RangeFault : String × FeatureRange → DefinitionError → Prop where
  | unknown {key : String} {r : FeatureRange} (hkey : ∀ f : Feature, f.name ≠ key) :
    RangeFault (key, r) (.unknownFeature key)
  | inverted {key : String} {r : FeatureRange} {min max : Float}
    (hkey : ∃ f : Feature, f.name = key) (hmin : r.min = some min) (hmax : r.max = some max)
    (h : ¬min ≤ max) : RangeFault (key, r) (.invalidRange key min max)

/-- The ranges of a definition for those of its shape: the same ones, by feature. -/
structure HoldsRanges (entries : List (String × FeatureRange))
    (ranges : List (Feature × FeatureRange)) : Prop where
  ordered : ranges.Pairwise fun a b => a.1.index < b.1.index
  content : ∀ f r, (f, r) ∈ ranges ↔ (f.name, r) ∈ entries

/-- The pin of a definition for one of its shape. -/
structure HoldsPin (p : PinShape) (pin : Pin) : Prop where
  name : Named p.name pin.name
  artist : pin.artist = p.artist
  rotate : pin.rotate = true ↔ p.rotate = some true

/-- A shape without a fault. -/
structure Acceptable (s : Shape) : Prop where
  name : ∃ name, Named s.name name
  features : ∀ entries, s.features = some entries → ∀ entry ∈ entries, Sound entry
  pins : ∀ p ∈ s.pins, ∃ name, Named p.name name

/-- A definition for its shape. -/
structure HoldsShape (s : Shape) (d : Definition) : Prop where
  name : Named s.name d.name
  features : Option.Rel HoldsRanges s.features d.features
  genres : d.genres = s.genres
  artists : d.artists = s.artists
  pins : List.Forall₂ HoldsPin s.pins d.pins

/-- What is said about a value: its first fault, or the definition that it is. -/
inductive Verdict (v : Json) : Except DefinitionError Definition → Prop where
  | malformed (h : ∀ s, ¬HasShape v s) : Verdict v (.error .malformed)
  | missingName {s : Shape} (h : HasShape v s) (hname : ∀ name, ¬Named s.name name) :
    Verdict v (.error .missingName)
  | badRange {s : Shape} {name : String} {before after : List (String × FeatureRange)}
    {entry : String × FeatureRange} {e : DefinitionError} (h : HasShape v s)
    (hname : Named s.name name) (hentries : s.features = some (before ++ entry :: after))
    (hbefore : ∀ earlier ∈ before, Sound earlier) (hfault : RangeFault entry e) :
    Verdict v (.error e)
  | missingTrackName {s : Shape} {name : String} {before after : List PinShape} {p : PinShape}
    (h : HasShape v s) (hname : Named s.name name)
    (hentries : ∀ entries, s.features = some entries → ∀ entry ∈ entries, Sound entry)
    (hpins : s.pins = before ++ p :: after)
    (hbefore : ∀ earlier ∈ before, ∃ pinned, Named earlier.name pinned)
    (hpin : ∀ pinned, ¬Named p.name pinned) :
    Verdict v (.error (.missingTrackName name before.length))
  | accepted {s : Shape} {d : Definition} (h : HasShape v s) (hs : Acceptable s)
    (hd : HoldsShape s d) : Verdict v (.ok d)

/-! ### Names -/

theorem nonempty?_of_named {text : Option String} {name : String} (h : Named text name) :
    nonempty? text = some name := by
  obtain ⟨rfl, hne⟩ := h
  simp [nonempty?, hne]

theorem nonempty?_of_not_named {text : Option String} (h : ∀ name, ¬Named text name) :
    nonempty? text = none := by
  cases text with
  | none => rfl
  | some name =>
    have hempty : name = "" := by_contra fun hne => h name ⟨rfl, hne⟩
    simp [nonempty?, hempty]

/-! ### Ranges -/

/-- No bound is NaN. -/
def HasNumbers (r : FeatureRange) : Prop :=
  ∀ x, r.min = some x ∨ r.max = some x → x.isNaN = false

theorem IsNumber.isNaN {v : Json} {x : Float} (h : IsNumber v x) : x.isNaN = false := by
  obtain ⟨n, -, rfl⟩ := h
  exact n.isNaN_toFloat

theorem IsRange.hasNumbers {v : Json} {r : FeatureRange} (h : IsRange v r) : HasNumbers r := by
  rintro x (hmin | hmax)
  · obtain ⟨u, hu⟩ := (hmin ▸ h.min).exists
    exact IsNumber.isNaN hu
  · obtain ⟨u, hu⟩ := (hmax ▸ h.max).exists
    exact IsNumber.isNaN hu

/-- The bounds of a definition are numbers. -/
theorem HasShape.hasNumbers {v : Json} {s : Shape} (h : HasShape v s)
    {entries : List (String × FeatureRange)} (hentries : s.features = some entries) :
    ∀ entry ∈ entries, HasNumbers entry.2 := by
  intro entry hentry
  obtain ⟨u, hu⟩ := (hentries ▸ h.features).exists
  obtain ⟨w, hw⟩ := hu.exists_of_mem hentry
  exact hw.hasNumbers

theorem ofName?_eq_none {key : String} (h : ∀ f : Feature, f.name ≠ key) :
    Feature.ofName? key = none := by
  rw [Feature.ofName?, List.find?_eq_none]
  intro f _
  simpa using h f

theorem ofName?_name (f : Feature) : Feature.ofName? f.name = some f := by
  cases f <;> decide

/-- A range without a fault is accepted. -/
theorem checkRange_of_sound {f : Feature} {r : FeatureRange} (hr : HasNumbers r)
    (h : Sound (f.name, r)) : checkRange f.name r = .ok (f, r) := by
  rw [checkRange, ofName?_name]
  cases hmin : r.min with
  | none => rfl
  | some min =>
    cases hmax : r.max with
    | none => rfl
    | some max =>
      have hle : ¬max < min :=
        (Numeric.not_lt_iff (hr min (Or.inl hmin)) (hr max (Or.inr hmax))).mpr
          (h.ordered min max hmin hmax)
      exact if_neg hle

/-- A range with a fault is refused for it. -/
theorem checkRange_of_fault {key : String} {r : FeatureRange} {e : DefinitionError}
    (hr : HasNumbers r) (h : RangeFault (key, r) e) : checkRange key r = .error e := by
  cases h with
  | unknown hkey => rw [checkRange, ofName?_eq_none hkey]
  | @inverted _ _ min max hkey hmin hmax hle =>
    obtain ⟨f, rfl⟩ := hkey
    have hlt : max < min := by_contra fun hge =>
      hle ((Numeric.not_lt_iff (hr min (Or.inl hmin)) (hr max (Or.inr hmax))).mp hge)
    rw [checkRange, ofName?_name, hmin, hmax]
    exact if_pos hlt

/-- What is not accepted has a fault. -/
theorem exists_rangeFault {entry : String × FeatureRange} (h : ¬Sound entry) :
    ∃ e, RangeFault entry e := by
  obtain ⟨key, r⟩ := entry
  by_cases hkey : ∃ f : Feature, f.name = key
  · have hordered : ∃ min max, r.min = some min ∧ r.max = some max ∧ ¬min ≤ max := by
      by_contra hnone
      refine h ⟨hkey, fun min max hmin hmax => ?_⟩
      by_contra hle
      exact hnone ⟨min, max, hmin, hmax, hle⟩
    obtain ⟨min, max, hmin, hmax, hle⟩ := hordered
    exact ⟨_, .inverted hkey hmin hmax hle⟩
  · exact ⟨_, .unknown fun f hf => hkey ⟨f, hf⟩⟩

/-! ### Ranges by feature -/

/-- A range under the name of its feature. -/
def keyed (c : Feature × FeatureRange) : String × FeatureRange := (c.1.name, c.2)

theorem keyed_injective {c c' : Feature × FeatureRange} (h : keyed c = keyed c') : c = c' :=
  Prod.ext (Feature.name_injective (Prod.ext_iff.mp h).1) (Prod.ext_iff.mp h).2

theorem exists_keyed {entries : List (String × FeatureRange)}
    (h : ∀ entry ∈ entries, Sound entry) :
    ∃ checked : List (Feature × FeatureRange), entries = checked.map keyed := by
  induction entries with
  | nil => exact ⟨[], rfl⟩
  | cons entry entries ih =>
    rw [List.forall_mem_cons] at h
    obtain ⟨checked, rfl⟩ := ih h.2
    obtain ⟨f, hf⟩ := h.1.feature
    exact ⟨(f, entry.2) :: checked, by rw [List.map_cons, keyed, hf]⟩

theorem mapM_checkRange {checked : List (Feature × FeatureRange)}
    (hnumbers : ∀ entry ∈ checked.map keyed, HasNumbers entry.2)
    (h : ∀ entry ∈ checked.map keyed, Sound entry) :
    ((checked.map keyed).mapM fun (key, r) => checkRange key r) = .ok checked := by
  induction checked with
  | nil => rfl
  | cons c checked ih =>
    rw [List.map_cons, List.forall_mem_cons] at hnumbers h
    have hc : checkRange c.1.name c.2 = .ok c := checkRange_of_sound hnumbers.1 h.1
    rw [List.map_cons, List.mapM_cons, ih hnumbers.2 h.2]
    show (checkRange c.1.name c.2 >>= fun c => pure (c :: checked)) = _
    rw [hc]
    rfl

theorem mem_arrange_iff {ranges : List (Feature × FeatureRange)} {c : Feature × FeatureRange} :
    c ∈ arrange ranges ↔ c ∈ ranges := by
  simp [arrange, Feature.mem_all]

/-- Ranges of different features are kept in the order of the features. -/
theorem pairwise_arrange {ranges : List (Feature × FeatureRange)}
    (h : ranges.Pairwise fun a b => a.1 ≠ b.1) :
    (arrange ranges).Pairwise fun a b => a.1.index < b.1.index := by
  have hall : Feature.all.Pairwise fun f g => f.index < g.index := by decide
  rw [arrange, List.pairwise_flatMap]
  refine ⟨fun f _ => ?_, hall.imp fun {f g} hfg a ha b hb => ?_⟩
  · -- there are no two ranges of one feature
    refine (h.filter _).imp_of_mem fun {a b} ha hb hne => ?_
    have hfa := of_decide_eq_true (List.mem_filter.mp ha).2
    have hfb := of_decide_eq_true (List.mem_filter.mp hb).2
    exact absurd (hfa.trans hfb.symm) hne
  · have hfa := of_decide_eq_true (List.mem_filter.mp ha).2
    have hgb := of_decide_eq_true (List.mem_filter.mp hb).2
    rw [hfa, hgb]
    exact hfg

/-- The ranges of a definition are determined by what they are for. -/
theorem HoldsRanges.unique {entries : List (String × FeatureRange)}
    {ranges ranges' : List (Feature × FeatureRange)} (h : HoldsRanges entries ranges)
    (h' : HoldsRanges entries ranges') : ranges = ranges' := by
  have hnodup : ∀ {cs : List (Feature × FeatureRange)},
      (cs.Pairwise fun a b => a.1.index < b.1.index) → cs.Nodup := by
    intro cs hcs
    refine hcs.imp fun {a b} hab => ?_
    rintro rfl
    exact Nat.lt_irrefl _ hab
  have hperm : ranges.Perm ranges' := by
    refine (List.perm_ext_iff_of_nodup (hnodup h.ordered) (hnodup h'.ordered)).mpr ?_
    rintro ⟨f, r⟩
    exact (h.content f r).trans (h'.content f r).symm
  exact hperm.eq_of_pairwise (fun a b _ _ hab hba => absurd hba (Nat.lt_asymm hab)) h.ordered
    h'.ordered

/-- Checked ranges, arranged, are those of the definition. -/
theorem holdsRanges_arrange {checked : List (Feature × FeatureRange)}
    (h : KeysSorted (checked.map keyed)) : HoldsRanges (checked.map keyed) (arrange checked) := by
  constructor
  · refine pairwise_arrange ((List.pairwise_map.mp h).imp fun {a b} hab heq => ?_)
    rw [keyed, keyed, heq] at hab
    exact String.lt_irrefl _ hab
  · intro f r
    have hmem : (f, r) ∈ checked ↔ keyed (f, r) ∈ checked.map keyed :=
      (List.mem_map_of_injective fun _ _ => keyed_injective).symm
    rw [mem_arrange_iff, hmem]
    rfl

/-! ### Pins -/

theorem exists_holdsPin {p : PinShape} (h : ∃ name, Named p.name name) :
    ∃ pin, HoldsPin p pin := by
  obtain ⟨name, hname⟩ := h
  refine ⟨⟨name, p.artist, p.rotate.getD false⟩, hname, rfl, ?_⟩
  cases p.rotate <;> simp

theorem HoldsPin.eq {p : PinShape} {pin : Pin} (h : HoldsPin p pin) :
    pin = ⟨pin.name, p.artist, p.rotate.getD false⟩ := by
  obtain ⟨-, hartist, hrotate⟩ := h
  have hrotate' : pin.rotate = p.rotate.getD false := by
    rw [Bool.eq_iff_iff, hrotate]
    cases p.rotate <;> simp
  rw [← hartist, ← hrotate']

theorem checkPins_of_forall₂ {playlist : String} {ps : List PinShape} {pins : List Pin}
    (h : List.Forall₂ HoldsPin ps pins) (index : Nat) :
    checkPins playlist index ps = .ok pins := by
  induction h generalizing index with
  | nil => rfl
  | @cons p pin ps pins hp _ ih =>
    rw [checkPins, nonempty?_of_named hp.name, hp.eq]
    show (checkPins playlist (index + 1) ps >>= _) = _
    rw [ih]
    rfl

/-- The first pin without a name is reported with its place. -/
theorem checkPins_of_not_named {playlist : String} {before after : List PinShape} {p : PinShape}
    (hbefore : ∀ earlier ∈ before, ∃ name, Named earlier.name name)
    (hp : ∀ name, ¬Named p.name name) (index : Nat) :
    checkPins playlist index (before ++ p :: after)
      = .error (.missingTrackName playlist (index + before.length)) := by
  induction before generalizing index with
  | nil =>
    rw [List.nil_append, checkPins, nonempty?_of_not_named hp]
    rfl
  | cons earlier before ih =>
    rw [List.forall_mem_cons] at hbefore
    obtain ⟨⟨name, hname⟩, hbefore⟩ := hbefore
    rw [List.cons_append, checkPins, nonempty?_of_named hname]
    show (checkPins playlist (index + 1) (before ++ p :: after) >>= _) = _
    rw [ih hbefore, List.length_cons, Nat.add_assoc, Nat.add_comm 1]
    rfl

/-! ### Verdicts -/

section Verdicts

variable {v : Json} {s : Shape}

theorem ofJson_eq_check (h : HasShape v s) : ofJson v = s.check := by
  rw [ofJson, (ofJson?_eq_some_iff v s).mpr h]

/-- The ranges of a shape, checked and arranged. -/
def checkFeatures (features : Option (List (String × FeatureRange))) :
    Except DefinitionError (Option (List (Feature × FeatureRange))) :=
  match features with
  | none => .ok none
  | some entries => do
    let checked ← entries.mapM fun (key, r) => checkRange key r
    .ok (some (arrange checked))

/-- With a name, the features are checked, and then the pins. -/
theorem check_of_named {name : String} (hname : Named s.name name) :
    s.check = (do
      let features ← checkFeatures s.features
      let pins ← checkPins name 0 s.pins
      .ok ⟨name, features, s.genres, s.artists, pins⟩) := by
  rw [Shape.check, nonempty?_of_named hname]
  cases s.features with
  | none => rfl
  | some entries =>
    rw [checkFeatures, bind_assoc]

theorem keysSorted_of_hasShape {entries : List (String × FeatureRange)} (h : HasShape v s)
    (hentries : s.features = some entries) : KeysSorted entries := by
  obtain ⟨u, hu⟩ := (hentries ▸ h.features).exists
  exact pairwise_utf8_iff.mp hu.ordered

/-- Ranges without a fault pass. -/
theorem checkFeatures_of_sound (h : HasShape v s)
    (hsound : ∀ entries, s.features = some entries → ∀ entry ∈ entries, Sound entry) :
    ∃ features, Option.Rel HoldsRanges s.features features ∧
      checkFeatures s.features = .ok features := by
  cases hentries : s.features with
  | none => exact ⟨none, .none, rfl⟩
  | some entries =>
    obtain ⟨checked, rfl⟩ := exists_keyed (hsound entries hentries)
    refine ⟨some (arrange checked),
      .some (holdsRanges_arrange (keysSorted_of_hasShape h hentries)), ?_⟩
    rw [checkFeatures, mapM_checkRange (h.hasNumbers hentries) (hsound _ hentries)]
    rfl

/-- The first range with a fault is reported. -/
theorem checkFeatures_of_fault {before after : List (String × FeatureRange)}
    {entry : String × FeatureRange} {e : DefinitionError} (h : HasShape v s)
    (hentries : s.features = some (before ++ entry :: after))
    (hbefore : ∀ earlier ∈ before, Sound earlier) (hfault : RangeFault entry e) :
    checkFeatures s.features = .error e := by
  have hnumbers := h.hasNumbers hentries
  rw [List.forall_mem_append, List.forall_mem_cons] at hnumbers
  have hpassed : ∀ earlier ∈ before, ∃ c, checkRange earlier.1 earlier.2 = .ok c := by
    intro earlier hearlier
    obtain ⟨f, hf⟩ := (hbefore earlier hearlier).feature
    refine ⟨(f, earlier.2), ?_⟩
    rw [← hf]
    exact checkRange_of_sound (hnumbers.1 earlier hearlier) (hf ▸ hbefore earlier hearlier)
  have hread : ((before ++ entry :: after).mapM fun (key, r) => checkRange key r) = .error e :=
    mapM_eq_error hpassed (checkRange_of_fault hnumbers.2.1 hfault)
  rw [hentries, checkFeatures, hread]
  rfl

/-- A definition is determined by its shape. -/
theorem check_of_holdsShape {d : Definition} (h : HasShape v s) (hs : Acceptable s)
    (hd : HoldsShape s d) : s.check = .ok d := by
  obtain ⟨features, hfeatures, hchecked⟩ := checkFeatures_of_sound h hs.features
  -- both are the ranges of one shape, and there is only one such list
  have heq : features = d.features := by
    have hrel := hd.features
    revert hfeatures hrel
    generalize s.features = entries, d.features = ranges
    rintro (hranges | -) (hranges' | -)
    · rw [hranges.unique hranges']
    · rfl
  rw [check_of_named hd.name, hchecked, checkPins_of_forall₂ hd.pins, heq, ← hd.genres,
    ← hd.artists]
  rfl

/-- **A verdict is what reading comes to.** -/
theorem ofJson_of_verdict {result : Except DefinitionError Definition} (h : Verdict v result) :
    ofJson v = result := by
  cases h with
  | malformed h => rw [ofJson, (ofJson?_eq_none_iff v).mpr h]
  | missingName h hname =>
    rw [ofJson_eq_check h, Shape.check, nonempty?_of_not_named hname]
  | badRange h hname hentries hbefore hfault =>
    rw [ofJson_eq_check h, check_of_named hname,
      checkFeatures_of_fault h hentries hbefore hfault]
    rfl
  | @missingTrackName _ name before after p h hname hentries hpins hbefore hpin =>
    obtain ⟨features, -, hchecked⟩ := checkFeatures_of_sound h hentries
    rw [ofJson_eq_check h, check_of_named hname, hchecked, hpins]
    show (checkPins name 0 (before ++ p :: after) >>= _) = _
    rw [checkPins_of_not_named hbefore hpin, Nat.zero_add]
    rfl
  | accepted h hs hd => rw [ofJson_eq_check h, check_of_holdsShape h hs hd]

theorem exists_holdsShape (h : HasShape v s) (hs : Acceptable s) : ∃ d, HoldsShape s d := by
  obtain ⟨name, hname⟩ := hs.name
  obtain ⟨features, hfeatures, -⟩ := checkFeatures_of_sound h hs.features
  have hpins : ∃ pins, List.Forall₂ HoldsPin s.pins pins := by
    have hall := hs.pins
    generalize s.pins = ps at hall
    induction ps with
    | nil => exact ⟨[], .nil⟩
    | cons p ps ih =>
      rw [List.forall_mem_cons] at hall
      obtain ⟨pin, hpin⟩ := exists_holdsPin hall.1
      obtain ⟨pins, hpins⟩ := ih hall.2
      exact ⟨pin :: pins, .cons hpin hpins⟩
  obtain ⟨pins, hpins⟩ := hpins
  exact ⟨⟨name, features, s.genres, s.artists, pins⟩, hname, hfeatures, rfl, rfl, hpins⟩

/-- **There is a verdict on every value.**  Without a shape it is malformed; with one, the name,
the ranges and the pins are gone through until one has a fault. -/
theorem exists_verdict (v : Json) : ∃ result, Verdict v result := by
  by_cases hshape : ∃ s, HasShape v s
  swap
  · exact ⟨_, .malformed fun s h => hshape ⟨s, h⟩⟩
  obtain ⟨s, h⟩ := hshape
  by_cases hname : ∃ name, Named s.name name
  swap
  · exact ⟨_, .missingName h fun name hs => hname ⟨name, hs⟩⟩
  obtain ⟨name, hname⟩ := hname
  by_cases hentries : ∀ entries, s.features = some entries → ∀ entry ∈ entries, Sound entry
  swap
  · rw [not_forall₂] at hentries
    obtain ⟨entries, hfeatures, hnot⟩ := hentries
    obtain ⟨before, entry, after, rfl, hbefore, hentry⟩ := exists_first_not hnot
    obtain ⟨e, hfault⟩ := exists_rangeFault hentry
    exact ⟨_, .badRange h hname hfeatures hbefore hfault⟩
  by_cases hpins : ∀ p ∈ s.pins, ∃ pinned, Named p.name pinned
  swap
  · obtain ⟨before, p, after, heq, hbefore, hp⟩ := exists_first_not hpins
    exact ⟨_, .missingTrackName h hname hentries heq hbefore fun name hs => hp ⟨name, hs⟩⟩
  have hs : Acceptable s := ⟨⟨name, hname⟩, hentries, hpins⟩
  obtain ⟨d, hd⟩ := exists_holdsShape h hs
  exact ⟨_, .accepted h hs hd⟩

/-- **A value is read as a definition iff it is one, and otherwise its first fault is reported.** -/
theorem ofJson_verdict (v : Json) :
    ((∃ d, ofJson v = .ok d) ↔ ∃ s, HasShape v s ∧ Acceptable s) ∧
      ∀ result, ofJson v = result ↔ Verdict v result := by
  -- some verdict is given, and each fixes what is read, so no other is
  have hiff : ∀ result, ofJson v = result ↔ Verdict v result := by
    refine fun result => ⟨?_, ofJson_of_verdict⟩
    rintro rfl
    obtain ⟨result, hresult⟩ := exists_verdict v
    rw [ofJson_of_verdict hresult]
    exact hresult
  refine ⟨⟨?_, ?_⟩, hiff⟩
  · rintro ⟨d, hd⟩
    cases (hiff _).mp hd with
    | accepted h hs _ => exact ⟨_, h, hs⟩
  · rintro ⟨s, h, hs⟩
    obtain ⟨d, hd⟩ := exists_holdsShape h hs
    exact ⟨d, (hiff _).mpr (.accepted h hs hd)⟩

/-- A missing name comes before an unknown feature and a nameless pin, as an array too. -/
example : ofJson (.array [.null, .object [("pitch", .array [.null, .null])], .array [], .array [],
    .array [.object []]]) = .error .missingName := by
  rfl

end Verdicts

end SmartPlaylist.Definition
