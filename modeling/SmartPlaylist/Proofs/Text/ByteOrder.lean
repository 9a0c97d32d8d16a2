import SmartPlaylist.Text.Sorted
import SmartPlaylist.Text.Utf8

/-!
# The order of texts

Texts are compared by their code points and stored as bytes.  UTF-8 keeps the order: a greater
first byte stands for more bytes, and among characters of one length each further byte carries the
next six bits.  So whatever is sorted as texts is sorted as bytes too, and the sorted lists and the
greatest text of `SmartPlaylist.Text` are those of the byte order.

## Main results

* `utf8_lt_utf8` — **byte order is the order of texts.**
* `pairwise_distinct` — `distinct` gives strictly increasing texts.
* `eq_of_pairwise` — a strictly increasing list is determined by its members.
* `greatest?_eq_some_iff` — `greatest?` gives the text that no other exceeds.
-/

namespace SmartPlaylist.Text

/-! ### The bytes of one character -/

/-- A smaller first byte decides. -/
theorem cons_lt_cons_of_lt {a b : Nat} (hab : a < b) (hb : b < 256) (xs ys : List UInt8) :
    UInt8.ofNat a :: xs < UInt8.ofNat b :: ys := by
  rw [List.cons_lt_cons_iff]
  left
  rw [UInt8.lt_iff_toNat_lt, UInt8.toNat_ofNat', UInt8.toNat_ofNat']
  omega

/-- `f` keeps the order of the numbers below `bound`, whatever follows. -/
def Ascending (bound : Nat) (f : Nat → List UInt8) : Prop :=
  ∀ ⦃a b : Nat⦄, a < b → b < bound → ∀ xs ys, f a ++ xs < f b ++ ys

/-- The first byte of a character: its leading bits, and a mark for the number of bytes. -/
theorem ascending_lead (size mark : Nat) (h : size + mark ≤ 256) :
    Ascending size fun n => [UInt8.ofNat (n % size + mark)] := by
  intro a b hab hb xs ys
  simp only [List.singleton_append, Nat.mod_eq_of_lt hb, Nat.mod_eq_of_lt (Nat.lt_trans hab hb)]
  exact cons_lt_cons_of_lt (by omega) (by omega) xs ys

/-- Six more bits in a byte of their own keep the order. -/
theorem Ascending.six_bits {bound : Nat} {f : Nat → List UInt8} (hf : Ascending bound f) :
    Ascending (bound * 64) fun n => f (n / 64) ++ [UInt8.ofNat (n % 64 + 128)] := by
  intro a b hab hb xs ys
  simp only [List.append_assoc, List.singleton_append]
  rcases Nat.lt_or_ge (a / 64) (b / 64) with hlt | hge
  · exact hf hlt (by omega) _ _
  · have heq : a / 64 = b / 64 := by omega
    rw [heq]
    exact List.append_left_lt (cons_lt_cons_of_lt (by omega) (by omega) xs ys)

theorem two_bytes_lt {a b : Nat} (hab : a < b) (hb : b < 0x800) (xs ys : List UInt8) :
    [UInt8.ofNat (a / 64 % 0x20 + 0xc0), .ofNat (a % 0x40 + 0x80)] ++ xs
      < [UInt8.ofNat (b / 64 % 0x20 + 0xc0), .ofNat (b % 0x40 + 0x80)] ++ ys :=
  (ascending_lead 0x20 0xc0 (by decide)).six_bits hab hb xs ys

theorem three_bytes_lt {a b : Nat} (hab : a < b) (hb : b < 0x10000) (xs ys : List UInt8) :
    [UInt8.ofNat (a / 4096 % 0x10 + 0xe0), .ofNat (a / 64 % 0x40 + 0x80),
        .ofNat (a % 0x40 + 0x80)] ++ xs
      < [UInt8.ofNat (b / 4096 % 0x10 + 0xe0), .ofNat (b / 64 % 0x40 + 0x80),
        .ofNat (b % 0x40 + 0x80)] ++ ys := by
  have h := (ascending_lead 0x10 0xe0 (by decide)).six_bits.six_bits
    hab hb xs ys
  simp only [Nat.div_div_eq_div_mul] at h
  exact h

theorem four_bytes_lt {a b : Nat} (hab : a < b) (hb : b < 0x200000) (xs ys : List UInt8) :
    [UInt8.ofNat (a / 262144 % 0x08 + 0xf0), .ofNat (a / 4096 % 0x40 + 0x80),
        .ofNat (a / 64 % 0x40 + 0x80), .ofNat (a % 0x40 + 0x80)] ++ xs
      < [UInt8.ofNat (b / 262144 % 0x08 + 0xf0), .ofNat (b / 4096 % 0x40 + 0x80),
        .ofNat (b / 64 % 0x40 + 0x80), .ofNat (b % 0x40 + 0x80)] ++ ys := by
  have h := (ascending_lead 0x08 0xf0 (by decide)).six_bits.six_bits.six_bits
    hab hb xs ys
  simp only [Nat.div_div_eq_div_mul] at h
  exact h

/-- The bytes of a smaller character come first, whatever follows them. -/
theorem utf8EncodeChar_lt {c d : Char} (h : c < d) (xs ys : List UInt8) :
    String.utf8EncodeChar c ++ xs < String.utf8EncodeChar d ++ ys := by
  have hcd : c.val.toNat < d.val.toNat := h
  have hd : d.val.toNat < 0x110000 := by
    have := d.valid
    simp only [UInt32.isValidChar, Nat.isValidChar] at this
    omega
  unfold String.utf8EncodeChar
  simp only
  generalize c.val.toNat = a, d.val.toNat = b at hcd hd
  -- characters of one length differ in a byte, those of two lengths in the first byte
  split
  next ha =>
    split
    · exact cons_lt_cons_of_lt hcd (by omega) xs ys
    · split
      · exact cons_lt_cons_of_lt (by omega) (by omega) _ _
      · split <;> exact cons_lt_cons_of_lt (by omega) (by omega) _ _
  next ha =>
    rw [if_neg (by omega : ¬b ≤ 0x7f)]
    split
    next ha2 =>
      split
      · exact two_bytes_lt hcd (by omega) xs ys
      · split <;> exact cons_lt_cons_of_lt (by omega) (by omega) _ _
    next ha2 =>
      rw [if_neg (by omega : ¬b ≤ 0x7ff)]
      split
      next ha3 =>
        split
        · exact three_bytes_lt hcd (by omega) xs ys
        · exact cons_lt_cons_of_lt (by omega) (by omega) _ _
      next ha3 =>
        rw [if_neg (by omega : ¬b ≤ 0xffff)]
        exact four_bytes_lt hcd (by omega) xs ys

/-! ### Texts -/

theorem flatMap_utf8EncodeChar_lt : ∀ {cs ds : List Char}, cs < ds →
    cs.flatMap String.utf8EncodeChar < ds.flatMap String.utf8EncodeChar
  | _, [], h => absurd h (List.not_lt_nil _)
  | [], d :: ds, _ => by
    rw [List.flatMap_nil, List.flatMap_cons]
    cases hd : String.utf8EncodeChar d with
    | nil => exact absurd hd String.utf8EncodeChar_ne_nil
    | cons b bs => exact List.nil_lt_cons _ _
  | c :: cs, d :: ds, h => by
    rw [List.flatMap_cons, List.flatMap_cons]
    rcases List.cons_lt_cons_iff.mp h with hcd | ⟨rfl, hrest⟩
    · exact utf8EncodeChar_lt hcd _ _
    · exact List.append_left_lt (flatMap_utf8EncodeChar_lt hrest)

theorem utf8_lt_of_lt {a b : String} (h : a < b) : utf8 a < utf8 b :=
  flatMap_utf8EncodeChar_lt h

/-- **Byte order is the order of texts.** -/
theorem utf8_lt_utf8 {a b : String} : utf8 a < utf8 b ↔ a < b := by
  refine ⟨fun h => ?_, utf8_lt_of_lt⟩
  apply Decidable.byContradiction
  intro hab
  rcases String.le_total a b with hle | hge
  · have : a = b := String.le_antisymm hle (String.not_lt.mp hab)
    subst this
    exact List.lt_irrefl _ h
  · rcases Decidable.em (b < a) with hlt | hge'
    · exact List.lt_asymm h (utf8_lt_of_lt hlt)
    · have : a = b := String.le_antisymm (String.not_lt.mp hge') hge
      subst this
      exact List.lt_irrefl _ h

/-! ### Sorted lists -/

theorem pairwise_sorted (xs : List String) : (sorted xs).Pairwise (· ≤ ·) := by
  have h : (sorted xs).Pairwise fun a b => decide (a ≤ b) = true := by
    refine List.pairwise_mergeSort (fun a b c hab hbc => ?_) (fun a b => ?_) xs
    · rw [decide_eq_true_eq] at *
      exact String.le_trans hab hbc
    · simpa only [Bool.or_eq_true, decide_eq_true_eq] using String.le_total a b
  exact h.imp fun hab => of_decide_eq_true hab

theorem pairwise_dropRepeats {xs : List String} (h : xs.Pairwise (· ≤ ·)) :
    (dropRepeats xs).Pairwise (· < ·) := by
  fun_induction dropRepeats xs with
  | case1 a rest ih => exact ih h.of_cons
  | case2 a b rest hab ih =>
    have hrest := ih h.of_cons
    refine List.pairwise_cons.mpr ⟨fun x hx => ?_, hrest⟩
    -- `a` is below `b`, and `b` is not above any text that follows
    have hab' : a < b := by
      have hle : a ≤ b := List.rel_of_pairwise_cons h (List.mem_cons_self ..)
      exact String.not_le.mp fun hba => hab (String.le_antisymm hle hba)
    rcases List.mem_cons.mp (mem_dropRepeats.mp hx) with rfl | hx'
    · exact hab'
    · have hbx : b ≤ x := List.rel_of_pairwise_cons h.of_cons hx'
      exact String.not_le.mp fun hxa => String.not_le.mpr hab' (String.le_trans hbx hxa)
  | case3 xs hxs =>
    cases xs with
    | nil => exact List.Pairwise.nil
    | cons a rest =>
      cases rest with
      | nil => exact List.pairwise_singleton _ _
      | cons b rest => exact absurd rfl (hxs a b rest)

theorem pairwise_distinct (xs : List String) : (distinct xs).Pairwise (· < ·) :=
  pairwise_dropRepeats (pairwise_sorted xs)

theorem nodup_of_pairwise {xs : List String} (h : xs.Pairwise (· < ·)) : xs.Nodup := by
  refine List.Pairwise.imp (fun {a b} hab => ?_) h
  rintro rfl
  exact String.lt_irrefl a hab

/-- Without repeats there is nothing to drop from a sorted list. -/
theorem pairwise_sorted_of_nodup {xs : List String} (h : xs.Nodup) :
    (sorted xs).Pairwise (· < ·) := by
  have hnodup : (sorted xs).Nodup := (List.mergeSort_perm xs _).nodup_iff.mpr h
  refine ((pairwise_sorted xs).and hnodup).imp fun ⟨hle, hne⟩ => ?_
  exact String.not_le.mp fun hge => hne (String.le_antisymm hle hge)

/-- A strictly increasing list is determined by its members. -/
theorem eq_of_pairwise {xs ys : List String} (hx : xs.Pairwise (· < ·))
    (hy : ys.Pairwise (· < ·)) (h : ∀ a, a ∈ xs ↔ a ∈ ys) : xs = ys := by
  have hperm : xs.Perm ys :=
    (List.perm_ext_iff_of_nodup (nodup_of_pairwise hx) (nodup_of_pairwise hy)).mpr fun {a} => h a
  exact hperm.eq_of_pairwise (fun a b _ _ hab hba => absurd hba (String.lt_asymm hab)) hx hy

theorem distinct_eq_of_pairwise {xs ys : List String} (hy : ys.Pairwise (· < ·))
    (h : ∀ a, a ∈ xs ↔ a ∈ ys) : distinct xs = ys :=
  eq_of_pairwise (pairwise_distinct xs) hy fun a => mem_distinct.trans (h a)

/-! ### The greatest text -/

theorem greatest?_eq_none_iff {xs : List String} : greatest? xs = none ↔ xs = [] := by
  cases xs with
  | nil => simp [greatest?]
  | cons x rest => cases h : greatest? rest <;> simp [greatest?, h]

/-- The greatest text is one of the texts, and none exceeds it. -/
theorem greatest?_spec {xs : List String} {g : String} (h : greatest? xs = some g) :
    g ∈ xs ∧ ∀ x ∈ xs, x ≤ g := by
  induction xs generalizing g with
  | nil => simp [greatest?] at h
  | cons x rest ih =>
    cases hr : greatest? rest with
    | none =>
      rw [greatest?_eq_none_iff] at hr
      subst hr
      simp only [greatest?, Option.some.injEq] at h
      subst h
      simp
    | some y =>
      obtain ⟨hmem, hmax⟩ := ih hr
      simp only [greatest?, hr, Option.some.injEq] at h
      split at h
      next hyx =>
        subst h
        refine ⟨List.mem_cons_self .., fun z hz => ?_⟩
        rcases List.mem_cons.mp hz with rfl | hz
        · exact String.le_refl _
        · exact String.le_trans (hmax z hz) hyx
      next hyx =>
        subst h
        refine ⟨List.mem_cons_of_mem _ hmem, fun z hz => ?_⟩
        rcases List.mem_cons.mp hz with rfl | hz
        · exact (String.le_total z y).resolve_right hyx
        · exact hmax z hz

theorem greatest?_eq_some_iff {xs : List String} {g : String} :
    greatest? xs = some g ↔ g ∈ xs ∧ ∀ x ∈ xs, x ≤ g := by
  refine ⟨greatest?_spec, fun ⟨hmem, hmax⟩ => ?_⟩
  cases hg : greatest? xs with
  | none => simp [greatest?_eq_none_iff.mp hg] at hmem
  | some y =>
    obtain ⟨hy, hymax⟩ := greatest?_spec hg
    rw [String.le_antisymm (hmax y hy) (hymax g hmem)]

end SmartPlaylist.Text
