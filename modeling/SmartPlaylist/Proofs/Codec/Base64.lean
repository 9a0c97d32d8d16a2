import Mathlib.Data.Nat.Digits.Defs
import SmartPlaylist.Codec.Base64
import SmartPlaylist.Proofs.Text.Trim

/-!
# Base 64 and back

Every group of characters gives back the bytes that it was made of: complete groups in front, and
at the end one with padding.  Padding stands for itself only because no value is written as the
padding character.  In the other direction, whatever is read is the text of what it gave: a value
has one character in an alphabet, and the bits that no byte takes have to be zero.

## Main results

* `Base64.value?_eq_some_iff` — a character and its value determine each other.
* `Base64.decode_encode` — **the text of bytes is read back as those bytes**, in either alphabet.
* `Base64.decode_eq_some_iff` — **no other text is read.**
* `Base64.exists_values` — the digits of the text denote the same number as the bytes.
* `Base64.forall_mem_encodeChars` — only digits and padding stand in it.
* `Base64.trim_encode` — no blank stands at either end of it.
-/

namespace SmartPlaylist

namespace Base64

variable {a : Alphabet}

/-! ### Characters -/

/-- A character gives its value. -/
theorem value?_digit {n : Nat} (h : n < 64) : value? a (digit a n) = some n := by
  have hall : ∀ n < 64, value? .standard (digit .standard n) = some n ∧
      value? .urlSafe (digit .urlSafe n) = some n := by decide
  cases a with
  | standard => exact (hall n h).1
  | urlSafe => exact (hall n h).2

/-- A value is written neither as padding nor as a blank. -/
theorem digit_ne_padding {n : Nat} (h : n < 64) : digit a n ≠ '=' := by
  intro heq
  have hvalue := value?_digit (a := a) h
  rw [heq] at hvalue
  cases a <;> simp [value?, Alphabet.char62, Alphabet.char63] at hvalue

theorem isBlank_digit (a : Alphabet) {n : Nat} (h : n < 64) :
    Text.isBlank (digit a n) = false := by
  have hall : ∀ n < 64, Text.isBlank (digit .standard n) = false ∧
      Text.isBlank (digit .urlSafe n) = false := by decide
  cases a with
  | standard => exact (hall n h).1
  | urlSafe => exact (hall n h).2

/-! ### Groups -/

/-- Four characters give three bytes. -/
theorem decodeChars_digits {c d e f : Nat} (hc : c < 64) (hd : d < 64) (he : e < 64)
    (hf : f < 64) (rest : List Char) :
    decodeChars a (digit a c :: digit a d :: digit a e :: digit a f :: rest)
      = (decodeChars a rest).map fun others =>
          (c * 4 + d / 16).toUInt8 :: (d % 16 * 16 + e / 4).toUInt8 ::
            (e % 4 * 64 + f).toUInt8 :: others := by
  rw [decodeChars, value?_digit hc, value?_digit hd, value?_digit he, value?_digit hf]
  · cases decodeChars a rest <;> rfl
  · intro _ hpad
    exact absurd hpad (digit_ne_padding hf)
  · intro hpad
    exact absurd hpad (digit_ne_padding hf)

/-- Two characters and padding give one byte. -/
theorem decodeChars_two {c d : Nat} (hc : c < 64) (hd : d < 64) (hstray : d % 16 = 0) :
    decodeChars a [digit a c, digit a d, '=', '='] = some [(c * 4 + d / 16).toUInt8] := by
  rw [decodeChars, value?_digit hc, value?_digit hd]
  exact if_pos hstray

/-- Three characters and padding give two bytes. -/
theorem decodeChars_three {c d e : Nat} (hc : c < 64) (hd : d < 64) (he : e < 64)
    (hstray : e % 4 = 0) :
    decodeChars a [digit a c, digit a d, digit a e, '=']
      = some [(c * 4 + d / 16).toUInt8, (d % 16 * 16 + e / 4).toUInt8] := by
  rw [decodeChars, value?_digit hc, value?_digit hd, value?_digit he]
  · exact if_pos hstray
  · exact digit_ne_padding he

/-- The values of a group lie below 64. -/
theorem group_lt {x y z : Nat} (hx : x < 256) (hy : y < 256) (hz : z < 256) :
    x / 4 < 64 ∧ x % 4 * 16 + y / 16 < 64 ∧ y % 16 * 4 + z / 64 < 64 ∧ z % 64 < 64 := by
  omega

/-- The bytes of a group are made of its values again. -/
theorem group_bytes {x y z : UInt8} :
    (x.toNat / 4 * 4 + (x.toNat % 4 * 16 + y.toNat / 16) / 16).toUInt8 = x ∧
      ((x.toNat % 4 * 16 + y.toNat / 16) % 16 * 16
        + (y.toNat % 16 * 4 + z.toNat / 64) / 4).toUInt8 = y ∧
      ((y.toNat % 16 * 4 + z.toNat / 64) % 4 * 64 + z.toNat % 64).toUInt8 = z := by
  have hy := y.toNat_lt
  have hz := z.toNat_lt
  have hbytes : x.toNat / 4 * 4 + (x.toNat % 4 * 16 + y.toNat / 16) / 16 = x.toNat ∧
      (x.toNat % 4 * 16 + y.toNat / 16) % 16 * 16 + (y.toNat % 16 * 4 + z.toNat / 64) / 4
        = y.toNat ∧
      (y.toNat % 16 * 4 + z.toNat / 64) % 4 * 64 + z.toNat % 64 = z.toNat := by omega
  obtain ⟨h₁, h₂, h₃⟩ := hbytes
  rw [h₁, h₂, h₃]
  exact ⟨UInt8.ofNat_toNat, UInt8.ofNat_toNat, UInt8.ofNat_toNat⟩

/-- The characters of bytes are read back as those bytes. -/
theorem decodeChars_encodeChars (bytes : List UInt8) :
    decodeChars a (encodeChars a ['='] bytes) = some bytes := by
  -- an incomplete group is one whose missing bytes are zero
  fun_induction encodeChars a ['='] bytes with
  | case1 => rfl
  | case2 x =>
    obtain ⟨hc, hd, -, -⟩ := group_lt x.toNat_lt (by decide : 0 < 256) (by decide : 0 < 256)
    obtain ⟨hx, -, -⟩ := group_bytes (x := x) (y := 0) (z := 0)
    have hread := decodeChars_two (a := a) hc hd (by omega)
    exact hread.trans (congrArg (fun b => some [b]) hx)
  | case3 x y =>
    obtain ⟨hc, hd, he, -⟩ := group_lt x.toNat_lt y.toNat_lt (by decide : 0 < 256)
    obtain ⟨hx, hy, -⟩ := group_bytes (x := x) (y := y) (z := 0)
    have hread := decodeChars_three (a := a) hc hd he (by omega)
    rw [hx] at hread
    exact hread.trans (congrArg (fun b => some [x, b]) hy)
  | case4 x y z rest ih =>
    obtain ⟨hc, hd, he, hf⟩ := group_lt x.toNat_lt y.toNat_lt z.toNat_lt
    obtain ⟨hx, hy, hz⟩ := group_bytes (x := x) (y := y) (z := z)
    have hread := decodeChars_digits (a := a) hc hd he hf (encodeChars a ['='] rest)
    rw [hx, hy, hz, ih] at hread
    exact hread

/-! ### Nothing else is read -/

/-- A value is below 64 and written as its character. -/
theorem digit_of_value? {c : Char} {n : Nat} (h : value? a c = some n) :
    n < 64 ∧ digit a n = c := by
  have hall : ∀ a ∈ [Alphabet.standard, .urlSafe], ∀ k < 128, ∀ n ∈ value? a (Char.ofNat k),
      n < 64 ∧ digit a n = Char.ofNat k := by decide
  have hascii : c.toNat < 128 := by
    by_cases hlt : c.toNat < 128
    · exact hlt
    · -- past ASCII no character has a value
      have hupper : ∀ d : Char, d.toNat < 128 → ¬c ≤ d := fun d hd hle => by
        have hle' : c.toNat ≤ d.toNat := hle
        omega
      have hne : ∀ d : Char, d.toNat < 128 → c ≠ d := fun d hd heq => hlt (heq ▸ hd)
      have h62 : c ≠ a.char62 := hne _ (by cases a <;> decide)
      have h63 : c ≠ a.char63 := hne _ (by cases a <;> decide)
      simp [value?, hupper 'Z' (by decide), hupper 'z' (by decide), hupper '9' (by decide), h62,
        h63] at h
  have hc := hall a (by cases a <;> decide) c.toNat hascii n
  rw [Char.ofNat_toNat] at hc
  exact hc h

/-- A character and its value determine each other. -/
theorem value?_eq_some_iff {c : Char} {n : Nat} :
    value? a c = some n ↔ n < 64 ∧ c = digit a n := by
  constructor
  · intro h
    obtain ⟨hn, hc⟩ := digit_of_value? h
    exact ⟨hn, hc.symm⟩
  · rintro ⟨hn, rfl⟩
    exact value?_digit hn

/-- The first value of a group, and as much of the second as a byte takes. -/
theorem toNat_high {c d : Nat} (hc : c < 64) (hd : d < 64) :
    (c * 4 + d / 16).toUInt8.toNat = c * 4 + d / 16 :=
  Nat.mod_eq_of_lt (by omega)

/-- What is left of the second value, and the most of the third. -/
theorem toNat_middle {d e : Nat} (he : e < 64) :
    (d % 16 * 16 + e / 4).toUInt8.toNat = d % 16 * 16 + e / 4 :=
  Nat.mod_eq_of_lt (by omega)

/-- What is left of the third value, and the fourth. -/
theorem toNat_low {e f : Nat} (hf : f < 64) :
    (e % 4 * 64 + f).toUInt8.toNat = e % 4 * 64 + f :=
  Nat.mod_eq_of_lt (by omega)

/-- The characters of a group are those of its values. -/
theorem group_of_values (a : Alphabet) {c d e f : Nat} (hd : d < 64) (he : e < 64) (hf : f < 64) :
    group a (c * 4 + d / 16) (d % 16 * 16 + e / 4) (e % 4 * 64 + f)
      = [digit a c, digit a d, digit a e, digit a f] := by
  have hfirst : (c * 4 + d / 16) / 4 = c := by omega
  have hsecond : (c * 4 + d / 16) % 4 * 16 + (d % 16 * 16 + e / 4) / 16 = d := by omega
  have hthird : (d % 16 * 16 + e / 4) % 16 * 4 + (e % 4 * 64 + f) / 64 = e := by omega
  have hfourth : (e % 4 * 64 + f) % 64 = f := by omega
  rw [group, hfirst, hsecond, hthird, hfourth]

/-- What is read is the text of what it gave. -/
theorem encodeChars_of_decodeChars {cs : List Char} {bytes : List UInt8}
    (h : decodeChars a cs = some bytes) : encodeChars a ['='] bytes = cs := by
  fun_induction decodeChars a cs generalizing bytes with
  | case1 =>
    obtain rfl : [] = bytes := Option.some.inj h
    rfl
  | case2 c d =>
    simp only [Option.bind_eq_bind, Option.bind_eq_some_iff] at h
    obtain ⟨x, hx, y, hy, h⟩ := h
    obtain ⟨hx64, rfl⟩ := value?_eq_some_iff.mp hx
    obtain ⟨hy64, rfl⟩ := value?_eq_some_iff.mp hy
    by_cases hstray : y % 16 = 0
    · rw [if_pos hstray] at h
      obtain rfl := Option.some.inj h
      have hgroup := group_of_values a (c := x) hy64 (by decide : 0 < 64) (by decide : 0 < 64)
      rw [hstray] at hgroup
      rw [encodeChars, toNat_high hx64 hy64]
      exact congrArg (fun g => g.take 2 ++ ['='] ++ ['=']) hgroup
    · rw [if_neg hstray] at h
      nomatch h
  | case3 c d e =>
    simp only [Option.bind_eq_bind, Option.bind_eq_some_iff] at h
    obtain ⟨x, hx, y, hy, z, hz, h⟩ := h
    obtain ⟨hx64, rfl⟩ := value?_eq_some_iff.mp hx
    obtain ⟨hy64, rfl⟩ := value?_eq_some_iff.mp hy
    obtain ⟨hz64, rfl⟩ := value?_eq_some_iff.mp hz
    by_cases hstray : z % 4 = 0
    · rw [if_pos hstray] at h
      obtain rfl := Option.some.inj h
      have hgroup := group_of_values a (c := x) hy64 hz64 (by decide : 0 < 64)
      rw [hstray] at hgroup
      rw [encodeChars, toNat_high hx64 hy64, toNat_middle hz64]
      exact congrArg (fun g => g.take 3 ++ ['=']) hgroup
    · rw [if_neg hstray] at h
      nomatch h
  | case4 c d e f rest _ _ ih =>
    simp only [Option.bind_eq_bind, Option.bind_eq_some_iff] at h
    obtain ⟨x, hx, y, hy, z, hz, w, hw, others, hothers, h⟩ := h
    obtain ⟨hx64, rfl⟩ := value?_eq_some_iff.mp hx
    obtain ⟨hy64, rfl⟩ := value?_eq_some_iff.mp hy
    obtain ⟨hz64, rfl⟩ := value?_eq_some_iff.mp hz
    obtain ⟨hw64, rfl⟩ := value?_eq_some_iff.mp hw
    obtain rfl := Option.some.inj h
    rw [encodeChars, toNat_high hx64 hy64, toNat_middle hz64, toNat_low hw64,
      group_of_values a hy64 hz64 hw64, ih hothers]
    rfl
  | case5 => nomatch h

/-! ### The number that bytes denote -/

/-- The values of a group denote the same number as its bytes. -/
theorem ofDigits_group (x y z : Nat) :
    Nat.ofDigits 64 [z % 64, y % 16 * 4 + z / 64, x % 4 * 16 + y / 16, x / 4]
      = Nat.ofDigits 256 [z, y, x] := by
  simp only [Nat.ofDigits_cons, Nat.ofDigits_nil]
  omega

/-- **The digits of the text denote the same number as the bytes.**  Where the last group lacks a
byte or two, each padding character stands for two bits that are zero. -/
theorem exists_values (a : Alphabet) (bytes : List UInt8) : ∃ (values : List Nat) (pad : Nat),
    encodeChars a ['='] bytes = values.map (digit a) ++ List.replicate pad '=' ∧
      (∀ v ∈ values, v < 64) ∧ pad < 3 ∧ 6 * values.length = 8 * bytes.length + 2 * pad ∧
      Nat.ofDigits 64 values.reverse
        = 4 ^ pad * Nat.ofDigits 256 (bytes.map UInt8.toNat).reverse := by
  fun_induction encodeChars a ['='] bytes with
  | case1 => exact ⟨[], 0, by simp⟩
  | case2 x =>
    obtain ⟨hx, hy, -, -⟩ := group_lt x.toNat_lt (by decide : 0 < 256) (by decide : 0 < 256)
    refine ⟨[x.toNat / 4, x.toNat % 4 * 16 + 0 / 16], 2, rfl, by simpa using ⟨hx, hy⟩, by decide,
      rfl, ?_⟩
    simp only [List.map_cons, List.map_nil, List.reverse_cons, List.reverse_nil, List.nil_append,
      List.cons_append, Nat.ofDigits_cons, Nat.ofDigits_nil]
    omega
  | case3 x y =>
    have hy := y.toNat_lt
    obtain ⟨hc, hd, he, -⟩ := group_lt x.toNat_lt hy (by decide : 0 < 256)
    refine ⟨[x.toNat / 4, x.toNat % 4 * 16 + y.toNat / 16, y.toNat % 16 * 4 + 0 / 64], 1, rfl,
      by simpa using ⟨hc, hd, he⟩, by decide, rfl, ?_⟩
    simp only [List.map_cons, List.map_nil, List.reverse_cons, List.reverse_nil, List.nil_append,
      List.cons_append, Nat.ofDigits_cons, Nat.ofDigits_nil]
    omega
  | case4 x y z rest ih =>
    obtain ⟨values, pad, hrest, hlt, hpad, hlength, hnumber⟩ := ih
    obtain ⟨hc, hd, he, hf⟩ := group_lt x.toNat_lt y.toNat_lt z.toNat_lt
    refine ⟨[x.toNat / 4, x.toNat % 4 * 16 + y.toNat / 16, y.toNat % 16 * 4 + z.toNat / 64,
      z.toNat % 64] ++ values, pad, ?_, ?_, hpad, ?_, ?_⟩
    · rw [hrest, List.map_append, List.append_assoc]
      rfl
    · intro v hv
      rcases List.mem_append.mp hv with hv | hv
      · simp only [List.mem_cons, List.not_mem_nil, or_false] at hv
        rcases hv with rfl | rfl | rfl | rfl <;> assumption
      · exact hlt v hv
    · rw [List.length_append, Nat.mul_add, hlength]
      simp only [List.length_cons, List.length_nil]
      omega
    · -- what the rest denotes has as many bits in values as in bytes and padding
      have hplace : 64 ^ values.length = 4 ^ pad * 256 ^ rest.length := by
        calc 64 ^ values.length = 2 ^ (6 * values.length) := by rw [Nat.pow_mul]
          _ = 2 ^ (2 * pad + 8 * rest.length) := by rw [hlength, Nat.add_comm]
          _ = 4 ^ pad * 256 ^ rest.length := by rw [Nat.pow_add, Nat.pow_mul, Nat.pow_mul]
      have hgroup := ofDigits_group x.toNat y.toNat z.toNat
      have hbytes : ((x :: y :: z :: rest).map UInt8.toNat).reverse
          = (rest.map UInt8.toNat).reverse ++ [z.toNat, y.toNat, x.toNat] := by simp
      rw [List.reverse_append, Nat.ofDigits_append, hbytes, Nat.ofDigits_append, hnumber,
        List.length_reverse, List.length_reverse, List.length_map, hplace, Nat.mul_add,
        Nat.mul_assoc, ← hgroup]
      rfl

/-! ### Both alphabets -/

/-- A character that has a value in both alphabets has the same one. -/
theorem value?_agree {c : Char} {m n : Nat} (hm : value? .urlSafe c = some m)
    (hn : value? .standard c = some n) : m = n := by
  simp only [value?, Alphabet.char62, Alphabet.char63] at hm hn
  by_cases hupper : 'A' ≤ c ∧ c ≤ 'Z'
  · rw [if_pos hupper] at hm hn
    exact Option.some.inj (hm.symm.trans hn)
  · by_cases hlower : 'a' ≤ c ∧ c ≤ 'z'
    · rw [if_neg hupper, if_pos hlower] at hm hn
      exact Option.some.inj (hm.symm.trans hn)
    · by_cases hdigit : '0' ≤ c ∧ c ≤ '9'
      · rw [if_neg hupper, if_neg hlower, if_pos hdigit] at hm hn
        exact Option.some.inj (hm.symm.trans hn)
      · -- the two characters that differ have no value in the other alphabet
        rw [if_neg hupper, if_neg hlower, if_neg hdigit] at hm hn
        by_cases hplus : c = '+'
        · subst hplus
          simp at hm
        · by_cases hslash : c = '/'
          · subst hslash
            simp at hm
          · simp [hplus, hslash] at hn

/-- Reading depends on the values of the characters only. -/
theorem decodeChars_congr {a a' : Alphabet} {cs : List Char}
    (h : ∀ c ∈ cs, value? a c = value? a' c) : decodeChars a cs = decodeChars a' cs := by
  fun_induction decodeChars a cs with
  | case1 => rfl
  | case2 c d =>
    simp only [List.forall_mem_cons] at h
    rw [decodeChars, h.1, h.2.1]
  | case3 c d e hne =>
    simp only [List.forall_mem_cons] at h
    rw [decodeChars, h.1, h.2.1, h.2.2.1]
    exact hne
  | case4 c d e f rest hthree hfour ih =>
    simp only [List.forall_mem_cons] at h
    rw [decodeChars, h.1, h.2.1, h.2.2.1, h.2.2.2.1, ih h.2.2.2.2]
    · exact hthree
    · exact hfour
  | case5 cs hnil htwo hthree hfour =>
    rw [decodeChars]
    · exact hnil
    · exact htwo
    · exact hthree
    · exact hfour

/-- What both alphabets read they read alike. -/
theorem decode_agree {t : String} {x y : List UInt8} (hx : decode .urlSafe t = some x)
    (hy : decode .standard t = some y) : x = y := by
  have hvalues {a : Alphabet} {bytes : List UInt8} (h : decode a t = some bytes) :
      ∀ c ∈ t.toList, c = '=' ∨ ∃ n, value? a c = some n := by
    obtain ⟨values, pad, htext, hlt, -⟩ := exists_values a bytes
    rw [← encodeChars_of_decodeChars h, htext]
    intro c hc
    rcases List.mem_append.mp hc with hc | hc
    · obtain ⟨n, hn, rfl⟩ := List.mem_map.mp hc
      exact Or.inr ⟨n, value?_digit (hlt n hn)⟩
    · exact Or.inl (List.eq_of_mem_replicate hc)
  have hcongr : decodeChars .urlSafe t.toList = decodeChars .standard t.toList := by
    refine decodeChars_congr fun c hc => ?_
    rcases hvalues hx c hc with rfl | ⟨m, hm⟩
    · decide
    · rcases hvalues hy c hc with rfl | ⟨n, hn⟩
      · decide
      · rw [hm, hn, value?_agree hm hn]
  exact Option.some.inj (hx.symm.trans (hcongr.trans hy))

/-! ### Texts -/

/-- **The text of bytes is read back as those bytes.** -/
theorem decode_encode (a : Alphabet) (bytes : List UInt8) :
    decode a (encode a bytes) = some bytes := by
  rw [decode, encode, String.toList_ofList, decodeChars_encodeChars]

/-- **No other text is read.** -/
theorem decode_eq_some_iff {s : String} {bytes : List UInt8} :
    decode a s = some bytes ↔ s = encode a bytes := by
  constructor
  · intro h
    rw [encode, encodeChars_of_decodeChars h, String.ofList_toList]
  · rintro rfl
    exact decode_encode a bytes

/-- Only digits and padding stand in the text of bytes. -/
theorem forall_mem_encodeChars {P : Char → Prop} (hdigit : ∀ n < 64, P (digit a n))
    (hpadding : P '=') (bytes : List UInt8) : ∀ c ∈ encodeChars a ['='] bytes, P c := by
  have hgroup : ∀ x y z : UInt8, ∀ c ∈ group a x.toNat y.toNat z.toNat, P c := by
    intro x y z c hc
    obtain ⟨hx, hy, hz, hw⟩ := group_lt x.toNat_lt y.toNat_lt z.toNat_lt
    simp only [group, List.mem_cons, List.not_mem_nil, or_false] at hc
    rcases hc with rfl | rfl | rfl | rfl
    · exact hdigit _ hx
    · exact hdigit _ hy
    · exact hdigit _ hz
    · exact hdigit _ hw
  have hpad : ∀ c ∈ ['='], P c := List.forall_mem_singleton.mpr hpadding
  intro c hc
  fun_induction encodeChars a ['='] bytes with
  | case1 => exact absurd hc List.not_mem_nil
  | case2 x =>
    rcases List.mem_append.mp hc with hc | hc
    · rcases List.mem_append.mp hc with hc | hc
      · exact hgroup x 0 0 c (List.mem_of_mem_take hc)
      · exact hpad c hc
    · exact hpad c hc
  | case3 x y =>
    rcases List.mem_append.mp hc with hc | hc
    · exact hgroup x y 0 c (List.mem_of_mem_take hc)
    · exact hpad c hc
  | case4 x y z rest ih =>
    rcases List.mem_append.mp hc with hc | hc
    · exact hgroup x y z c hc
    · exact ih hc

/-- No blank stands in the text of bytes. -/
theorem isBlank_of_mem_encodeChars {c : Char} {bytes : List UInt8}
    (hc : c ∈ encodeChars a ['='] bytes) : Text.isBlank c = false := by
  exact forall_mem_encodeChars (P := fun c => Text.isBlank c = false)
    (fun _ hn => isBlank_digit a hn) (by decide) bytes c hc

/-- Trimming does not change the text of bytes. -/
theorem trim_encode (a : Alphabet) (bytes : List UInt8) :
    Text.trim (encode a bytes) = encode a bytes := by
  apply Text.trim_eq_self
  rw [encode, String.toList_ofList]
  exact fun _ => isBlank_of_mem_encodeChars

end Base64

end SmartPlaylist
