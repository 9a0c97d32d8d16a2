import SmartPlaylist.Text.Utf8

/-!
# UTF-8 and back

The bytes of a character are read back as that character, whatever follows them: the first byte
says how many more there are, and their payloads are its bits.  A character that needs more bytes
is above all that need fewer, and no character is a surrogate, so the second byte is never out of
the bounds that the first one sets.

## Main results

* `Utf8.step_one`, …, `Utf8.step_four` — one character, by its number of bytes.
* `Utf8.decode_utf8` — **the bytes of a text are read back as its characters.**
-/

namespace SmartPlaylist.Text

namespace Utf8

/-! ### Bytes of numbers -/

theorem toNat_ofNat {a : Nat} (ha : a < 256) : (UInt8.ofNat a).toNat = a := by
  rw [UInt8.toNat_ofNat', Nat.mod_eq_of_lt ha]

theorem shape?_one : ∀ k < 0x80, shape? (.ofNat k) = some (0, 0, 0) := by decide

theorem shape?_two : ∀ k < 0x20, 2 ≤ k → shape? (.ofNat (k + 0xC0)) = some (1, 0x80, 0xBF) := by
  decide

/-- The second of three bytes keeps what needs fewer out, and surrogates. -/
theorem shape?_three : ∀ k < 0x10, shape? (.ofNat (k + 0xE0))
    = some (2, if k = 0 then 0xA0 else 0x80, if k = 0xD then 0x9F else 0xBF) := by decide

/-- The second of four bytes keeps what needs fewer out, and what is no character. -/
theorem shape?_four : ∀ k < 5, shape? (.ofNat (k + 0xF0))
    = some (3, if k = 0 then 0x90 else 0x80, if k = 4 then 0x8F else 0xBF) := by decide

/-- The second byte lies in the bounds that the first one sets. -/
theorem not_outside {low high : UInt8} {s : Nat} (hs : s < 64) (hlow : low.toNat ≤ s + 0x80)
    (hhigh : s + 0x80 ≤ high.toNat) :
    (decide (UInt8.ofNat (s + 0x80) < low) || decide (high < UInt8.ofNat (s + 0x80))) = false := by
  simp only [UInt8.lt_iff_toNat_lt, Bool.or_eq_false_iff, decide_eq_false_iff_not, Nat.not_lt]
  rw [toNat_ofNat (by omega)]
  exact ⟨hlow, hhigh⟩

theorem isContinuation_ofNat {s : Nat} (hs : s < 64) :
    isContinuation (.ofNat (s + 0x80)) = true := by
  have hall : ∀ s < 64, isContinuation (.ofNat (s + 0x80)) = true := by decide
  exact hall s hs

theorem payload_ofNat {s : Nat} (hs : s < 64) : payload (.ofNat (s + 0x80)) = s := by
  rw [payload, toNat_ofNat (by omega)]
  omega

/-! ### One character -/

variable {k s t u : Nat} (rest : List UInt8)

theorem step_one (hk : k < 0x80) : step (.ofNat k) rest = (some (Char.ofNat k), 0) := by
  rw [step, shape?_one k hk]
  show (some (Char.ofNat (UInt8.ofNat k).toNat), 0) = _
  rw [toNat_ofNat (by omega)]

theorem step_two (hk : k < 0x20) (hk' : 2 ≤ k) (hs : s < 64) :
    step (.ofNat (k + 0xC0)) (.ofNat (s + 0x80) :: rest)
      = (some (Char.ofNat (k * 64 + s)), 1) := by
  have hlow : (0x80 : UInt8).toNat ≤ s + 0x80 := Nat.le_add_left _ _
  have hhigh : s + 0x80 ≤ (0xBF : UInt8).toNat := Nat.le_of_lt_succ (Nat.add_lt_add_right hs 0x80)
  have hfirst : (UInt8.ofNat (k + 0xC0)).toNat % 32 = k := by
    rw [toNat_ofNat (by omega)]
    omega
  rw [step, shape?_two k hk hk']
  refine (if_neg (by rw [not_outside hs hlow hhigh]; decide)).trans ?_
  rw [if_pos rfl, hfirst, payload_ofNat hs]

theorem step_three (hk : k < 0x10) (hs : s < 64) (ht : t < 64) (hlow : k = 0 → 0x20 ≤ s)
    (hhigh : k = 0xD → s < 0x20) :
    step (.ofNat (k + 0xE0)) (.ofNat (s + 0x80) :: .ofNat (t + 0x80) :: rest)
      = (some (Char.ofNat (k * 4096 + s * 64 + t)), 2) := by
  have hlow' : (if k = 0 then 0xA0 else 0x80 : UInt8).toNat ≤ s + 0x80 := by
    split
    next h =>
      have := hlow h
      show 0xA0 ≤ s + 0x80
      omega
    next => exact Nat.le_add_left _ _
  have hhigh' : s + 0x80 ≤ (if k = 0xD then 0x9F else 0xBF : UInt8).toNat := by
    split
    next h =>
      have := hhigh h
      show s + 0x80 ≤ 0x9F
      omega
    next =>
      show s + 0x80 ≤ 0xBF
      omega
  have hfirst : (UInt8.ofNat (k + 0xE0)).toNat % 16 = k := by
    rw [toNat_ofNat (by omega)]
    omega
  rw [step, shape?_three k hk]
  refine (if_neg (by rw [not_outside hs hlow' hhigh']; decide)).trans ?_
  rw [if_neg (by decide)]
  refine (if_neg (by rw [isContinuation_ofNat ht]; decide)).trans ?_
  rw [if_pos rfl, hfirst, payload_ofNat hs, payload_ofNat ht]

theorem step_four (hk : k < 5) (hs : s < 64) (ht : t < 64) (hu : u < 64)
    (hlow : k = 0 → 0x10 ≤ s) (hhigh : k = 4 → s < 0x10) :
    step (.ofNat (k + 0xF0)) (.ofNat (s + 0x80) :: .ofNat (t + 0x80) :: .ofNat (u + 0x80) :: rest)
      = (some (Char.ofNat (k * 262144 + s * 4096 + t * 64 + u)), 3) := by
  have hlow' : (if k = 0 then 0x90 else 0x80 : UInt8).toNat ≤ s + 0x80 := by
    split
    next h =>
      have := hlow h
      show 0x90 ≤ s + 0x80
      omega
    next => exact Nat.le_add_left _ _
  have hhigh' : s + 0x80 ≤ (if k = 4 then 0x8F else 0xBF : UInt8).toNat := by
    split
    next h =>
      have := hhigh h
      show s + 0x80 ≤ 0x8F
      omega
    next =>
      show s + 0x80 ≤ 0xBF
      omega
  have hfirst : (UInt8.ofNat (k + 0xF0)).toNat % 8 = k := by
    rw [toNat_ofNat (by omega)]
    omega
  rw [step, shape?_four k hk]
  refine (if_neg (by rw [not_outside hs hlow' hhigh']; decide)).trans ?_
  rw [if_neg (by decide)]
  refine (if_neg (by rw [isContinuation_ofNat ht]; decide)).trans ?_
  rw [if_neg (by decide)]
  refine (if_neg (by rw [isContinuation_ofNat hu]; decide)).trans ?_
  rw [hfirst, payload_ofNat hs, payload_ofNat ht, payload_ofNat hu]

/-- The bytes of a character are read back as the character. -/
theorem decode_utf8EncodeChar (c : Char) (rest : List UInt8) :
    decode (String.utf8EncodeChar c ++ rest) = some c :: decode rest := by
  have hvalid : c.val.toNat < 0xD800 ∨ 0xDFFF < c.val.toNat ∧ c.val.toNat < 0x110000 := c.valid
  have hchar : ∀ m, m = c.val.toNat → Char.ofNat m = c := by
    rintro _ rfl
    exact Char.ofNat_toNat c
  rw [String.utf8EncodeChar]
  -- from here on all is arithmetic on the number of the character
  generalize c.val.toNat = n at hvalid hchar
  split
  next hn =>
    rw [List.cons_append, decode, List.nil_append, step_one rest (by omega), hchar n rfl]
    rfl
  next hn =>
    split
    next hn' =>
      rw [List.cons_append, decode, List.cons_append, List.nil_append,
        step_two rest (by omega) (by omega) (by omega), hchar _ (by omega)]
      rfl
    next hn' =>
      split
      next hn'' =>
        rw [List.cons_append, decode, List.cons_append, List.cons_append, List.nil_append,
          step_three rest (by omega) (by omega) (by omega) (by omega) (by omega),
          hchar _ (by omega)]
        rfl
      next hn'' =>
        rw [List.cons_append, decode, List.cons_append, List.cons_append, List.cons_append,
          List.nil_append,
          step_four rest (by omega) (by omega) (by omega) (by omega) (by omega) (by omega),
          hchar _ (by omega)]
        rfl

/-- **The bytes of a text are read back as its characters.** -/
theorem decode_utf8 (s : String) : decode (utf8 s) = s.toList.map some := by
  rw [utf8]
  induction s.toList with
  | nil => rw [List.flatMap_nil, decode, List.map_nil]
  | cons c cs ih => rw [List.flatMap_cons, decode_utf8EncodeChar, ih, List.map_cons]

end Utf8

end SmartPlaylist.Text
