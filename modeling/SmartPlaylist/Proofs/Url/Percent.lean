import SmartPlaylist.Url.Percent

/-!
# Percent encoding and back

A byte written as a percent sign and two digits is read as that byte, whatever follows it.  In a
text that is read so anyway, a character may be written as its bytes as long as it is no percent
sign and no digit: no sign before it then gains or loses its two digits.

## Main definitions

* `Percent.escape` — a character as its percent-encoded bytes.
* `Percent.beginsWithByte` — whether a percent sign before a text would stand for a byte.
* `Percent.Writes` — a way to write characters that may escape some of them.

## Main results

* `Percent.decode_escape` — an escaped character is read as its bytes.
* `Percent.decode_flatMap` — **escaping characters does not change what a text is read as.**
-/

namespace SmartPlaylist.Url.Percent

/-! ### Bytes -/

theorem hexValue?_hexDigit : ∀ n < 16, Text.hexValue? (hexDigit n) = some n := by decide

/-- A byte is read back, and reading goes on behind it. -/
theorem decode_encodeByte (b : UInt8) (rest : List Char) :
    decode (encodeByte b ++ rest) = b :: decode rest := by
  have hbyte : b.toNat < 256 := b.toNat_lt
  have hhigh := hexValue?_hexDigit (b.toNat / 16) (by omega)
  have hlow := hexValue?_hexDigit (b.toNat % 16) (by omega)
  have hsum : b.toNat / 16 * 16 + b.toNat % 16 = b.toNat := by omega
  simp only [encodeByte, List.cons_append, List.nil_append, decode, hhigh, hlow, hsum]
  rw [Nat.toUInt8_eq, UInt8.ofNat_toNat]

/-- So are several bytes. -/
theorem decode_encodeBytes (bytes : List UInt8) (rest : List Char) :
    decode (bytes.flatMap encodeByte ++ rest) = bytes ++ decode rest := by
  induction bytes with
  | nil => rfl
  | cons b bytes ih =>
    rw [List.flatMap_cons, List.append_assoc, decode_encodeByte, ih, List.cons_append]

/-- A character as its percent-encoded bytes. -/
def escape (c : Char) : List Char := (String.utf8EncodeChar c).flatMap encodeByte

/-- **An escaped character is read as its bytes.** -/
theorem decode_escape (c : Char) (rest : List Char) :
    decode (escape c ++ rest) = String.utf8EncodeChar c ++ decode rest :=
  decode_encodeBytes _ rest

/-- So is any other than the percent sign. -/
theorem decode_of_ne {c : Char} (hc : c ≠ '%') (rest : List Char) :
    decode (c :: rest) = String.utf8EncodeChar c ++ decode rest := by
  rw [decode]
  rintro a b more heq
  exact absurd heq hc

/-! ### Percent signs -/

/-- Whether a percent sign before a text would stand for a byte. -/
def beginsWithByte : List Char → Bool
  | a :: b :: _ => (Text.hexValue? a).isSome && (Text.hexValue? b).isSome
  | _ => false

/-- A percent sign that stands for no byte stands for itself. -/
theorem decode_percent {cs : List Char} (h : beginsWithByte cs = false) :
    decode ('%' :: cs) = String.utf8EncodeChar '%' ++ decode cs := by
  match cs with
  | [] => rfl
  | [a] => rfl
  | a :: b :: rest =>
    rw [decode]
    cases ha : Text.hexValue? a with
    | none => rfl
    | some x =>
      cases hb : Text.hexValue? b with
      | none => rfl
      | some y =>
        rw [beginsWithByte, ha, hb] at h
        nomatch h

/-- One that stands for a byte does so with two digits. -/
theorem exists_of_beginsWithByte {cs : List Char} (h : beginsWithByte cs = true) :
    ∃ a b rest x y, cs = a :: b :: rest ∧
      Text.hexValue? a = some x ∧ Text.hexValue? b = some y := by
  match cs with
  | [] => nomatch h
  | [a] => nomatch h
  | a :: b :: rest =>
    obtain ⟨ha, hb⟩ := Bool.and_eq_true_iff.mp h
    obtain ⟨x, hx⟩ := Option.isSome_iff_exists.mp ha
    obtain ⟨y, hy⟩ := Option.isSome_iff_exists.mp hb
    exact ⟨a, b, rest, x, y, rfl, hx, hy⟩

/-- What holds of the percent sign and of the digits holds of every character that an escaped one is
written with. -/
theorem forall_mem_escape {p : Char → Prop} (hsign : p '%') (hdigit : ∀ n < 16, p (hexDigit n))
    (c : Char) : ∀ d ∈ escape c, p d := by
  intro d hd
  obtain ⟨b, -, hb⟩ := List.mem_flatMap.mp hd
  have hbyte : b.toNat < 256 := b.toNat_lt
  simp only [encodeByte, List.mem_cons, List.not_mem_nil, or_false] at hb
  rcases hb with rfl | rfl | rfl
  · exact hsign
  · exact hdigit _ (by omega)
  · exact hdigit _ (by omega)

/-- What is escaped begins with a percent sign. -/
theorem exists_escape_eq_cons (c : Char) : ∃ more, escape c = '%' :: more := by
  have hne : String.utf8EncodeChar c ≠ [] := by
    intro hnil
    have hsize := String.length_utf8EncodeChar c
    rw [hnil, List.length_nil] at hsize
    exact absurd hsize.symm (Nat.ne_of_gt c.utf8Size_pos)
  obtain ⟨b, bytes, hbytes⟩ := List.exists_cons_of_ne_nil hne
  exact ⟨_, by rw [escape, hbytes, List.flatMap_cons, encodeByte, List.cons_append]⟩

/-! ### Characters that may be escaped -/

/-- Each character is written as one other, or as the bytes of that; a percent sign and a digit are
written as they are. -/
def Writes (f : Char → List Char) (g : Char → Char) : Prop :=
  ∀ c, f c = [g c] ∨ g c ≠ '%' ∧ Text.hexValue? (g c) = none ∧ f c = escape (g c)

variable {f : Char → List Char} {g : Char → Char}

theorem Writes.of_digit (h : Writes f g) {c : Char} {x : Nat} (hc : Text.hexValue? (g c) = some x) :
    f c = [g c] := by
  rcases h c with hf | ⟨-, hnone, -⟩
  · exact hf
  · rw [hnone] at hc
    nomatch hc

/-- Escaping neither gives a percent sign its digits nor takes them from it. -/
theorem Writes.beginsWithByte (h : Writes f g) (cs : List Char) :
    beginsWithByte (cs.flatMap f) = beginsWithByte (cs.map g) := by
  have hsign : Text.hexValue? '%' = none := by decide
  cases cs with
  | nil => rfl
  | cons a cs =>
    rcases h a with ha | ⟨-, ha, hf⟩
    · rw [List.flatMap_cons, ha, List.map_cons]
      cases cs with
      | nil => rfl
      | cons b cs =>
        rcases h b with hb | ⟨-, hb, hf⟩
        · rw [List.flatMap_cons, hb]
          rfl
        · obtain ⟨more, hmore⟩ := exists_escape_eq_cons (g b)
          rw [List.flatMap_cons, hf, hmore, List.map_cons]
          simp [Percent.beginsWithByte, hb, hsign]
    · -- what was no digit is a percent sign now
      obtain ⟨more, hmore⟩ := exists_escape_eq_cons (g a)
      rw [List.flatMap_cons, hf, hmore, List.map_cons]
      cases hcs : more ++ cs.flatMap f <;> cases cs.map g <;>
        simp [Percent.beginsWithByte, ha, hsign, hcs]

/-- **Escaping characters does not change what a text is read as.** -/
theorem decode_flatMap (h : Writes f g) (cs : List Char) :
    decode (cs.flatMap f) = decode (cs.map g) := by
  match cs with
  | [] => rfl
  | c :: cs =>
    rw [List.flatMap_cons, List.map_cons]
    by_cases hc : g c = '%'
    · have hf : f c = ['%'] := by
        rcases h c with hf | ⟨hne, -⟩
        · rw [hf, hc]
        · exact absurd hc hne
      rw [hf, hc, List.cons_append, List.nil_append]
      cases hbyte : beginsWithByte (cs.map g) with
      | false =>
        rw [decode_percent hbyte, decode_percent ((h.beginsWithByte cs).trans hbyte),
          decode_flatMap h cs]
      | true =>
        -- both digits are written as they are, and reading goes on behind them
        obtain ⟨_, _, _, x, y, hcs, hx, hy⟩ := exists_of_beginsWithByte hbyte
        match cs, hcs with
        | a :: b :: rest, rfl =>
          rw [List.flatMap_cons, List.flatMap_cons, h.of_digit hx, h.of_digit hy]
          simp only [List.cons_append, List.nil_append, List.map_cons, decode, hx, hy,
            decode_flatMap h rest]
    · rw [decode_of_ne hc, ← decode_flatMap h cs]
      rcases h c with hf | ⟨-, -, hf⟩
      · rw [hf, List.cons_append, List.nil_append, decode_of_ne hc]
      · rw [hf, decode_escape]

/-! ### What the parts of a URL may hold -/

theorem printableExcept_iff {refused : String} {c : Char} :
    printableExcept refused c = true ↔ isPrintable c = true ∧ c ∉ refused.toList := by
  rw [printableExcept, String.contains_char_eq, Bool.and_eq_true, Bool.not_eq_true',
    decide_eq_false_iff_not]

/-- The capitals, the small letters and the digits, by their numbers. -/
theorem isAlphanum_iff {c : Char} : c.isAlphanum = true ↔
    ((65 ≤ c.toNat ∧ c.toNat ≤ 90) ∨ (97 ≤ c.toNat ∧ c.toNat ≤ 122)) ∨
      (48 ≤ c.toNat ∧ c.toNat ≤ 57) := by
  have hcapital : c.isUpper = true ↔ 65 ≤ c.toNat ∧ c.toNat ≤ 90 := decide_eq_true_iff
  have hsmall : c.isLower = true ↔ 97 ≤ c.toNat ∧ c.toNat ≤ 122 :=
    Bool.and_eq_true_iff.trans (and_congr decide_eq_true_iff decide_eq_true_iff)
  have hdigit : c.isDigit = true ↔ 48 ≤ c.toNat ∧ c.toNat ≤ 57 :=
    Bool.and_eq_true_iff.trans (and_congr decide_eq_true_iff decide_eq_true_iff)
  have hletter : c.isAlpha = true ↔ _ := Bool.or_eq_true_iff.trans (or_congr hcapital hsmall)
  exact Bool.or_eq_true_iff.trans (or_congr hletter hdigit)

/-- A hexadecimal digit is a letter or a digit. -/
theorem isAlphanum_of_hexValue? {c : Char} {x : Nat} (h : Text.hexValue? c = some x) :
    c.isAlphanum = true := by
  have hin : ('0' ≤ c ∧ c ≤ '9') ∨ ('a' ≤ c ∧ c ≤ 'f') ∨ ('A' ≤ c ∧ c ≤ 'F') := by
    rw [Text.hexValue?] at h
    split at h
    next hdigit => exact .inl hdigit
    next =>
      split at h
      next hlower => exact .inr (.inl hlower)
      next =>
        split at h
        next hupper => exact .inr (.inr hupper)
        next => nomatch h
  simp only [Char.le_def, UInt32.le_iff_toNat_le, Char.reduceVal, UInt32.reduceToNat] at hin
  rw [isAlphanum_iff, Char.toNat]
  omega

/-- A part that refuses no letter and no digit may hold all of them. -/
theorem printableExcept_of_isAlphanum {refused : String} {c : Char}
    (h : refused.toList.any Char.isAlphanum = false) (hc : c.isAlphanum = true) :
    printableExcept refused c = true := by
  rw [printableExcept_iff]
  constructor
  · rw [isAlphanum_iff] at hc
    rw [isPrintable, Bool.and_eq_true, decide_eq_true_eq, decide_eq_true_eq]
    omega
  · intro hmem
    exact absurd hc (List.any_eq_false.mp h c hmem)

end SmartPlaylist.Url.Percent
