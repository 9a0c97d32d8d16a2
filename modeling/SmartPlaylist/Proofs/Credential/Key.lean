import SmartPlaylist.Authorization.Pkce
import SmartPlaylist.Proofs.Codec.Base64

/-!
# Which texts are keys

A key is accepted in one written form for each alphabet, with any blanks around it.  That form has
forty-three digits and one padding character; the last two bits of its digits belong to no byte and
are zero.  A text that is nothing but blanks counts as no key at all, and any other text is refused.

Trying the standard alphabet only where the URL-safe one fails loses no key: what both alphabets
read they read alike.

## Main results

* `CipherKey.decode?_eq_some_iff` — what is read in either alphabet is the text of its bytes.
* `CipherKey.parse_eq_ok_iff` — **the accepted texts are the texts of the key.**
* `CipherKey.parse_verdict` — **the verdict on every text**, and that a key is the same key in
  either alphabet.
-/

namespace SmartPlaylist.CipherKey

open Base64 (Alphabet)

variable {s : String} (k : CipherKey)

/-! ### The text of a key -/

/-- The text of a key: forty-three digits and one padding character.  The digits denote the number
that the bytes denote, and two bits more that are zero. -/
theorem exists_digits (a : Alphabet) : ∃ values : List Nat, values.length = 43 ∧
    (∀ v ∈ values, v < 64) ∧
    Base64.encode a k.bytes = String.ofList (values.map (Base64.digit a) ++ ['=']) ∧
    Nat.ofDigits 64 values.reverse = 4 * Nat.ofDigits 256 (k.bytes.map UInt8.toNat).reverse := by
  obtain ⟨values, pad, htext, hlt, hpad, hlength, hnumber⟩ := Base64.exists_values a k.bytes
  rw [k.length_eq] at hlength
  -- six bits a digit: 256 bits need 43 digits, and two of their bits stay free
  obtain rfl : pad = 1 := by omega
  refine ⟨values, by omega, hlt, ?_, hnumber⟩
  rw [Base64.encode, htext]
  rfl

theorem encode_ne_empty (a : Alphabet) : Base64.encode a k.bytes ≠ "" := by
  intro hempty
  obtain ⟨values, -, -, htext, -⟩ := k.exists_digits a
  rw [hempty, eq_comm, String.ofList_eq_empty_iff] at htext
  exact List.append_ne_nil_of_right_ne_nil _ (List.cons_ne_nil _ _) htext

/-- No blank stands in the text of a key. -/
theorem isBlank_of_mem_encode {a : Alphabet} {c : Char}
    (hc : c ∈ (Base64.encode a k.bytes).toList) : Text.isBlank c = false := by
  rw [Base64.encode, String.toList_ofList] at hc
  exact Base64.isBlank_of_mem_encodeChars hc

/-- What is read in either alphabet is the text of its bytes. -/
theorem decode?_eq_some_iff {bytes : List UInt8} :
    decode? s = some bytes ↔ ∃ a, s = Base64.encode a bytes := by
  unfold decode?
  cases hurl : Base64.decode .urlSafe s with
  | some found =>
    constructor
    · intro h
      obtain rfl := Option.some.inj h
      exact ⟨.urlSafe, Base64.decode_eq_some_iff.mp hurl⟩
    · rintro ⟨a, ha⟩
      have hread : Base64.decode a s = some bytes := Base64.decode_eq_some_iff.mpr ha
      cases a with
      | urlSafe => exact hurl.symm.trans hread
      | standard => exact congrArg some (Base64.decode_agree hurl hread)
  | none =>
    constructor
    · intro h
      exact ⟨.standard, Base64.decode_eq_some_iff.mp h⟩
    · rintro ⟨a, ha⟩
      have hread : Base64.decode a s = some bytes := Base64.decode_eq_some_iff.mpr ha
      cases a with
      | urlSafe => nomatch hurl.symm.trans hread
      | standard => exact hread

/-- Blanks are no key. -/
theorem parse_of_blank (h : Text.isBlankText s = true) : parse s = .error .missingKey := by
  have hempty : (Text.trim s).isEmpty = true := by
    rw [String.isEmpty_iff, Text.trim_eq_empty_iff]
    exact h
  simp only [parse, hempty, if_true]

/-- The text of a key is read as that key, in either alphabet. -/
theorem parse_of_text {k : CipherKey} {a : Alphabet} (h : Text.trim s = Base64.encode a k.bytes) :
    parse s = .ok k := by
  have hempty : ¬(Text.trim s).isEmpty = true := by
    rw [String.isEmpty_iff, h]
    exact k.encode_ne_empty a
  have hread : decode? (Text.trim s) = some k.bytes := decode?_eq_some_iff.mpr ⟨a, h⟩
  simp only [parse, if_neg hempty, hread, dif_pos k.length_eq]

/-- Any other text is refused. -/
theorem parse_of_other (hblank : Text.isBlankText s = false)
    (h : ∀ (k : CipherKey) (a : Alphabet), Text.trim s ≠ Base64.encode a k.bytes) :
    parse s = .error .invalidKey := by
  have hempty : ¬(Text.trim s).isEmpty = true := by
    rw [String.isEmpty_iff, Text.trim_eq_empty_iff, hblank]
    exact Bool.false_ne_true
  cases hread : decode? (Text.trim s) with
  | none => simp only [parse, if_neg hempty, hread]
  | some bytes =>
    obtain ⟨a, ha⟩ := decode?_eq_some_iff.mp hread
    -- the text of thirty-two bytes would be that of a key
    have hlength : ¬bytes.length = 32 := fun hlength => h ⟨bytes, hlength⟩ a ha
    simp only [parse, if_neg hempty, hread, dif_neg hlength]

/-- The three cases of a text. -/
theorem cases_text (s : String) : Text.isBlankText s = true ∨
    (∃ (k : CipherKey) (a : Alphabet), Text.trim s = Base64.encode a k.bytes) ∨
    Text.isBlankText s = false ∧
      ∀ (k : CipherKey) (a : Alphabet), Text.trim s ≠ Base64.encode a k.bytes := by
  by_cases htext : ∃ (k : CipherKey) (a : Alphabet), Text.trim s = Base64.encode a k.bytes
  · exact Or.inr (Or.inl htext)
  · rw [not_exists] at htext
    simp only [not_exists] at htext
    cases hblank : Text.isBlankText s with
    | true => exact Or.inl rfl
    | false => exact Or.inr (Or.inr ⟨rfl, htext⟩)

/-- A key is missing exactly where there is nothing but blanks. -/
theorem parse_eq_missing_iff : parse s = .error .missingKey ↔ Text.isBlankText s = true := by
  refine ⟨fun h => ?_, parse_of_blank⟩
  rcases cases_text s with hblank | ⟨k, a, htext⟩ | ⟨hblank, hother⟩
  · exact hblank
  · rw [parse_of_text htext] at h
    nomatch h
  · rw [parse_of_other hblank hother] at h
    nomatch h

/-- **The accepted texts are the texts of the key**, with any blanks around them. -/
theorem parse_eq_ok_iff {k : CipherKey} :
    parse s = .ok k ↔ ∃ a, Text.trim s = Base64.encode a k.bytes := by
  refine ⟨fun h => ?_, fun ⟨a, htext⟩ => parse_of_text htext⟩
  rcases cases_text s with hblank | ⟨own, a, htext⟩ | ⟨hblank, hother⟩
  · rw [parse_of_blank hblank] at h
    nomatch h
  · rw [parse_of_text htext] at h
    obtain rfl := Except.ok.inj h
    exact ⟨a, htext⟩
  · rw [parse_of_other hblank hother] at h
    nomatch h

theorem parse_eq_invalid_iff : parse s = .error .invalidKey ↔ Text.isBlankText s = false ∧
    ∀ (k : CipherKey) (a : Alphabet), Text.trim s ≠ Base64.encode a k.bytes := by
  refine ⟨fun h => ?_, fun ⟨hblank, hother⟩ => parse_of_other hblank hother⟩
  rcases cases_text s with hblank | ⟨k, a, htext⟩ | hother
  · rw [parse_of_blank hblank] at h
    nomatch h
  · rw [parse_of_text htext] at h
    nomatch h
  · exact hother

/-- A key is read from its text in either alphabet, whatever blanks are around it. -/
theorem parse_encode {before after : String} (a : Alphabet)
    (hbefore : Text.isBlankText before = true) (hafter : Text.isBlankText after = true) :
    parse (before ++ Base64.encode a k.bytes ++ after) = .ok k :=
  parse_of_text (Text.trim_append_append hbefore hafter fun _ hc => k.isBlank_of_mem_encode hc)

/-- The text of a key is read back as that key. -/
theorem parse_text : parse k.text = .ok k :=
  parse_of_text (Base64.trim_encode .urlSafe k.bytes)

/-- **The verdict on every text.**  Of blanks alone, no key is there.  A text is accepted exactly if
it is, without the blanks around it, the base 64 text of thirty-two bytes in one of the alphabets,
and gives those bytes; any other is refused.  That text has forty-three digits of its alphabet and
one padding character, and its digits denote the number of the bytes with two zero bits behind it.
So whatever blanks are put around it, a key is the same key in either alphabet, and any random key
is accepted as it is printed. -/
theorem parse_verdict (s : String) :
    (parse s = .error .missingKey ↔ Text.isBlankText s = true) ∧
    (∀ k, parse s = .ok k ↔ ∃ a, Text.trim s = Base64.encode a k.bytes) ∧
    (parse s = .error .invalidKey ↔ Text.isBlankText s = false ∧
      ∀ (k : CipherKey) (a : Alphabet), Text.trim s ≠ Base64.encode a k.bytes) ∧
    (∀ e, parse s = .error e → e = .missingKey ∨ e = .invalidKey) ∧
    (∀ (k : CipherKey) (a : Alphabet), ∃ values : List Nat, values.length = 43 ∧
      (∀ v ∈ values, v < 64) ∧
      Base64.encode a k.bytes = String.ofList (values.map (Base64.digit a) ++ ['=']) ∧
      Nat.ofDigits 64 values.reverse
        = 4 * Nat.ofDigits 256 (k.bytes.map UInt8.toNat).reverse) ∧
    (∀ (k : CipherKey) (a : Alphabet) (before after : String), Text.isBlankText before = true →
      Text.isBlankText after = true →
      parse (before ++ Base64.encode a k.bytes ++ after) = .ok k) ∧
    ∀ word, parse (random word).text = .ok (random word) := by
  refine ⟨parse_eq_missing_iff, fun _ => parse_eq_ok_iff, parse_eq_invalid_iff, ?_, exists_digits,
    fun k a _ _ => k.parse_encode a, fun word => (random word).parse_text⟩
  intro e he
  rcases cases_text s with hblank | ⟨k, a, htext⟩ | ⟨hblank, hother⟩
  · rw [parse_of_blank hblank] at he
    exact Or.inl (Except.error.inj he).symm
  · rw [parse_of_text htext] at he
    nomatch he
  · rw [parse_of_other hblank hother] at he
    exact Or.inr (Except.error.inj he).symm

/-- The key of ones alone, in whose texts the alphabets differ. -/
def ones : CipherKey := ⟨List.replicate 32 255, List.length_replicate ..⟩

/-- Both texts of one key are accepted, with blanks around one of them; blanks alone are no key. -/
theorem parse_ones : parse "\t//////////////////////////////////////////8= \n" = .ok ones ∧
    parse "__________________________________________8=" = .ok ones ∧
    parse (" " ++ Base64.encode .urlSafe ones.bytes ++ "") = .ok ones ∧
    parse " \n" = .error .missingKey := by
  obtain ⟨-, hstandard, -⟩ := parse_verdict "\t//////////////////////////////////////////8= \n"
  obtain ⟨-, hurl, -⟩ := parse_verdict "__________________________________________8="
  obtain ⟨hmissing, -, -, -, -, hspaced, -⟩ := parse_verdict " \n"
  exact ⟨(hstandard ones).mpr ⟨.standard, by decide +kernel⟩,
    (hurl ones).mpr ⟨.urlSafe, by decide +kernel⟩,
    hspaced ones .urlSafe " " "" (by decide) (by decide), hmissing.mpr (by decide)⟩

end SmartPlaylist.CipherKey
