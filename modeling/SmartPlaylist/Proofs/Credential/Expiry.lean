import Mathlib.Algebra.Ring.Nat
import SmartPlaylist.Credential.Token

/-!
# When a token expires

A token ends as many seconds after it was obtained as the service says, and it counts as expired
from four minutes before that on.  The two sums that are compared are sums of 64-bit words.  The one
with the time of day always fits in a word; the other one does not for a lifetime that reaches beyond
the last second that a word can count, and then there is no judgement at all.  Every judgement that
there is, is right.

## Main definitions

* `Token.ending`, `Token.IsDue` — when a token ends, and whether a fresh one is due, in unbounded
  numbers.

## Main results

* `Token.sum?_eq_some_iff` — a sum of words is exact, if there is one.
* `Token.isExpiredAt?_eq_some_iff` — **a judgement is right**, and there is one if the sums fit.
* `Token.isExpiredAt?_eq_none_iff` — when there is none.
* `Token.expiry_exact` — both sums, the judgement, and lifetimes compared.
-/

namespace SmartPlaylist.Token

variable {t t' : Token} {now : UInt64}

/-- The second at which a token ends. -/
def ending (t : Token) : Nat := t.obtainedAt.toNat + t.expiresIn.toNat

/-- The token ends within four minutes, or has ended. -/
def IsDue (t : Token) (now : UInt64) : Prop := t.ending ≤ now.toNat + 240

instance (t : Token) (now : UInt64) : Decidable (t.IsDue now) := Nat.decLe _ _

/-! ### Sums -/

section Sums

variable {a b n : UInt64}

/-- A sum of words is exact, if there is one. -/
theorem sum?_eq_some_iff : sum? a b = some n ↔ n.toNat = a.toNat + b.toNat := by
  unfold sum?
  split
  next hfits =>
    have hsum : (a + b).toNat = a.toNat + b.toNat := by
      rw [UInt64.toNat_add]
      exact Nat.mod_eq_of_lt hfits
    rw [Option.some_inj, ← hsum, UInt64.toNat_inj]
    exact eq_comm
  next hlarge =>
    constructor
    · intro h
      nomatch h
    · intro h
      rw [← h] at hlarge
      exact absurd n.toNat_lt hlarge

/-- There is a sum if it fits in a word. -/
theorem sum?_eq_none_iff : sum? a b = none ↔ 2 ^ 64 ≤ a.toNat + b.toNat := by
  unfold sum?
  split
  next hfits => exact iff_of_false (Option.some_ne_none _) (Nat.not_le.mpr hfits)
  next hlarge => exact iff_of_true rfl (Nat.not_lt.mp hlarge)

end Sums

/-- There is room for the margin above any time of the next centuries. -/
theorem exists_soon (hnow : now.toNat < 2 ^ 63) :
    ∃ soon, sum? now expiryMargin = some soon ∧ soon.toNat = now.toNat + 240 := by
  have hmargin : expiryMargin.toNat = 240 := rfl
  cases hsoon : sum? now expiryMargin with
  | none =>
    have hlarge := sum?_eq_none_iff.mp hsoon
    omega
  | some soon =>
    have hexact := sum?_eq_some_iff.mp hsoon
    exact ⟨soon, rfl, hexact⟩

/-! ### Judgements -/

/-- There is no judgement where a sum does not fit in a word. -/
theorem isExpiredAt?_eq_none_iff :
    t.isExpiredAt? now = none ↔ 2 ^ 64 ≤ now.toNat + 240 ∨ 2 ^ 64 ≤ t.ending := by
  have hmargin : expiryMargin.toNat = 240 := rfl
  unfold isExpiredAt? ending
  rw [← sum?_eq_none_iff, ← hmargin, ← sum?_eq_none_iff]
  cases sum? now expiryMargin with
  | none => simp
  | some soon => cases sum? t.obtainedAt t.expiresIn <;> simp

/-- **A judgement is right**, and there is one if both sums fit in a word. -/
theorem isExpiredAt?_eq_some_iff {expired : Bool} :
    t.isExpiredAt? now = some expired ↔
      now.toNat + 240 < 2 ^ 64 ∧ t.ending < 2 ^ 64 ∧ (expired = true ↔ t.IsDue now) := by
  rcases hjudged : t.isExpiredAt? now with _ | judged
  · have hlarge := isExpiredAt?_eq_none_iff.mp hjudged
    constructor
    · intro h
      nomatch h
    · rintro ⟨hsoon, hending, -⟩
      omega
  · have hfits : ¬(2 ^ 64 ≤ now.toNat + 240 ∨ 2 ^ 64 ≤ t.ending) := by
      rw [← isExpiredAt?_eq_none_iff, hjudged]
      exact Option.some_ne_none judged
    obtain ⟨soon, hsoon, hjudged⟩ := Option.bind_eq_some_iff.mp hjudged
    obtain ⟨last, hlast, hjudged⟩ := Option.bind_eq_some_iff.mp hjudged
    -- the words that are compared are the sums
    have hdue : judged = true ↔ t.IsDue now := by
      rw [← Option.some.inj hjudged, decide_eq_true_iff, UInt64.le_iff_toNat_le,
        sum?_eq_some_iff.mp hlast, sum?_eq_some_iff.mp hsoon]
      rfl
    rw [Option.some_inj, ← hdue, Bool.eq_iff_iff]
    constructor
    · intro h
      exact ⟨by omega, by omega, h.symm⟩
    · rintro ⟨-, -, h⟩
      exact h.symm

/-- A token that ends no later than an expired one is expired as well. -/
theorem isExpiredAt?_of_ending_le (hle : t'.ending ≤ t.ending)
    (hexpired : t.isExpiredAt? now = some true) : t'.isExpiredAt? now = some true := by
  obtain ⟨hsoon, hending, hdue⟩ := isExpiredAt?_eq_some_iff.mp hexpired
  apply isExpiredAt?_eq_some_iff.mpr
  refine ⟨hsoon, Nat.lt_of_le_of_lt hle hending, iff_of_true rfl ?_⟩
  exact Nat.le_trans hle (hdue.mp rfl)

/-- **The judgement of a fresh token.**  The time and the margin never add up to more than a word.
There is no judgement exactly when the token ends beyond the last second that a word can count, and
any other judgement is right.  Of two tokens obtained at once, the one with the longer lifetime is
not judged expired before the other one. -/
theorem expiry_exact (r : TokenResponse) (previous : Option String) (obtained : UInt64)
    (hnow : now.toNat < 2 ^ 63) :
    (∃ soon, sum? now expiryMargin = some soon ∧ soon.toNat = now.toNat + 240) ∧
      ((ofResponse r previous obtained).isExpiredAt? now = none ↔
        2 ^ 64 ≤ obtained.toNat + r.expiresIn.toNat) ∧
      (∀ expired, (ofResponse r previous obtained).isExpiredAt? now = some expired ↔
        obtained.toNat + r.expiresIn.toNat < 2 ^ 64 ∧
          (expired = true ↔ obtained.toNat + r.expiresIn.toNat ≤ now.toNat + 240)) ∧
      ∀ (shorter : TokenResponse) (previous' : Option String),
        shorter.expiresIn ≤ r.expiresIn →
        (ofResponse r previous obtained).isExpiredAt? now = some true →
        (ofResponse shorter previous' obtained).isExpiredAt? now = some true := by
  have hsoon : now.toNat + 240 < 2 ^ 64 := by omega
  refine ⟨exists_soon hnow, ?_, ?_, ?_⟩
  · rw [isExpiredAt?_eq_none_iff, or_iff_right (Nat.not_le.mpr hsoon)]
    rfl
  · intro expired
    rw [isExpiredAt?_eq_some_iff, and_iff_right hsoon]
    rfl
  · intro shorter previous' hle
    exact isExpiredAt?_of_ending_le
      (Nat.add_le_add_left (UInt64.le_iff_toNat_le.mp hle) obtained.toNat)

/-! #### A token that lasts practically for ever -/

/-- The answer with a token of that lifetime. -/
def lasting (seconds : UInt64) : TokenResponse := ⟨"access", some "refresh", "", seconds⟩

/-- A token for an hour, from the year 2023, is judged expired four minutes before its end, and so is
one that ended at once. -/
theorem expiry_hour :
    (ofResponse (lasting 3600) none 1700000000).isExpiredAt? 1700003360 = some true ∧
      (ofResponse (lasting 0) none 1700000000).isExpiredAt? 1700003360 = some true := by
  obtain ⟨-, -, hright, hshorter⟩ :=
    expiry_exact (lasting 3600) none 1700000000
      (show (1700003360 : UInt64).toNat < 2 ^ 63 by decide)
  have hexpired := (hright true).mpr ⟨by decide, by decide⟩
  exact ⟨hexpired, hshorter (lasting 0) none (by decide) hexpired⟩

/-- There is no judgement of the longest lifetime there is, which is far from its end; an hour is
judged. -/
theorem expiry_endless :
    (ofResponse (lasting 18446744073709551615) none 1700000000).isExpiredAt? 1700000000 = none ∧
      ¬1700000000 + 18446744073709551615 ≤ 1700000000 + 240 ∧
      (ofResponse (lasting 3600) none 1700000000).isExpiredAt? 1700000000 = some false := by
  decide

end SmartPlaylist.Token
