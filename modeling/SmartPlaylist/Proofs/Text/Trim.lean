import Mathlib.Data.List.TakeWhile
import SmartPlaylist.Text.Blank

/-!
# Trimmed texts

Trimming takes blanks away at both ends and nothing else: nothing is left exactly of a text of
blanks alone, and a text without blanks is left whole, whatever blanks surround it.

## Main results

* `Text.trim_eq_empty_iff` — nothing is left of a text of blanks alone.
* `Text.trim_append_append` — blanks around a text do not count.
-/

namespace SmartPlaylist.Text

variable {s before after : String}

theorem isBlankText_iff : isBlankText s = true ↔ ∀ c ∈ s.toList, isBlank c = true :=
  List.all_eq_true

theorem toList_trim (s : String) :
    (trim s).toList = ((s.toList.dropWhile isBlank).reverse.dropWhile isBlank).reverse := by
  rw [trim, trimEnd, trimStart, String.toList_ofList, String.toList_ofList]

/-- What begins with no blank has none to drop in front. -/
theorem dropWhile_isBlank_eq_self {cs : List Char} (h : ∀ c ∈ cs, isBlank c = false) :
    cs.dropWhile isBlank = cs := by
  cases cs with
  | nil => rfl
  | cons c cs => rw [List.dropWhile_cons, h c (List.mem_cons_self ..), if_neg (by decide)]

/-- **Nothing is left of a text of blanks alone**, and of no other. -/
theorem trim_eq_empty_iff : trim s = "" ↔ isBlankText s = true := by
  rw [isBlankText_iff, ← String.toList_eq_nil_iff, toList_trim, List.reverse_eq_nil_iff,
    List.dropWhile_eq_nil_iff]
  constructor
  · intro h
    rw [← List.dropWhile_eq_nil_iff]
    have hhead := List.head?_dropWhile_not isBlank s.toList
    cases hleft : s.toList.dropWhile isBlank with
    | nil => rfl
    | cons c cs =>
      -- the first character that is left would not be a blank
      have hblank : isBlank c = true := h c (by rw [hleft]; simp)
      rw [hleft] at hhead
      simp [hblank] at hhead
  · intro h c hc
    rw [List.dropWhile_eq_nil_iff.mpr h] at hc
    exact absurd hc List.not_mem_nil

/-- **Blanks around a text do not count.** -/
theorem trim_append_append {t : String} (hbefore : isBlankText before = true)
    (hafter : isBlankText after = true) (ht : ∀ c ∈ t.toList, isBlank c = false) :
    trim (before ++ t ++ after) = t := by
  rw [isBlankText_iff] at hbefore hafter
  have hreverse : ∀ c ∈ after.toList.reverse, isBlank c = true :=
    fun c hc => hafter c (List.mem_reverse.mp hc)
  have hend : ((t.toList ++ after.toList).reverse.dropWhile isBlank).reverse = t.toList := by
    rw [List.reverse_append, List.dropWhile_append_of_pos hreverse,
      dropWhile_isBlank_eq_self fun c hc => ht c (List.mem_reverse.mp hc), List.reverse_reverse]
  apply String.toList_injective
  rw [toList_trim, String.toList_append, String.toList_append, List.append_assoc,
    List.dropWhile_append_of_pos hbefore]
  cases hcs : t.toList with
  | nil =>
    -- without a text in between, all is dropped from the front already
    rw [List.nil_append, List.dropWhile_eq_nil_iff.mpr hafter]
    rfl
  | cons c cs =>
    have hc : isBlank c = false := ht c (hcs ▸ List.mem_cons_self ..)
    rw [List.cons_append, List.dropWhile_cons, hc, if_neg (by decide), ← List.cons_append, ← hcs]
    exact hend

/-- A text without blanks has none to drop. -/
theorem trim_eq_self (h : ∀ c ∈ s.toList, isBlank c = false) : trim s = s := by
  have hempty : isBlankText "" = true := rfl
  have htrim := trim_append_append hempty hempty h
  simpa using htrim

end SmartPlaylist.Text
