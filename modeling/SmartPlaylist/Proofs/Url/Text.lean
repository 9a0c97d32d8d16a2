import Mathlib.Data.List.TakeWhile
import SmartPlaylist.Proofs.Url.Form
import SmartPlaylist.Proofs.Url.Front

/-!
# The query in the text of a URL

The parts of a URL are found again in its text, because the signs between them stand nowhere before
the place where they are looked for.  So the pairs in the query of a URL are those in the text that
the URL was read from and those in the text that is written for it, and pairs that are added come
behind them.

## Main definitions

* `Url.queryIn` — the query in a text.
* `Url.IsSeparated` — the parts of a URL are told apart by the signs between them.

## Main results

* `Url.splitTail_text` — the parts of a URL are found in its text.
* `Url.isSeparated_parse` — the parts of what was read as a URL are told apart.
* `Url.pairs_parse` — **its pairs are those in the text from which it was read.**
* `Url.pairs_appendPairs` — **pairs that are added stand behind those that were there.**
-/

namespace SmartPlaylist.Url

/-! ### Texts -/

/-- The text of a URL before its query. -/
def frontText (u : Url) : String :=
  u.scheme ++ ":" ++
    (match u.authority, u.path with
      | some a, _ => "//" ++ a.text
      | none, .segments ("" :: _ :: _) => "/."
      | none, _ => "") ++ u.path.text

/-- The query in a text that is taken for a URL. -/
def queryIn (cs : List Char) : String := String.ofList ((splitTail cs).2.1.getD [])

/-- The parts of a URL are told apart by the signs between them. -/
structure IsSeparated (u : Url) : Prop where
  front : Unmarked u.frontText.toList
  query : ∀ q, u.query = some q → '#' ∉ q.toList

/-- What has neither sign belongs to the front. -/
theorem splitTail_append {front : List Char} (h : Unmarked front) (cs : List Char) :
    splitTail (front ++ cs) = (front ++ (splitTail cs).1, (splitTail cs).2) := by
  have hfragment : ∀ c ∈ front, decide (c ≠ '#') = true := fun c hc => decide_eq_true (h c hc).2
  have hquery : ∀ c ∈ front, decide (c ≠ '?') = true := fun c hc => decide_eq_true (h c hc).1
  simp only [splitTail, List.takeWhile_append_of_pos hfragment,
    List.dropWhile_append_of_pos hfragment, List.takeWhile_append_of_pos hquery,
    List.dropWhile_append_of_pos hquery]

/-- The number sign ends a query, and so does the end of the text. -/
theorem splitTail_marked {q : List Char} (h : '#' ∉ q) (fragment : Option (List Char)) :
    splitTail ('?' :: (q ++ fragment.elim [] ('#' :: ·))) = ([], some q, fragment) := by
  have hq : ∀ c ∈ '?' :: q, decide (c ≠ '#') = true := by
    rintro c (_ | ⟨_, hc⟩)
    · decide
    · exact decide_eq_true (ne_of_mem_of_not_mem hc h)
  rw [← List.cons_append]
  cases fragment with
  | none =>
    rw [Option.elim_none, List.append_nil]
    simp only [splitTail, List.takeWhile_eq_self_iff.mpr hq, List.dropWhile_eq_nil_iff.mpr hq]
    rfl
  | some f =>
    simp only [splitTail, Option.elim_some, List.takeWhile_append_of_pos hq,
      List.dropWhile_append_of_pos hq]
    have hstop : ('#' :: f).takeWhile (· ≠ '#') = [] := rfl
    have hrest : ('#' :: f).dropWhile (· ≠ '#') = '#' :: f := rfl
    rw [hstop, hrest, List.append_nil]
    rfl

/-- **The parts of a URL are found in its text.** -/
theorem splitTail_text {u : Url} (h : u.IsSeparated) : splitTail u.text.toList
    = (u.frontText.toList, u.query.map String.toList, u.fragment.map String.toList) := by
  have htext : u.text = u.frontText ++ (marked "?" u.query ++ marked "#" u.fragment) :=
    String.append_assoc ..
  have htail : splitTail (marked "?" u.query ++ marked "#" u.fragment).toList
      = ([], u.query.map String.toList, u.fragment.map String.toList) := by
    have hfragment : (marked "#" u.fragment).toList
        = (u.fragment.map String.toList).elim [] ('#' :: ·) := by
      cases u.fragment with
      | none => rfl
      | some f => exact String.toList_append
    rw [String.toList_append, hfragment]
    cases hq : u.query with
    | none =>
      cases u.fragment with
      | none => rfl
      | some f => rfl
    | some q =>
      have hmarked : (marked "?" (some q)).toList = '?' :: q.toList := String.toList_append
      rw [hmarked, List.cons_append, splitTail_marked (h.query q hq)]
      rfl
  rw [htext, String.toList_append, splitTail_append h.front, htail, List.append_nil]

/-- What is read from the text of a URL is its query. -/
theorem queryIn_text {u : Url} (h : u.IsSeparated) : queryIn u.text.toList = u.query.getD "" := by
  rw [queryIn, splitTail_text h]
  cases u.query with
  | none => rfl
  | some q => exact String.ofList_toList

/-! ### What was read -/

/-- The characters of a scheme. -/
def inScheme (c : Char) : Bool := c.isAlphanum || c = '+' || c = '-' || c = '.'

/-- A character of a scheme, and the letter that is written for it, is neither sign. -/
theorem ne_of_inScheme {c : Char} (h : inScheme c = true) :
    (c ≠ '?' ∧ c ≠ '#') ∧ (c.toLower ≠ '?' ∧ c.toLower ≠ '#') := by
  have hascii : ∀ n < 128, inScheme (Char.ofNat n) = true →
      (Char.ofNat n ≠ '?' ∧ Char.ofNat n ≠ '#') ∧
        ((Char.ofNat n).toLower ≠ '?' ∧ (Char.ofNat n).toLower ≠ '#') := by decide
  have hrange : c.toNat < 128 := by
    simp only [inScheme, Bool.or_eq_true, decide_eq_true_eq] at h
    rcases h with ((h | rfl) | rfl) | rfl
    · rw [Percent.isAlphanum_iff] at h
      omega
    all_goals decide
  have hc := hascii c.toNat hrange
  rw [Char.ofNat_toNat] at hc
  exact hc h

/-- What stands before the first colon is the scheme, whose letters may be capitals. -/
theorem exists_of_scheme? {cs rest : List Char} {scheme : String}
    (h : scheme? cs = some (scheme, rest)) : ∃ raw, cs = raw ++ ':' :: rest ∧ Unmarked raw ∧
      Unmarked scheme.toList := by
  cases cs with
  | nil => nomatch h
  | cons c cs =>
    rw [scheme?] at h
    split at h
    next left hleft =>
      split at h
      next =>
        obtain ⟨rfl, rfl⟩ := Prod.mk.inj (Option.some.inj h)
        have hraw : ∀ d ∈ (c :: cs).takeWhile inScheme, (d ≠ '?' ∧ d ≠ '#') ∧
            (d.toLower ≠ '?' ∧ d.toLower ≠ '#') :=
          fun d hd => ne_of_inScheme (List.mem_takeWhile_imp hd)
        refine ⟨_, ?_, fun d hd => (hraw d hd).1, ?_⟩
        · rw [← hleft]
          exact List.takeWhile_append_dropWhile.symm
        · rw [String.toList_ofList]
          intro d hd
          obtain ⟨e, he, rfl⟩ := List.mem_map.mp hd
          exact (hraw e he).2
      next => nomatch h
    next => nomatch h

/-- What stands where in the text from which a URL was read. -/
theorem exists_of_parse {s : String} {u : Url} (h : parse s = some u) : ∃ raw rest,
    clean s = raw ++ ':' :: rest ∧ Unmarked raw ∧ Unmarked u.scheme.toList ∧
      Place.IsUnmarked (u.authority, u.path) ∧
      u.query = (splitTail rest).2.1.map fun cs => String.ofList
        (Percent.encode (if isSpecial u.scheme then Percent.inSpecialQuery else Percent.inQuery) cs)
      := by
  rw [parse] at h
  obtain ⟨⟨scheme, rest⟩, hscheme, h⟩ := Option.bind_eq_some_iff.mp h
  obtain ⟨⟨authority, path⟩, hplace, h⟩ := Option.bind_eq_some_iff.mp h
  obtain rfl := Option.some.inj h
  obtain ⟨raw, hclean, hraw, hlower⟩ := exists_of_scheme? hscheme
  have hfront : Unmarked (splitTail rest).1 := by
    intro c hc
    have hin : c ∈ (rest.takeWhile (· ≠ '#')).takeWhile (· ≠ '?') := hc
    have hquery := List.mem_takeWhile_imp hin
    have hfragment := List.mem_takeWhile_imp ((List.takeWhile_prefix _).subset hin)
    exact ⟨of_decide_eq_true hquery, of_decide_eq_true hfragment⟩
  exact ⟨raw, rest, hclean, hraw, hlower, isUnmarked_place? hfront hplace, rfl⟩

theorem isSeparated_parse {s : String} {u : Url} (h : parse s = some u) : u.IsSeparated := by
  obtain ⟨raw, rest, -, -, hscheme, ⟨hauthority, hpath⟩, hquery⟩ := exists_of_parse h
  constructor
  · rw [frontText]
    simp only [String.toList_append, unmarked_append]
    refine ⟨⟨⟨hscheme, by decide⟩, ?_⟩, hpath.text⟩
    cases ha : u.authority with
    | some a =>
      rw [String.toList_append, unmarked_append]
      exact ⟨by decide, (hauthority a ha).text⟩
    | none =>
      split
      next ha' => nomatch ha'
      next => decide
      next => exact unmarked_nil
  · intro q hq
    rw [hquery] at hq
    obtain ⟨cs, -, rfl⟩ := Option.map_eq_some_iff.mp hq
    rw [String.toList_ofList]
    split
    next => exact not_mem_encode (by decide) cs
    next => exact not_mem_encode (by decide) cs

/-- The query of a URL is that of the text from which the URL was read, escaped. -/
theorem pairs_parse {s : String} {u : Url} (h : parse s = some u) :
    u.pairs = Form.decode (queryIn (clean s)) := by
  obtain ⟨raw, rest, hclean, hraw, -, -, hquery⟩ := exists_of_parse h
  have hfront : Unmarked (raw ++ [':']) := unmarked_append.mpr ⟨hraw, by decide⟩
  have htail : (splitTail (clean s)).2 = (splitTail rest).2 := by
    rw [hclean, List.append_cons, splitTail_append hfront]
  rw [pairs, hquery, queryIn, htail]
  cases (splitTail rest).2.1 with
  | none => rfl
  | some cs =>
    show Form.decode (String.ofList (Percent.encode _ cs)) = Form.decode (String.ofList cs)
    split
    next => exact Form.readable_inSpecialQuery.decode_encode cs
    next => exact Form.readable_inQuery.decode_encode cs

/-! ### More pairs -/

/-- The query with more pairs in it. -/
theorem query_appendPairs (u : Url) (more : List (String × String)) :
    u.query.getD "" = "" ∧ (u.appendPairs more).query = some (Form.encode more) ∨
      (u.appendPairs more).query = some (u.query.getD "" ++ "&" ++ Form.encode more) := by
  rw [appendPairs]
  cases u.query with
  | none => exact .inl ⟨rfl, rfl⟩
  | some q =>
    dsimp only
    split
    next hempty => exact .inl ⟨String.isEmpty_iff.mp hempty, rfl⟩
    next => exact .inr rfl

/-- **Pairs that are added stand behind those that were there.** -/
theorem pairs_appendPairs (u : Url) (more : List (String × String)) :
    (u.appendPairs more).pairs = u.pairs ++ more := by
  rcases query_appendPairs u more with ⟨hempty, hquery⟩ | hquery
  · rw [pairs, hquery, Option.getD_some, Form.decode_encode, pairs, hempty]
    rfl
  · rw [pairs, hquery, Option.getD_some, Form.decode_append, Form.decode_encode, pairs]

/-- They leave the parts of the URL apart. -/
theorem IsSeparated.appendPairs {u : Url} (h : u.IsSeparated) (more : List (String × String)) :
    (u.appendPairs more).IsSeparated where
  front := h.front
  query := by
    have hmore : '#' ∉ (Form.encode more).toList := by
      intro hmem
      rw [Form.encode, String.toList_ofList] at hmem
      exact absurd (Form.mem_encodePairs hmem) (by decide)
    have hold : '#' ∉ (u.query.getD "").toList := by
      cases hq : u.query with
      | none => exact List.not_mem_nil
      | some q => exact h.query q hq
    intro q hq
    rcases query_appendPairs u more with ⟨-, hquery⟩ | hquery
    · obtain rfl := Option.some.inj (hquery.symm.trans hq)
      exact hmore
    · obtain rfl := Option.some.inj (hquery.symm.trans hq)
      simp only [String.toList_append, List.mem_append, not_or]
      exact ⟨⟨hold, by decide⟩, hmore⟩

end SmartPlaylist.Url
