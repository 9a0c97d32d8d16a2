import SmartPlaylist.Url.Basic
import SmartPlaylist.Proofs.List.InOrder
import SmartPlaylist.Proofs.Url.Percent

/-!
# The front of a URL

In the text of a URL the query stands behind the first question mark and the fragment behind the
first number sign.  No part before the query holds either sign: user names, passwords and paths have
them escaped, hosts may not hold them, and what else stands there is written with letters, digits
and a few other signs.

## Main definitions

* `Url.Unmarked` — a text without the two signs.

## Main results

* `Url.Authority.IsUnmarked.text` — an authority is written without the signs.
* `Url.isUnmarked_place?` — **where a URL leads is read without the signs.**
-/

namespace SmartPlaylist.Url

/-! ### Texts without the signs -/

/-- Neither sign that ends the front of a URL is in the text. -/
def Unmarked (cs : List Char) : Prop := ∀ c ∈ cs, c ≠ '?' ∧ c ≠ '#'

instance : DecidablePred Unmarked := fun cs => List.decidableBAll _ cs

theorem unmarked_nil : Unmarked [] := List.forall_mem_nil _

theorem unmarked_cons {c : Char} {cs : List Char} :
    Unmarked (c :: cs) ↔ (c ≠ '?' ∧ c ≠ '#') ∧ Unmarked cs := List.forall_mem_cons

theorem unmarked_append {cs ds : List Char} : Unmarked (cs ++ ds) ↔ Unmarked cs ∧ Unmarked ds :=
  List.forall_mem_append

theorem unmarked_flatMap {α : Type} {f : α → List Char} {xs : List α}
    (h : ∀ x ∈ xs, Unmarked (f x)) : Unmarked (xs.flatMap f) := by
  intro c hc
  obtain ⟨x, hx, hmem⟩ := List.mem_flatMap.mp hc
  exact h x hx c hmem

theorem Unmarked.mono {cs ds : List Char} (h : Unmarked cs) (hsub : ds ⊆ cs) : Unmarked ds :=
  fun c hc => h c (hsub hc)

/-- What is not refused is neither sign, where both are. -/
theorem ne_of_not_mem {refused : List Char} (h : '?' ∈ refused) (h' : '#' ∈ refused) {c : Char}
    (hc : c ∉ refused) : c ≠ '?' ∧ c ≠ '#' :=
  ⟨(ne_of_mem_of_not_mem h hc).symm, (ne_of_mem_of_not_mem h' hc).symm⟩

theorem unmarked_escape (c : Char) : Unmarked (Percent.escape c) :=
  Percent.forall_mem_escape (by decide) (by decide) c

/-- Escaped text has no sign that is not allowed. -/
theorem unmarked_encode {allowed : Char → Bool} {cs : List Char}
    (h : ∀ c ∈ cs, allowed c = true → c ≠ '?' ∧ c ≠ '#') :
    Unmarked (Percent.encode allowed cs) := by
  refine unmarked_flatMap fun c hc => ?_
  split
  next hallowed => exact unmarked_cons.mpr ⟨h c hc hallowed, unmarked_nil⟩
  next => exact unmarked_escape c

theorem unmarked_encode_printableExcept {refused : String} (h : '?' ∈ refused.toList)
    (h' : '#' ∈ refused.toList) (cs : List Char) :
    Unmarked (Percent.encode (Percent.printableExcept refused) cs) :=
  unmarked_encode fun _ _ hallowed => ne_of_not_mem h h' (Percent.printableExcept_iff.mp hallowed).2

/-- No number sign is left where it is refused. -/
theorem not_mem_encode {refused : String} (h : '#' ∈ refused.toList) (cs : List Char) :
    '#' ∉ Percent.encode (Percent.printableExcept refused) cs := by
  intro hmem
  obtain ⟨c, -, hc⟩ := List.mem_flatMap.mp hmem
  split at hc
  next hallowed =>
    obtain rfl := List.mem_singleton.mp hc
    exact (Percent.printableExcept_iff.mp hallowed).2 h
  next => exact (unmarked_escape c _ hc).2 rfl

/-- The figures of a number are digits and letters. -/
theorem unmarked_toDigits {base : Nat} (hbase : 1 < base) (hbase' : base ≤ 16) (n : Nat) :
    Unmarked (Nat.toDigits base n) := by
  have hdigit : ∀ d < 16, Unmarked [Nat.digitChar d] := by decide
  induction n using Nat.strongRecOn with
  | ind n ih =>
    rw [Nat.toDigits_eq_if hbase]
    split
    next hn => exact hdigit n (by omega)
    next hn =>
      have hless : n / base < n := Nat.div_lt_self (by omega) hbase
      have hlast : n % base < base := Nat.mod_lt n (by omega)
      exact unmarked_append.mpr ⟨ih _ hless, hdigit _ (by omega)⟩

theorem unmarked_intercalate {separator : List Char} {parts : List (List Char)}
    (hseparator : Unmarked separator) (hparts : ∀ part ∈ parts, Unmarked part) :
    Unmarked (separator.intercalate parts) := by
  induction parts with
  | nil => exact unmarked_nil
  | cons part parts ih =>
    obtain ⟨hpart, hrest⟩ := List.forall_mem_cons.mp hparts
    cases parts with
    | nil => rwa [List.intercalate_singleton]
    | cons next rest =>
      rw [List.intercalate_cons_cons, unmarked_append, unmarked_append]
      exact ⟨⟨hpart, hseparator⟩, ih hrest⟩

/-! ### Domains -/

namespace Punycode

theorem unmarked_digit : ∀ d < 36, Unmarked [digit d] := by decide

theorem threshold_le (k bias : Nat) : threshold k bias ≤ 26 := by
  rw [threshold]
  split
  next => omega
  next => split <;> omega

/-- The digits of a number are letters and figures. -/
theorem unmarked_numberDigits (bias fuel q k : Nat) : Unmarked (numberDigits bias fuel q k) := by
  induction fuel generalizing q k with
  | zero => exact unmarked_nil
  | succ fuel ih =>
    have ht := threshold_le k bias
    rw [numberDigits]
    split
    next hq => exact unmarked_digit q (by omega)
    next =>
      have hmod : (q - threshold k bias) % (36 - threshold k bias) < 36 - threshold k bias :=
        Nat.mod_lt _ (by omega)
      exact unmarked_cons.mpr ⟨(unmarked_cons.mp (unmarked_digit _ (by omega))).1, ih _ _⟩

theorem unmarked_pass (basic : Nat) {s : State} (h : Unmarked s.output) (c : Char) :
    Unmarked (pass basic s c).output := by
  rw [pass]
  split
  next => exact h
  next =>
    split
    next => exact unmarked_append.mpr ⟨h, unmarked_numberDigits _ _ _ _⟩
    next => exact h

theorem unmarked_foldl_pass (basic : Nat) (label : List Char) {s : State}
    (h : Unmarked s.output) : Unmarked (label.foldl (pass basic) s).output := by
  induction label generalizing s with
  | nil => exact h
  | cons c label ih => exact ih (unmarked_pass basic h c)

theorem unmarked_writeAll (label : List Char) (basic fuel : Nat) {s : State}
    (h : Unmarked s.output) : Unmarked (writeAll label basic fuel s) := by
  induction fuel generalizing s with
  | zero => exact h
  | succ fuel ih =>
    rw [writeAll]
    split
    next => exact h
    next => exact ih (unmarked_foldl_pass basic label h)

/-- A label is written with its own characters and with digits. -/
theorem unmarked_encode {label : List Char} (h : Unmarked label) : Unmarked (encode label) := by
  have hascii : Unmarked (label.filter fun c => c.toNat < 128) := h.mono (List.filter_subset_self _)
  refine unmarked_writeAll _ _ _ ?_
  dsimp only
  split
  next => exact unmarked_nil
  next => exact unmarked_append.mpr ⟨hascii, by decide⟩

end Punycode

namespace Domain

/-- No label holds one of the signs. -/
theorem unmarked_of_isLabel {label : List Char} (h : isLabel label = true) : Unmarked label := by
  have hfree : label.any isForbidden = false := by
    simp only [isLabel, Bool.and_eq_true, Bool.not_eq_true'] at h
    exact h.1.1.1
  intro c hc
  have hforbidden : isForbidden c = false := by simpa using List.any_eq_false.mp hfree c hc
  rw [isForbidden, Bool.or_eq_false_iff, String.contains_char_eq, decide_eq_false_iff_not]
    at hforbidden
  exact ne_of_not_mem (by decide) (by decide) hforbidden.2

theorem isLabel_of_unicodeLabel? {part label : List Char} (h : unicodeLabel? part = some label) :
    isLabel label = true := by
  have hchecked : ∀ own : List Char, (if isLabel own = true then some own else none) = some label →
      isLabel label = true := by
    intro own hown
    split at hown
    next hvalid =>
      obtain rfl := Option.some.inj hown
      exact hvalid
    next => nomatch hown
  rw [unicodeLabel?] at h
  split at h
  next =>
    obtain ⟨own, -, hown⟩ := Option.bind_eq_some_iff.mp h
    exact hchecked own hown
  next => exact hchecked part h

theorem unmarked_asciiLabel {label : List Char} (h : Unmarked label) :
    Unmarked (asciiLabel label) := by
  rw [asciiLabel]
  split
  next => exact h
  next => exact unmarked_append.mpr ⟨by decide, Punycode.unmarked_encode h⟩

theorem unmarked_toAscii? {domain ascii : List Char} (h : toAscii? domain = some ascii) :
    Unmarked ascii := by
  obtain ⟨labels, hlabels, rfl⟩ := Option.map_eq_some_iff.mp h
  obtain ⟨usual, -, hparts⟩ := Option.bind_eq_some_iff.mp hlabels
  obtain ⟨read, hread, hfit⟩ := Option.bind_eq_some_iff.mp hparts
  obtain rfl : read = labels := by
    split at hfit
    next => exact Option.some.inj hfit
    next => nomatch hfit
  refine unmarked_intercalate (by decide) fun part hpart => ?_
  obtain ⟨label, hlabel, rfl⟩ := List.mem_map.mp hpart
  obtain ⟨given, -, hgiven⟩ := exists_of_mem_mapM hread hlabel
  exact unmarked_asciiLabel (unmarked_of_isLabel (isLabel_of_unicodeLabel? hgiven))

end Domain

/-! ### Hosts -/

namespace Host

theorem unmarked_ofOpaque? {cs : List Char} {host : String} (h : ofOpaque? cs = some host) :
    Unmarked host.toList := by
  rw [ofOpaque?] at h
  split at h
  next => nomatch h
  next hallowed =>
    obtain rfl := Option.some.inj h
    rw [String.toList_ofList]
    refine unmarked_encode fun c hc _ => ?_
    have hfree : isForbidden c = false := by
      rw [Bool.not_eq_true, List.any_eq_false] at hallowed
      simpa using hallowed c hc
    rw [isForbidden, String.contains_char_eq, decide_eq_false_iff_not] at hfree
    exact ne_of_not_mem (by decide) (by decide) hfree

theorem unmarked_ipv6Text (pieces : List Nat) : Unmarked (ipv6Text pieces).toList := by
  have hhex : ∀ ps : List Nat, Unmarked (":".intercalate
      (ps.map fun p => String.ofList (Nat.toDigits 16 p))).toList := by
    intro ps
    rw [String.toList_intercalate, List.map_map]
    refine unmarked_intercalate (by decide) fun part hpart => ?_
    obtain ⟨p, -, rfl⟩ := List.mem_map.mp hpart
    rw [Function.comp_apply, String.toList_ofList]
    exact unmarked_toDigits (by decide) (by decide) p
  rw [ipv6Text]
  dsimp only
  split
  next => exact hhex pieces
  next i j _ =>
    rw [String.toList_append, String.toList_append, unmarked_append, unmarked_append]
    exact ⟨⟨hhex _, by decide⟩, hhex _⟩

theorem unmarked_ofIpv6? {cs : List Char} {host : String} (h : ofIpv6? cs = some host) :
    Unmarked host.toList := by
  rw [ofIpv6?] at h
  obtain ⟨pieces, -, rfl⟩ := Option.map_eq_some_iff.mp h
  rw [String.toList_append, String.toList_append, unmarked_append, unmarked_append]
  exact ⟨⟨by decide, unmarked_ipv6Text pieces⟩, by decide⟩

theorem unmarked_ipv4Text (n : Nat) : Unmarked (ipv4Text n).toList := by
  rw [ipv4Text, String.toList_intercalate, List.map_map]
  refine unmarked_intercalate (by decide) fun part hpart => ?_
  obtain ⟨i, -, rfl⟩ := List.mem_map.mp hpart
  rw [Function.comp_apply, Nat.toString_eq_ofList_toDigits, String.toList_ofList]
  exact unmarked_toDigits (by decide) (by decide) _

theorem unmarked_ofDomain? {cs : List Char} {host : String} (h : ofDomain? cs = some host) :
    Unmarked host.toList := by
  obtain ⟨text, -, h⟩ := Option.bind_eq_some_iff.mp h
  obtain ⟨domain, hdomain, h⟩ := Option.bind_eq_some_iff.mp h
  split at h
  next => nomatch h
  next =>
    split at h
    next =>
      obtain ⟨parts, -, h⟩ := Option.bind_eq_some_iff.mp h
      obtain ⟨n, -, rfl⟩ := Option.map_eq_some_iff.mp h
      exact unmarked_ipv4Text n
    next =>
      obtain rfl := Option.some.inj h
      rw [String.toList_ofList]
      exact Domain.unmarked_toAscii? hdomain

end Host

/-! ### Authorities -/

namespace Authority

/-- No part of an authority holds one of the signs. -/
structure IsUnmarked (a : Authority) : Prop where
  username : Unmarked a.username.toList
  password : Unmarked a.password.toList
  host : Unmarked a.host.toList

theorem isUnmarked_ofHost {host : String} (h : Unmarked host.toList) : (ofHost host).IsUnmarked :=
  ⟨unmarked_nil, unmarked_nil, h⟩

theorem IsUnmarked.text {a : Authority} (h : a.IsUnmarked) : Unmarked a.text.toList := by
  have huser : Unmarked a.userText.toList := by
    rw [userText]
    split
    next => exact unmarked_nil
    next =>
      rw [String.toList_append, String.toList_append, unmarked_append, unmarked_append]
      refine ⟨⟨h.username, ?_⟩, by decide⟩
      split
      next => exact unmarked_nil
      next =>
        rw [String.toList_append, unmarked_append]
        exact ⟨by decide, h.password⟩
  rw [Authority.text, String.toList_append, String.toList_append, unmarked_append, unmarked_append]
  refine ⟨⟨huser, h.host⟩, ?_⟩
  cases a.port with
  | none => exact unmarked_nil
  | some p =>
    have hdigits : Unmarked (Decimal.digitText p).toList := by
      rw [Decimal.digitText, String.toList_ofList]
      exact unmarked_toDigits (by decide) (by decide) p
    rw [String.toList_append, unmarked_append]
    exact ⟨by decide, hdigits⟩

theorem unmarked_host? {scheme host : String} {cs : List Char} (h : host? scheme cs = some host) :
    Unmarked host.toList := by
  unfold host? at h
  split at h
  next rest =>
    split at h
    next => exact Host.unmarked_ofIpv6? h
    next => nomatch h
  next =>
    split at h
    next => exact Host.unmarked_ofDomain? h
    next => exact Host.unmarked_ofOpaque? h

theorem unmarked_encodeUserInfo (cs : List Char) :
    Unmarked (String.ofList (Percent.encode Percent.inUserInfo cs)).toList := by
  rw [String.toList_ofList]
  exact unmarked_encode_printableExcept (by decide) (by decide) cs

theorem isUnmarked_read? {scheme : String} {endsUrl : Bool} {cs left : List Char} {a : Authority}
    (h : read? scheme endsUrl cs = some (a, left)) : a.IsUnmarked := by
  unfold read? at h
  dsimp only at h
  split at h
  next => nomatch h
  next =>
    obtain ⟨host, hhost, h⟩ := Option.bind_eq_some_iff.mp h
    split at h
    next => nomatch h
    next =>
      obtain ⟨⟨port, after⟩, -, h⟩ := Option.bind_eq_some_iff.mp h
      obtain ⟨rfl, -⟩ := Prod.mk.inj (Option.some.inj h)
      exact ⟨unmarked_encodeUserInfo _, unmarked_encodeUserInfo _, unmarked_host? hhost⟩

theorem isUnmarked_ofFile? {cs : List Char} {a : Authority} (h : ofFile? cs = some a) :
    a.IsUnmarked := by
  rw [ofFile?] at h
  split at h
  next =>
    obtain rfl := Option.some.inj h
    exact isUnmarked_ofHost unmarked_nil
  next =>
    obtain ⟨host, hhost, rfl⟩ := Option.map_eq_some_iff.mp h
    refine isUnmarked_ofHost ?_
    split
    next => exact unmarked_nil
    next => exact unmarked_host? hhost

end Authority

end SmartPlaylist.Url

namespace SmartPlaylist.UrlPath

open Url

/-! ### Paths -/

/-- No part of a path holds one of the signs. -/
def IsUnmarked : UrlPath → Prop
  | .segments names => ∀ name ∈ names, Unmarked name.toList
  | .plain s => Unmarked s.toList

theorem IsUnmarked.text {path : UrlPath} (h : path.IsUnmarked) : Unmarked path.text.toList := by
  cases path with
  | segments names =>
    rw [UrlPath.text, String.toList_join]
    refine unmarked_flatMap fun part hpart => ?_
    obtain ⟨name, hname, rfl⟩ := List.mem_map.mp hpart
    rw [String.toList_append, unmarked_append]
    exact ⟨by decide, h name hname⟩
  | plain s => exact h

theorem isUnmarked_ofSegments {names : List (List Char)} (h : ∀ name ∈ names, Unmarked name) :
    (ofSegments names).IsUnmarked := by
  intro name hname
  obtain ⟨cs, hcs, rfl⟩ := List.mem_map.mp hname
  rw [String.toList_ofList]
  exact h cs hcs

/-- Each segment of a path is escaped. -/
theorem unmarked_resolveAfter {read : List Char → List Char}
    (hread : ∀ cs, Unmarked cs → Unmarked (read cs)) (given : List (List Char))
    {reversed : List (List Char)} (h : ∀ name ∈ reversed, Unmarked name) :
    ∀ name ∈ resolveAfter read reversed given, Unmarked name := by
  -- what was read so far has neither sign, whether a segment is added to it or taken away
  induction given generalizing reversed with
  | nil =>
    intro name hname
    exact h name (List.mem_reverse.mp hname)
  | cons segment rest ih =>
    have hclosing : ∀ name ∈ (if rest.isEmpty then [[]] else [] : List (List Char)),
        Unmarked name := by
      intro name hname
      split at hname
      next =>
        obtain rfl := List.mem_singleton.mp hname
        exact unmarked_nil
      next => exact absurd hname List.not_mem_nil
    have hparent : ∀ name ∈ parent reversed, Unmarked name := by
      intro name hname
      cases reversed with
      | nil => exact absurd hname List.not_mem_nil
      | cons last front =>
        rw [parent] at hname
        split at hname
        next => exact h name hname
        next => exact h name (List.mem_cons_of_mem _ hname)
    have hencoded : Unmarked (Percent.encode Percent.inPath segment) :=
      unmarked_encode_printableExcept (by decide) (by decide) segment
    rw [resolveAfter]
    dsimp only
    split
    next => exact ih (List.forall_mem_append.mpr ⟨hclosing, hparent⟩)
    next =>
      split
      next => exact ih (List.forall_mem_append.mpr ⟨hclosing, h⟩)
      next =>
        refine ih (List.forall_mem_cons.mpr ⟨?_, h⟩)
        split
        next => exact hread _ hencoded
        next => exact hencoded

theorem isUnmarked_resolve (cs : List Char) : (ofSegments (resolve cs)).IsUnmarked :=
  isUnmarked_ofSegments (unmarked_resolveAfter (fun _ h => h) _ (List.forall_mem_nil _))

theorem unmarked_usualDrive {cs : List Char} (h : Unmarked cs) : Unmarked (usualDrive cs) := by
  rw [usualDrive]
  split
  next => exact unmarked_append.mpr ⟨h.mono (List.take_subset 1 cs), by decide⟩
  next => exact h

theorem isUnmarked_ofFile (cs : List Char) : (ofSegments (ofFile cs).1).IsUnmarked := by
  have hfound := unmarked_resolveAfter (fun _ => unmarked_usualDrive) (Form.cutAt '/' cs)
    (List.forall_mem_nil _)
  refine isUnmarked_ofSegments fun name hname => ?_
  rw [ofFile] at hname
  dsimp only at hname
  split at hname
  next =>
    obtain rfl := List.mem_singleton.mp hname
    exact unmarked_nil
  next => exact hfound name (List.dropWhile_subset _ hname)

end SmartPlaylist.UrlPath

namespace SmartPlaylist.Url

/-! ### Places -/

/-- Nothing about where a URL leads holds one of the signs. -/
def Place.IsUnmarked (place : Place) : Prop :=
  (∀ a, place.1 = some a → a.IsUnmarked) ∧ place.2.IsUnmarked

theorem isUnmarked_filePlace? {cs : List Char} {place : Place} (h : filePlace? cs = some place) :
    Place.IsUnmarked place := by
  have hplace : ∀ {host : Authority} (path : List Char) (found : Place), host.IsUnmarked →
      ((if (UrlPath.ofFile path).2 then some (Authority.ofHost "") else some host,
        UrlPath.ofSegments (UrlPath.ofFile path).1) : Place) = found → Place.IsUnmarked found := by
    rintro host path _ hhost rfl
    refine ⟨fun a ha => ?_, UrlPath.isUnmarked_ofFile path⟩
    dsimp only at ha
    split at ha
    next =>
      obtain rfl := Option.some.inj ha
      exact Authority.isUnmarked_ofHost unmarked_nil
    next =>
      obtain rfl := Option.some.inj ha
      exact hhost
  have hnone : (Authority.ofHost "").IsUnmarked := Authority.isUnmarked_ofHost unmarked_nil
  unfold filePlace? at h
  dsimp only at h
  split at h
  next rest =>
    split at h
    next => exact hplace rest place hnone (Option.some.inj h)
    next =>
      obtain ⟨host, hhost, h⟩ := Option.map_eq_some_iff.mp h
      exact hplace _ place (Authority.isUnmarked_ofFile? hhost) h
  next => exact hplace _ place hnone (Option.some.inj h)
  next => exact hplace _ place hnone (Option.some.inj h)

theorem isUnmarked_hostPlace? {scheme : String} {endsUrl : Bool} {cs : List Char} {place : Place}
    (h : hostPlace? scheme endsUrl cs = some place) : Place.IsUnmarked place := by
  obtain ⟨⟨authority, left⟩, hread, h⟩ := Option.bind_eq_some_iff.mp h
  obtain rfl := Option.some.inj h
  constructor
  · intro a ha
    obtain rfl := Option.some.inj ha
    exact Authority.isUnmarked_read? hread
  · dsimp only
    split
    next =>
      refine UrlPath.isUnmarked_ofSegments fun name hname => ?_
      split at hname
      next =>
        obtain rfl := List.mem_singleton.mp hname
        exact unmarked_nil
      next => exact absurd hname List.not_mem_nil
    next => exact UrlPath.isUnmarked_resolve _
    next => exact UrlPath.isUnmarked_resolve _

theorem isUnmarked_place? {scheme : String} {endsUrl : Bool} {cs : List Char} {place : Place}
    (hcs : Unmarked cs) (h : place? scheme endsUrl cs = some place) : Place.IsUnmarked place := by
  have hslashes : Unmarked (cs.map fun c => if isSlash scheme c then '/' else c) := by
    intro c hc
    obtain ⟨d, hd, rfl⟩ := List.mem_map.mp hc
    split
    next => decide
    next => exact hcs d hd
  unfold place? at h
  dsimp only at h
  split at h
  next => exact isUnmarked_filePlace? h
  next =>
    split at h
    next => exact isUnmarked_hostPlace? h
    next =>
      split at h
      next => exact isUnmarked_hostPlace? h
      next =>
        obtain rfl := Option.some.inj h
        exact ⟨fun a ha => (nomatch ha), UrlPath.isUnmarked_resolve _⟩
      next =>
        obtain rfl := Option.some.inj h
        refine ⟨fun a ha => (nomatch ha), ?_⟩
        show Unmarked (String.ofList _).toList
        rw [String.toList_ofList]
        exact unmarked_encode fun c hc _ => hslashes c hc

end SmartPlaylist.Url
