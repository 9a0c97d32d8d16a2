import SmartPlaylist.Url.Form
import SmartPlaylist.Proofs.Text.Utf8
import SmartPlaylist.Proofs.Url.Percent

/-!
# Forms and back

Whatever names and values are, reading a form gives back the pairs that were written: a character
of a name or value is either plain or escaped, and so neither `&` nor `=` stands in it.  Reading two
texts with `&` between them reads both, so pairs that are put behind a query leave those that are
already in it alone.

## Main definitions

* `Form.Readable` — what a part of a URL holds that may be read as a form.

## Main results

* `Form.decodeText_encodeText` — a name or value is read back.
* `Form.decode_append` — two texts with `&` between them are read one after the other.
* `Form.decode_encode` — **the pairs of a form are read back.**
* `Form.Readable.decode_encode` — a query may be escaped before it is read.
-/

namespace SmartPlaylist.Url.Form

open Percent (escape)

/-! ### Names and values -/

/-- A character of a text that is read: a plus sign is a space. -/
def unplus (c : Char) : Char := if c = '+' then ' ' else c

theorem decodeText_eq (cs : List Char) :
    decodeText cs = Text.ofUtf8 (Percent.decode (cs.map unplus)) := rfl

/-- A character that is not plain differs from all that are. -/
theorem ne_of_isPlain {c d : Char} (h : isPlain c = true) (hd : isPlain d = false) : c ≠ d := by
  rintro rfl
  rw [h] at hd
  nomatch hd

/-- No plus sign is escaped as one. -/
theorem map_unplus_escape (c : Char) : (escape c).map unplus = escape c := by
  have hsame : ∀ d ∈ escape c, unplus d = id d :=
    Percent.forall_mem_escape (by decide) (by decide) c
  rw [List.map_congr_left hsame, List.map_id]

/-- A name or value is written with plain characters, plus signs and percent signs. -/
theorem mem_encodeText {s : String} {d : Char} (h : d ∈ encodeText s) :
    isPlain d = true ∨ d = '+' ∨ d = '%' := by
  obtain ⟨c, -, hd⟩ := List.mem_flatMap.mp h
  rw [encodeChar] at hd
  split at hd
  next => exact .inr (.inl (List.mem_singleton.mp hd))
  next =>
    split at hd
    next hplain =>
      obtain rfl := List.mem_singleton.mp hd
      exact .inl hplain
    next =>
      exact Percent.forall_mem_escape (p := fun d => isPlain d = true ∨ d = '+' ∨ d = '%')
        (.inr (.inr rfl)) (by decide) c d hd

/-- Neither of the signs between names and values is among them. -/
theorem not_mem_encodeText {separator : Char} (h : separator = '&' ∨ separator = '=') (s : String) :
    separator ∉ encodeText s := by
  intro hmem
  rcases mem_encodeText hmem with hplain | rfl | rfl
  · rcases h with rfl | rfl <;> exact absurd hplain (by decide)
  · rcases h with h | h <;> exact absurd h (by decide)
  · rcases h with h | h <;> exact absurd h (by decide)

/-- A character of a name or value is read as its bytes. -/
theorem decode_encodeChar (c : Char) (rest : List Char) :
    Percent.decode ((encodeChar c).map unplus ++ rest)
      = String.utf8EncodeChar c ++ Percent.decode rest := by
  rw [encodeChar]
  split
  next hspace =>
    subst hspace
    exact Percent.decode_of_ne (by decide) rest
  next =>
    split
    next hplain =>
      have hsame : unplus c = c := if_neg (ne_of_isPlain hplain (by decide))
      rw [List.map_singleton, hsame, List.singleton_append,
        Percent.decode_of_ne (ne_of_isPlain hplain (by decide))]
    next =>
      show Percent.decode ((escape c).map unplus ++ rest) = _
      rw [map_unplus_escape, Percent.decode_escape]

/-- **A name or value is read back.** -/
theorem decodeText_encodeText (s : String) : decodeText (encodeText s) = s := by
  have hbytes : ∀ cs : List Char, Percent.decode ((cs.flatMap encodeChar).map unplus)
      = cs.flatMap String.utf8EncodeChar := by
    intro cs
    induction cs with
    | nil => rfl
    | cons c cs ih =>
      rw [List.flatMap_cons, List.map_append, decode_encodeChar, ih, List.flatMap_cons]
  have hchars : Text.Utf8.decode (s.toList.flatMap String.utf8EncodeChar) = s.toList.map some :=
    Text.Utf8.decode_utf8 s
  rw [decodeText_eq, encodeText, hbytes, Text.ofUtf8, hchars, List.map_map]
  have hid : (fun c : Option Char => c.getD Text.replacement) ∘ some = id := rfl
  rw [hid, List.map_id, String.ofList_toList]

/-! ### Pairs -/

/-- **A pair is read back**: the first `=` ends the name. -/
theorem decodePair_encodePair (p : String × String) : decodePair (encodePair p) = p := by
  have hname : ∀ c ∈ encodeText p.1, decide (c ≠ '=') = true := by
    intro c hc
    have hne : c ≠ '=' := ne_of_mem_of_not_mem hc (not_mem_encodeText (.inr rfl) p.1)
    exact decide_eq_true hne
  have htake : (encodePair p).takeWhile (· ≠ '=') = encodeText p.1 := by
    rw [encodePair, List.takeWhile_append_of_pos hname]
    exact List.append_nil _
  have hdrop : (encodePair p).dropWhile (· ≠ '=') = '=' :: encodeText p.2 := by
    rw [encodePair, List.dropWhile_append_of_pos hname]
    rfl
  rw [decodePair, htake, hdrop, List.drop_succ_cons, List.drop_zero, decodeText_encodeText,
    decodeText_encodeText]

theorem not_mem_encodePair (p : String × String) : '&' ∉ encodePair p := by
  intro hmem
  rcases List.mem_append.mp hmem with hname | hvalue
  · exact not_mem_encodeText (.inl rfl) p.1 hname
  · rcases List.mem_cons.mp hvalue with heq | hvalue
    · exact absurd heq (by decide)
    · exact not_mem_encodeText (.inl rfl) p.2 hvalue

/-! ### Texts of several pairs -/

theorem cutAt_cons_self (separator : Char) (cs : List Char) :
    cutAt separator (separator :: cs) = [] :: cutAt separator cs := by
  rw [cutAt, if_pos rfl]

/-- There is always a part, be it an empty one. -/
theorem cutAt_ne_nil (separator : Char) (cs : List Char) : cutAt separator cs ≠ [] := by
  cases cs with
  | nil => exact List.cons_ne_nil _ _
  | cons c cs =>
    rw [cutAt]
    split
    next => exact List.cons_ne_nil _ _
    next => split <;> exact List.cons_ne_nil _ _

/-- What holds no separator goes to the first part. -/
theorem exists_cutAt_append {separator : Char} {front : List Char} (h : separator ∉ front)
    (back : List Char) : ∃ part others, cutAt separator back = part :: others ∧
      cutAt separator (front ++ back) = (front ++ part) :: others := by
  induction front with
  | nil =>
    obtain ⟨part, others, hparts⟩ := List.exists_cons_of_ne_nil (cutAt_ne_nil separator back)
    exact ⟨part, others, hparts, hparts⟩
  | cons c front ih =>
    have hc : c ≠ separator := (List.ne_of_not_mem_cons h).symm
    obtain ⟨part, others, hparts, hcut⟩ := ih (List.not_mem_of_not_mem_cons h)
    refine ⟨part, others, hparts, ?_⟩
    rw [List.cons_append, cutAt, if_neg hc, hcut]
    rfl

/-- Without the separator there is one part. -/
theorem cutAt_of_not_mem {separator : Char} {cs : List Char} (h : separator ∉ cs) :
    cutAt separator cs = [cs] := by
  obtain ⟨part, others, hparts, hcut⟩ := exists_cutAt_append h []
  obtain ⟨rfl, rfl⟩ := List.cons.inj hparts
  rwa [List.append_nil] at hcut

/-- A text is cut where two texts meet with the separator between them. -/
theorem cutAt_append (separator : Char) (front back : List Char) :
    cutAt separator (front ++ separator :: back)
      = cutAt separator front ++ cutAt separator back := by
  induction front with
  | nil => rw [List.nil_append, cutAt_cons_self, cutAt, List.singleton_append]
  | cons c front ih =>
    rw [List.cons_append]
    by_cases hc : c = separator
    · rw [hc, cutAt_cons_self, cutAt_cons_self, ih, List.cons_append]
    · have hmem : separator ∉ [c] := by simpa using Ne.symm hc
      obtain ⟨part, others, hparts, hcut⟩ := exists_cutAt_append hmem front
      obtain ⟨part', others', hparts', hcut'⟩ :=
        exists_cutAt_append hmem (front ++ separator :: back)
      rw [ih, hparts, List.cons_append] at hparts'
      obtain ⟨rfl, rfl⟩ := List.cons.inj hparts'
      rw [List.singleton_append] at hcut hcut'
      rw [hcut, hcut']
      rfl

/-- **Two texts with `&` between them are read one after the other.** -/
theorem decode_append (front back : String) :
    decode (front ++ "&" ++ back) = decode front ++ decode back := by
  have hchars : (front ++ "&" ++ back).toList = front.toList ++ '&' :: back.toList := by
    rw [String.toList_append, String.toList_append, List.append_assoc]
    rfl
  rw [decode, hchars, cutAt_append, List.filter_append, List.map_append]
  rfl

theorem decode_ofList_encodePair (p : String × String) :
    decode (String.ofList (encodePair p)) = [p] := by
  have hne : (encodePair p).isEmpty = false := by
    rw [encodePair, List.isEmpty_eq_false_iff]
    exact List.append_ne_nil_of_right_ne_nil _ (List.cons_ne_nil _ _)
  rw [decode, String.toList_ofList, cutAt_of_not_mem (not_mem_encodePair p)]
  simp only [List.filter_cons, hne, Bool.not_false, if_pos, List.filter_nil, List.map_singleton,
    decodePair_encodePair]

/-- **The pairs of a form are read back**, in their order. -/
theorem decode_encode (pairs : List (String × String)) : decode (encode pairs) = pairs := by
  induction pairs with
  | nil => rfl
  | cons p pairs ih =>
    cases pairs with
    | nil => exact decode_ofList_encodePair p
    | cons next rest =>
      have hsplit : encode (p :: next :: rest)
          = String.ofList (encodePair p) ++ "&" ++ encode (next :: rest) := by
        rw [encode, encodePairs, String.append_assoc, String.ofList_append]
        exact congrArg _ (String.ofList_cons ..)
      rw [hsplit, decode_append, decode_ofList_encodePair, ih, List.singleton_append]

/-- Four signs and plain characters are all that a form is written with. -/
theorem mem_encodePairs {pairs : List (String × String)} {d : Char} (h : d ∈ encodePairs pairs) :
    isPlain d = true ∨ d ∈ ['+', '%', '=', '&'] := by
  have htext : ∀ {s : String}, d ∈ encodeText s → isPlain d = true ∨ d ∈ ['+', '%', '=', '&'] := by
    intro s hd
    rcases mem_encodeText hd with hplain | rfl | rfl
    · exact .inl hplain
    · exact .inr (by decide)
    · exact .inr (by decide)
  have hpair : ∀ {p : String × String}, d ∈ encodePair p →
      isPlain d = true ∨ d ∈ ['+', '%', '=', '&'] := by
    intro p hd
    rcases List.mem_append.mp hd with hname | hvalue
    · exact htext hname
    · rcases List.mem_cons.mp hvalue with rfl | hvalue
      · exact .inr (by decide)
      · exact htext hvalue
  induction pairs with
  | nil => exact absurd h List.not_mem_nil
  | cons p pairs ih =>
    cases pairs with
    | nil => exact hpair h
    | cons next rest =>
      rcases List.mem_append.mp h with hfirst | hothers
      · exact hpair hfirst
      · rcases List.mem_cons.mp hothers with rfl | hothers
        · exact .inr (by decide)
        · exact ih hothers

/-! ### Escaped queries -/

/-- What a part must be allowed to hold so that escaping does not change what is read from it. -/
structure Readable (allowed : Char → Bool) : Prop where
  sign : ∀ c ∈ ['%', '&', '=', '+'], allowed c = true
  letter : ∀ c : Char, c.isAlphanum = true → allowed c = true

theorem readable_inQuery : Readable Percent.inQuery where
  sign := by
    simp only [Percent.inQuery, Percent.printableExcept_iff, List.forall_mem_cons]
    exact ⟨by decide, by decide, by decide, by decide, List.forall_mem_nil _⟩
  letter := fun _ => Percent.printableExcept_of_isAlphanum (by decide)

theorem readable_inSpecialQuery : Readable Percent.inSpecialQuery where
  sign := by
    simp only [Percent.inSpecialQuery, Percent.printableExcept_iff, List.forall_mem_cons]
    exact ⟨by decide, by decide, by decide, by decide, List.forall_mem_nil _⟩
  letter := fun _ => Percent.printableExcept_of_isAlphanum (by decide)

/-- A character as it stands in a part. -/
def put (allowed : Char → Bool) (c : Char) : List Char := if allowed c then [c] else escape c

variable {allowed : Char → Bool}

theorem encode_eq_flatMap (cs : List Char) : Percent.encode allowed cs = cs.flatMap (put allowed) :=
  rfl

/-- A sign of a form stands in an escaped text where it stood before. -/
theorem Readable.put_separator (h : Readable allowed) {separator : Char}
    (hs : separator = '&' ∨ separator = '=') (c : Char) :
    c = separator ∧ put allowed c = [separator] ∨ c ≠ separator ∧ separator ∉ put allowed c := by
  by_cases hc : c = separator
  · have hallowed : allowed separator = true := by
      refine h.sign separator ?_
      rcases hs with rfl | rfl <;> decide
    exact .inl ⟨hc, by rw [hc, put, if_pos hallowed]⟩
  · refine .inr ⟨hc, ?_⟩
    rw [put]
    split
    next => simpa using Ne.symm hc
    next =>
      intro hmem
      have hplain := Percent.forall_mem_escape (p := fun d => isPlain d = true ∨ d = '%')
        (.inr rfl) (by decide) c separator hmem
      rcases hs with rfl | rfl <;> exact absurd hplain (by decide)

/-- Escaping writes characters, also where plus signs are spaces. -/
theorem Readable.writes (h : Readable allowed) :
    Percent.Writes (fun c => (put allowed c).map unplus) unplus := by
  intro c
  dsimp only
  rw [put]
  split
  next => exact .inl rfl
  next hrefused =>
    have hne : ∀ d ∈ ['%', '&', '=', '+'], c ≠ d := by
      rintro d hd rfl
      exact hrefused (h.sign c hd)
    have hsame : unplus c = c := if_neg (hne '+' (by decide))
    rw [hsame, map_unplus_escape]
    refine .inr ⟨hne '%' (by decide), ?_, rfl⟩
    cases hc : Text.hexValue? c with
    | none => rfl
    | some x => exact absurd (h.letter c (Percent.isAlphanum_of_hexValue? hc)) hrefused

theorem Readable.decodeText_flatMap (h : Readable allowed) (cs : List Char) :
    decodeText (cs.flatMap (put allowed)) = decodeText cs := by
  rw [decodeText_eq, decodeText_eq, List.map_flatMap, Percent.decode_flatMap h.writes]

/-- Escaping leaves the parts of a text apart. -/
theorem Readable.cutAt_flatMap (h : Readable allowed) (cs : List Char) :
    cutAt '&' (cs.flatMap (put allowed)) = (cutAt '&' cs).map (List.flatMap (put allowed)) := by
  induction cs with
  | nil => rfl
  | cons c cs ih =>
    rw [List.flatMap_cons]
    rcases h.put_separator (.inl rfl) c with ⟨rfl, hput⟩ | ⟨hc, hput⟩
    · rw [hput, List.singleton_append, cutAt_cons_self, cutAt_cons_self, ih]
      rfl
    · have hmem : '&' ∉ [c] := by simpa using Ne.symm hc
      obtain ⟨part, others, hparts, hcut⟩ := exists_cutAt_append hmem cs
      obtain ⟨part', others', hparts', hcut'⟩ :=
        exists_cutAt_append hput (cs.flatMap (put allowed))
      rw [ih, hparts, List.map_cons] at hparts'
      obtain ⟨rfl, rfl⟩ := List.cons.inj hparts'
      rw [List.singleton_append] at hcut
      rw [hcut, hcut']
      rfl

/-- It leaves the name of a pair apart from its value. -/
theorem Readable.decodePair_flatMap (h : Readable allowed) (cs : List Char) :
    decodePair (cs.flatMap (put allowed)) = decodePair cs := by
  have hparts : (cs.flatMap (put allowed)).takeWhile (· ≠ '=')
        = (cs.takeWhile (· ≠ '=')).flatMap (put allowed) ∧
      ((cs.flatMap (put allowed)).dropWhile (· ≠ '=')).drop 1
        = ((cs.dropWhile (· ≠ '=')).drop 1).flatMap (put allowed) := by
    induction cs with
    | nil => exact ⟨rfl, rfl⟩
    | cons c cs ih =>
      rw [List.flatMap_cons]
      rcases h.put_separator (.inr rfl) c with ⟨rfl, hput⟩ | ⟨hc, hput⟩
      · rw [hput]
        exact ⟨rfl, rfl⟩
      · have hall : ∀ d ∈ put allowed c, decide (d ≠ '=') = true := by
          intro d hd
          exact decide_eq_true (ne_of_mem_of_not_mem hd hput)
        have htake : (c :: cs).takeWhile (· ≠ '=') = c :: cs.takeWhile (· ≠ '=') :=
          List.takeWhile_cons_of_pos (decide_eq_true hc)
        have hdrop : (c :: cs).dropWhile (· ≠ '=') = cs.dropWhile (· ≠ '=') :=
          List.dropWhile_cons_of_pos (decide_eq_true hc)
        rw [List.takeWhile_append_of_pos hall, List.dropWhile_append_of_pos hall, ih.1, ih.2,
          htake, hdrop, List.flatMap_cons]
        exact ⟨rfl, rfl⟩
  rw [decodePair, hparts.1, hparts.2, h.decodeText_flatMap, h.decodeText_flatMap, decodePair]

/-- **A query may be escaped before it is read.** -/
theorem Readable.decode_encode (h : Readable allowed) (cs : List Char) :
    decode (String.ofList (Percent.encode allowed cs)) = decode (String.ofList cs) := by
  have hempty : ∀ part : List Char, (part.flatMap (put allowed)).isEmpty = part.isEmpty := by
    intro part
    cases part with
    | nil => rfl
    | cons c part =>
      have hne : put allowed c ≠ [] := by
        rw [put]
        split
        next => exact List.cons_ne_nil _ _
        next =>
          obtain ⟨more, hmore⟩ := Percent.exists_escape_eq_cons c
          rw [hmore]
          exact List.cons_ne_nil _ _
      rw [List.flatMap_cons, List.isEmpty_cons, List.isEmpty_eq_false_iff]
      exact List.append_ne_nil_of_left_ne_nil hne _
  rw [decode, decode, String.toList_ofList, String.toList_ofList, encode_eq_flatMap,
    h.cutAt_flatMap, List.filter_map, List.map_map]
  have hfilter : ((fun part : List Char => !part.isEmpty) ∘ List.flatMap (put allowed))
      = fun part => !part.isEmpty := funext fun part => congrArg (!·) (hempty part)
  rw [hfilter]
  exact List.map_congr_left fun part _ => h.decodePair_flatMap part

end SmartPlaylist.Url.Form
