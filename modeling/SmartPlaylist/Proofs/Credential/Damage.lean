import SmartPlaylist.Proofs.Credential.Cache

/-!
# Damaged credentials

Anything may stand in the table: texts that are no base 64, boxes that are too short or were made
with another key, values of another kind, several rows for one service.  Reading a service judges
its first row and nothing else, in five cases of which exactly one applies; it neither fails in
another way nor changes the table.  Setting a value removes all rows of the service, damaged or not,
and so the next read is of that value again.

What is read then is what the text of the value reads as.  That is the value itself where its
numbers are whole and it does not nest too deep, as every token is; a double may come back one place
off, because readers round its digits twice.

## Main definitions

* `Cache.Judged` — what a stored text comes to.
* `Cache.answer` — what is read from the rows of the table.

## Main results

* `Cache.judged_iff` — every stored text is judged in exactly one way.
* `Cache.run_get_eq_answer` — reading looks at the rows and changes nothing.
* `Cache.get_contained` — **reading judges and never harms, and setting recovers.**
* `Cache.get_rounded` — a long decimal that comes back changed.
-/

namespace SmartPlaylist

namespace Gcm

/-- A box opens exactly if its last sixteen bytes are the tag of what stands before them. -/
theorem open?_append (cipher : Cipher) (nonce hidden last : List UInt8) (h : last.length = 16) :
    open? cipher nonce (hidden ++ last) =
      if tag cipher nonce hidden = last then
        some (applyStream hidden (keystream cipher nonce hidden.length))
      else none := by
  have hlen : (hidden ++ last).length - 16 = hidden.length := by
    rw [List.length_append, h, Nat.add_sub_cancel]
  have hlong : ¬(hidden ++ last).length < 16 := by
    rw [List.length_append, h]
    omega
  simp only [open?, if_neg hlong, hlen, List.take_left, List.drop_left]

end Gcm

namespace Cache

variable {α : Type} {key : CipherKey} {kind : Json.Kind α} {service stored : String}
  {db : Database}

/-! ### One stored text -/

/-- The message of a box without its tag. -/
def revealed (key : CipherKey) (nonce hidden : List UInt8) : List UInt8 :=
  Gcm.applyStream hidden (Gcm.keystream (cipher key) nonce hidden.length)

/-- What a stored text comes to when the value of a service is read from it. -/
inductive Judged (key : CipherKey) (kind : Json.Kind α) (service stored : String) :
    Except CacheError α → Prop where
  /-- Without the blanks around it, it is not the base 64 text of any bytes. -/
  | garbled (h : ∀ bytes, Text.trim stored ≠ Base64.encode .standard bytes) :
    Judged key kind service stored (.error (.undecryptable service))
  /-- There is no room for a nonce and a tag. -/
  | short {bytes : List UInt8} (h : Text.trim stored = Base64.encode .standard bytes)
      (hshort : bytes.length < 28) :
    Judged key kind service stored (.error (.undecryptable service))
  /-- The tag is not that of what it stands behind. -/
  | forged {nonce hidden last : List UInt8}
      (h : Text.trim stored = Base64.encode .standard (nonce ++ hidden ++ last))
      (hnonce : nonce.length = 12) (hlast : last.length = 16)
      (htag : last ≠ Gcm.tag (cipher key) nonce hidden) :
    Judged key kind service stored (.error (.undecryptable service))
  /-- The tag is right, and what was hidden is not the text of a value of the kind. -/
  | alien {nonce hidden : List UInt8}
      (h : Text.trim stored
        = Base64.encode .standard (nonce ++ hidden ++ Gcm.tag (cipher key) nonce hidden))
      (hnonce : nonce.length = 12) (hplain : kind.ofBytes? (revealed key nonce hidden) = none) :
    Judged key kind service stored (.error .malformed)
  /-- The tag is right, and what was hidden is the text of a value. -/
  | sound {nonce hidden : List UInt8} {x : α}
      (h : Text.trim stored
        = Base64.encode .standard (nonce ++ hidden ++ Gcm.tag (cipher key) nonce hidden))
      (hnonce : nonce.length = 12) (hplain : kind.ofBytes? (revealed key nonce hidden) = some x) :
    Judged key kind service stored (.ok x)

/-- A text of no bytes is not decrypted. -/
theorem decrypt_of_garbled (h : ∀ bytes, Text.trim stored ≠ Base64.encode .standard bytes) :
    decrypt key service stored = .error (.undecryptable service) := by
  have hread : Base64.decode .standard (Text.trim stored) = none := by
    cases hdecode : Base64.decode .standard (Text.trim stored) with
    | none => rfl
    | some bytes => exact absurd (Base64.decode_eq_some_iff.mp hdecode) (h bytes)
  simp only [decrypt, hread]

/-- Too few bytes are not decrypted: they are all nonce, or what follows it holds no tag. -/
theorem decrypt_of_short {bytes : List UInt8}
    (h : Text.trim stored = Base64.encode .standard bytes) (hshort : bytes.length < 28) :
    decrypt key service stored = .error (.undecryptable service) := by
  have hread : Base64.decode .standard (Text.trim stored) = some bytes :=
    Base64.decode_eq_some_iff.mpr h
  by_cases hnonce : bytes.length ≤ 12
  · simp only [decrypt, hread, if_pos hnonce]
  · have hbox : (bytes.drop 12).length < 16 := by
      rw [List.length_drop]
      omega
    have hopen : Gcm.open? (cipher key) (bytes.take 12) (bytes.drop 12) = none := by
      simp only [Gcm.open?, if_pos hbox]
    simp only [decrypt, hread, if_neg hnonce, hopen]

/-- With room for a nonce and a tag, the tag decides. -/
theorem decrypt_of_parts {nonce hidden last : List UInt8}
    (h : Text.trim stored = Base64.encode .standard (nonce ++ hidden ++ last))
    (hnonce : nonce.length = 12) (hlast : last.length = 16) :
    decrypt key service stored =
      if Gcm.tag (cipher key) nonce hidden = last then .ok (revealed key nonce hidden)
      else .error (.undecryptable service) := by
  have hread : Base64.decode .standard (Text.trim stored) = some (nonce ++ (hidden ++ last)) := by
    rw [Base64.decode_eq_some_iff, ← List.append_assoc]
    exact h
  have hlong : ¬(nonce ++ (hidden ++ last)).length ≤ 12 := by
    rw [List.length_append, List.length_append, hnonce, hlast]
    omega
  have htake : (nonce ++ (hidden ++ last)).take 12 = nonce := by
    rw [← hnonce, List.take_left]
  have hdrop : (nonce ++ (hidden ++ last)).drop 12 = hidden ++ last := by
    rw [← hnonce, List.drop_left]
  simp only [decrypt, hread, if_neg hlong, htake, hdrop, Gcm.open?_append _ _ _ _ hlast]
  by_cases htag : Gcm.tag (cipher key) nonce hidden = last
  · simp only [if_pos htag]
    rfl
  · simp only [if_neg htag]

/-- Bytes with room for a nonce and a tag have both. -/
theorem exists_parts {bytes : List UInt8} (h : ¬bytes.length < 28) :
    ∃ nonce hidden last, bytes = nonce ++ hidden ++ last ∧ nonce.length = 12 ∧
      last.length = 16 := by
  refine ⟨bytes.take 12, (bytes.drop 12).take (bytes.length - 28),
    (bytes.drop 12).drop (bytes.length - 28), ?_, ?_, ?_⟩
  · rw [List.append_assoc, List.take_append_drop, List.take_append_drop]
  · rw [List.length_take]
    omega
  · rw [List.length_drop, List.length_drop]
    omega

/-- A stored text is judged as it is read. -/
theorem judged_read (key : CipherKey) (kind : Json.Kind α) (service stored : String) :
    Judged key kind service stored ((decrypt key service stored).bind (readPlain kind)) := by
  cases hread : Base64.decode .standard (Text.trim stored) with
  | none =>
    have hgarbled : ∀ bytes, Text.trim stored ≠ Base64.encode .standard bytes := by
      intro bytes heq
      rw [Base64.decode_eq_some_iff.mpr heq] at hread
      nomatch hread
    rw [decrypt_of_garbled hgarbled]
    exact .garbled hgarbled
  | some bytes =>
    have htext := Base64.decode_eq_some_iff.mp hread
    by_cases hshort : bytes.length < 28
    · rw [decrypt_of_short htext hshort]
      exact .short htext hshort
    · obtain ⟨nonce, hidden, last, rfl, hnonce, hlast⟩ := exists_parts hshort
      rw [decrypt_of_parts htext hnonce hlast]
      by_cases htag : Gcm.tag (cipher key) nonce hidden = last
      · subst htag
        rw [if_pos rfl]
        cases hplain : kind.ofBytes? (revealed key nonce hidden) with
        | none =>
          have hmalformed : readPlain kind (revealed key nonce hidden) = .error .malformed := by
            simp only [readPlain, hplain]
          rw [Except.bind, hmalformed]
          exact .alien htext hnonce hplain
        | some x =>
          have hvalue : readPlain kind (revealed key nonce hidden) = .ok x := by
            simp only [readPlain, hplain]
          rw [Except.bind, hvalue]
          exact .sound htext hnonce hplain
      · rw [if_neg htag]
        exact .forged htext hnonce hlast (Ne.symm htag)

/-- **Every stored text is judged in exactly one way**, and read accordingly. -/
theorem judged_iff {result : Except CacheError α} : Judged key kind service stored result ↔
    (decrypt key service stored).bind (readPlain kind) = result := by
  constructor
  · intro h
    cases h with
    | garbled h => rw [decrypt_of_garbled h, Except.bind]
    | short h hshort => rw [decrypt_of_short h hshort, Except.bind]
    | forged h hnonce hlast htag =>
      rw [decrypt_of_parts h hnonce hlast, if_neg (Ne.symm htag), Except.bind]
    | alien h hnonce hplain =>
      rw [decrypt_of_parts h hnonce (Gcm.length_tag ..), if_pos rfl, Except.bind, readPlain, hplain]
    | sound h hnonce hplain =>
      rw [decrypt_of_parts h hnonce (Gcm.length_tag ..), if_pos rfl, Except.bind, readPlain, hplain]
  · rintro rfl
    exact judged_read key kind service stored

/-! ### The whole table -/

variable {rs : List CredentialRow}

/-- What is read for a service from the rows of the table. -/
def answer (key : CipherKey) (kind : Json.Kind α) (service : String) (rs : List CredentialRow) :
    Except CacheError (Option α) :=
  match rs.find? fun r => r.service = service with
  | none => .ok none
  | some row => ((decrypt key service row.creds).bind (readPlain kind)).map some

/-- Reading looks at the rows and changes nothing. -/
theorem run_get_eq_answer (kind : Json.Kind α) (service : String) (h : db.credentials = some rs) :
    (get key kind service).run db = (answer key kind service rs, db) := by
  have hrows : (ofStore (Store.rows .credentials)).run db = (.ok rs, db) :=
    run_ofStore_of_ok (Store.outcome_rows_of_some h)
  rw [get, run_bind_of_ok hrows, answer]
  cases rs.find? fun r => r.service = service with
  | none => rfl
  | some row =>
    dsimp only
    cases hplain : decrypt key service row.creds with
    | error e => rfl
    | ok plain =>
      rw [run_bind_of_ok (run_result (.ok plain) db), Except.bind]
      cases hvalue : readPlain kind plain with
      | error e => rfl
      | ok x => rfl

/-- Only the first row of the service counts. -/
theorem answer_of_first {before later : List CredentialRow} {row : CredentialRow}
    (hbefore : ∀ r ∈ before, r.service ≠ row.service) :
    answer key kind row.service (before ++ row :: later)
      = ((decrypt key row.service row.creds).bind (readPlain kind)).map some := by
  have hfind : (before ++ row :: later).find? (fun r => r.service = row.service) = some row := by
    refine List.find?_eq_some_iff_append.mpr ⟨by simp, before, later, rfl, fun r hr => ?_⟩
    simpa using hbefore r hr
  rw [answer, hfind]

/-- Where the service has no row, there is nothing to read. -/
theorem answer_of_none (h : ∀ r ∈ rs, r.service ≠ service) :
    answer key kind service rs = .ok none := by
  have hfind : rs.find? (fun r => r.service = service) = none := by
    rw [List.find?_eq_none]
    intro r hr
    simpa using h r hr
  rw [answer, hfind]

/-- After a value was set, its text is read, whatever stood in the table. -/
theorem answer_of_set (nonce : Nonce) (plain : List UInt8) (rs : List CredentialRow) :
    answer key kind service ((rs.filter fun r => !decide (r.service = service)) ++
      [⟨service, encrypt key nonce plain⟩]) = (readPlain kind plain).map some := by
  rw [answer, find?_filter_append rs ⟨service, _⟩]
  simp only [decrypt_encrypt, Except.bind]

/-- For another service the same is read as before. -/
theorem answer_of_set_other {other : String} (hne : other ≠ service) (stored : String)
    (rs : List CredentialRow) :
    answer key kind other ((rs.filter fun r => !decide (r.service = service)) ++
      [⟨service, stored⟩]) = answer key kind other rs := by
  have hfind : ((rs.filter fun r => !decide (r.service = service)) ++
      [(⟨service, stored⟩ : CredentialRow)]).find? (fun r => r.service = other)
        = rs.find? fun r => r.service = other := by
    have hlast :
        [(⟨service, stored⟩ : CredentialRow)].find? (fun r => r.service = other) = none := by
      simp [hne.symm]
    rw [List.find?_append, hlast, Option.or_none, List.find?_filter]
    -- a row of the other service is none of those that were removed
    refine congrArg (fun p => rs.find? p) (funext fun r => ?_)
    by_cases hr : r.service = other
    · simp [hr, hne]
    · simp [hr]
  rw [answer, answer, hfind]

/-- **Reading judges and never harms, and setting recovers.**  Whatever rows stand in the table,
nothing is read where the service has none, and otherwise its first row is judged, in exactly one
way; the rows stay as they are.  Setting a value puts one row in place of all those of its service
and leaves the others.  Then the text of that value is read, as the kind asks: this is the value
itself if its numbers are whole and it nests at most 127 deep, and the token if it is one.  For
other services the same is read as before. -/
theorem get_contained (key : CipherKey) (service : String) (hrows : db.credentials = some rs) :
    ((∀ r ∈ rs, r.service ≠ service) → ∀ {α : Type} (kind : Json.Kind α),
      (get key kind service).run db = (.ok none, db)) ∧
    (∀ before row later, rs = before ++ row :: later → row.service = service →
      (∀ r ∈ before, r.service ≠ service) → ∀ {α : Type} (kind : Json.Kind α),
      ∃ result, (∀ r, Judged key kind service row.creds r ↔ r = result) ∧
        (get key kind service).run db = (result.map some, db)) ∧
    ∀ nonce value, ∃ after, (set key nonce service value).run db = (.ok (), after) ∧
      after = { db with credentials := some ((rs.filter fun r => !decide (r.service = service)) ++
        [⟨service, encrypt key nonce (Text.utf8 value.compact)⟩]) } ∧
      (∀ {α : Type} (kind : Json.Kind α), (get key kind service).run after
        = ((readPlain kind (Text.utf8 value.compact)).map some, after)) ∧
      (Json.Storable 127 value → (get key .any service).run after = (.ok (some value), after)) ∧
      (∀ token : Token, value = token.toJson →
        (get key Token.kind service).run after = (.ok (some token), after)) ∧
      ∀ {α : Type} (kind : Json.Kind α) (other : String), other ≠ service → ∃ read,
        (get key kind other).run db = (read, db) ∧
        (get key kind other).run after = (read, after) := by
  refine ⟨?none, ?first, fun nonce value => ⟨_, run_set nonce service value hrows, rfl, ?set⟩⟩
  case none =>
    intro hnone α kind
    rw [run_get_eq_answer kind service hrows, answer_of_none hnone]
  case first =>
    rintro before row later rfl rfl hbefore α kind
    refine ⟨_, fun r => judged_iff.trans eq_comm, ?_⟩
    rw [run_get_eq_answer kind row.service hrows, answer_of_first hbefore]
  case set =>
    refine ⟨?text, ?value, ?token, ?other⟩
    case text =>
      intro α kind
      rw [run_get_eq_answer kind service rfl, answer_of_set]
    case value =>
      intro hvalue
      rw [run_get_eq_answer .any service rfl, answer_of_set, readPlain,
        Json.Kind.ofBytes?_any hvalue]
      rfl
    case token =>
      rintro token rfl
      rw [run_get_eq_answer Token.kind service rfl, answer_of_set, readPlain,
        token.ofBytes?_toJson]
      rfl
    case other =>
      intro α kind other hne
      refine ⟨_, run_get_eq_answer kind other hrows, ?_⟩
      rw [run_get_eq_answer kind other rfl, answer_of_set_other hne]

/-- A table with two damaged rows of one service, the first of them three bytes, and one of
another service. -/
def damaged : Database :=
  { Database.fresh with
    credentials := some [⟨"tidal", "?"⟩, ⟨"spotify", " AAAA\n"⟩, ⟨"spotify", "?"⟩] }

/-- The first of the damaged rows cannot be decrypted; the token that is set is read again. -/
theorem get_damaged :
    (get ⟨List.replicate 32 7, rfl⟩ Token.kind "spotify").run damaged
        = (.error (.undecryptable "spotify"), damaged) ∧
      ∃ after, (set ⟨List.replicate 32 7, rfl⟩ (.ofNat 1) "spotify" sampleToken.toJson).run damaged
          = (.ok (), after) ∧
        (after.credentials.map fun rows => rows.map CredentialRow.service)
          = some ["tidal", "spotify"] ∧
        (get ⟨List.replicate 32 7, rfl⟩ Token.kind "spotify").run after
          = (.ok (some sampleToken), after) := by
  have hrows : damaged.credentials
      = some [⟨"tidal", "?"⟩, ⟨"spotify", " AAAA\n"⟩, ⟨"spotify", "?"⟩] := rfl
  obtain ⟨-, hfirst, hset⟩ := get_contained ⟨List.replicate 32 7, rfl⟩ "spotify" hrows
  obtain ⟨result, hjudged, hget⟩ := hfirst [_] _ [_] rfl rfl (by simp) Token.kind
  have hthree : Text.trim " AAAA\n" = Base64.encode .standard [0, 0, 0] := by decide +kernel
  obtain rfl := (hjudged _).mp (.short hthree (by decide))
  obtain ⟨after, hrun, rfl, -, -, htoken, -⟩ := hset (.ofNat 1) sampleToken.toJson
  exact ⟨hget, _, hrun, rfl, htoken sampleToken rfl⟩

/-! #### A double -/

/-- A number whose sixteen figures are more than a double holds exactly. -/
def longDecimal : Json.Number := .real 9.112165250089001 (by decide +kernel)

/-- The number that those figures are read as. -/
def shortDecimal : Json.Number := .real 9.112165250089 (by decide +kernel)

/-- The figures are rounded once as a whole number and once more when the point is put in. -/
theorem ofBytes?_longDecimal : Json.Kind.any.ofBytes?
    (Text.utf8 (Json.number longDecimal).compact) = some (.number shortDecimal) := by
  have hcompact : (Json.number longDecimal).compact = "9.112165250089001" := by decide +kernel
  have hchars : "9.112165250089001".toList.map some
      = some '9' :: ".112165250089001".toList.map some := by decide
  have hnumber : Json.Reader.number (some '9' :: ".112165250089001".toList.map some)
      = some (shortDecimal, []) := by decide +kernel
  have hvalue : Json.Reader.value Json.nestingLimit
      (some '9' :: ".112165250089001".toList.map some) = some (.number shortDecimal, []) := by
    rw [Json.Reader.value_eq_scalar (by decide) (by decide),
      Json.Reader.scalar_of_number (.inr (by decide)), hnumber]
    rfl
  have hbegins : Json.Reader.Begins "9.112165250089001".toList := ⟨'9', _, rfl, by decide⟩
  have hskip := Json.Reader.skipBlanks_of_begins hbegins []
  rw [List.append_nil, hchars] at hskip
  rw [Json.Kind.ofBytes?, Text.Utf8.decode_utf8, hcompact, hchars, Json.whole, hskip]
  simp only [Json.Kind.any, Json.Reader.shaped_everything, hvalue]
  rfl

/-- What is read after a double was set need not be that double. -/
theorem get_rounded :
    ∃ after, (set ⟨List.replicate 32 7, rfl⟩ (.ofNat 1) "spotify" (.number longDecimal)).run
          Database.fresh = (.ok (), after) ∧
      (get ⟨List.replicate 32 7, rfl⟩ .any "spotify").run after
        = (.ok (some (.number shortDecimal)), after) ∧
      Json.number shortDecimal ≠ .number longDecimal := by
  have hempty : Database.fresh.credentials = some [] := rfl
  have hset : (set ⟨List.replicate 32 7, rfl⟩ (.ofNat 1) "spotify" (.number longDecimal)).run
      Database.fresh = _ := run_set _ _ _ hempty
  have hne : shortDecimal ≠ longDecimal := by decide +kernel
  refine ⟨_, hset, run_get_set hset ofBytes?_longDecimal, fun heq => ?_⟩
  exact hne (Json.number.inj heq)

end Cache

end SmartPlaylist
