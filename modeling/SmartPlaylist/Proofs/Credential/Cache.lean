import Mathlib.Data.List.Nodup
import SmartPlaylist.Credential.Cache
import SmartPlaylist.Credential.Token
import SmartPlaylist.Proofs.Credential.Key
import SmartPlaylist.Proofs.Json.RoundTrip
import SmartPlaylist.Proofs.Store.Outcome

/-!
# The credential cache is a map

Whatever is set and read, in any order and for any services: reading gives the value that was set
last for the service, and nothing where none was.  A stored text is read back through four layers,
base 64, the split into nonce and box, the box itself and the text of the value, and each of them
gives back exactly what was put in.  What the table holds is said once, as an invariant that every
request keeps.

## Main definitions

* `Cache.Request`, `Cache.perform` — what is asked of a cache, and doing it.
* `Cache.lastValue` — the value set last for a service.
* `Cache.Holds` — what the table holds after some requests.

## Main results

* `Cache.decrypt_encrypt` — a stored text gives back its plain text.
* `Cache.exists_perform` — each request keeps `Cache.Holds`.
* `Cache.perform_eq_map` — **the cache is a map from services to values.**
-/

namespace SmartPlaylist

/-! ### Stored texts -/

namespace Gcm

/-- A box is sixteen bytes longer than its message. -/
theorem length_close (cipher : Cipher) (nonce message : List UInt8) :
    (close cipher nonce message).length = message.length + 16 := by
  rw [close, List.length_append, length_applyStream, length_tag]

end Gcm

namespace Cache

/-- The bytes of a stored text: the nonce and the box. -/
def blob (key : CipherKey) (nonce : Nonce) (plain : List UInt8) : List UInt8 :=
  nonce.bytes ++ Gcm.close (cipher key) nonce.bytes plain

theorem length_blob (key : CipherKey) (nonce : Nonce) (plain : List UInt8) :
    (blob key nonce plain).length = 12 + plain.length + 16 := by
  rw [blob, List.length_append, nonce.length_eq, Gcm.length_close, Nat.add_assoc]

/-- **A stored text gives back its plain text.** -/
theorem decrypt_encrypt (key : CipherKey) (nonce : Nonce) (service : String)
    (plain : List UInt8) : decrypt key service (encrypt key nonce plain) = .ok plain := by
  have hread : Base64.decode .standard (Text.trim (encrypt key nonce plain))
      = some (blob key nonce plain) := by
    rw [encrypt, Base64.trim_encode, Base64.decode_encode]
    rfl
  have hlong : ¬(blob key nonce plain).length ≤ 12 := by
    rw [length_blob]
    omega
  have hnonce : (blob key nonce plain).take 12 = nonce.bytes := by
    rw [blob, ← nonce.length_eq, List.take_left]
  have hbox : (blob key nonce plain).drop 12 = Gcm.close (cipher key) nonce.bytes plain := by
    rw [blob, ← nonce.length_eq, List.drop_left]
  simp only [decrypt, hread, if_neg hlong, hnonce, hbox, Gcm.open?_close]

end Cache

/-! ### Tokens -/

namespace Token

/-- A token is a record of texts and whole numbers. -/
theorem storable_field (t : Token) (depth : Nat) {fs : List (String × Json)}
    (hfs : t.toJson = .object fs) : ∀ f ∈ fs, Json.Storable depth f.2 := by
  obtain rfl := Json.object.inj hfs
  simp only [List.forall_mem_cons, List.not_mem_nil, false_implies, implies_true, and_true]
  exact ⟨.string _, .string _, .string _, .whole _, .whole _⟩

theorem storable_toJson (t : Token) : Json.Storable 127 t.toJson :=
  .object (t.storable_field _ rfl)

/-- The record of a token gives the token. -/
theorem ofJson?_toJson (t : Token) : ofJson? t.toJson = some t := by
  have hnatural : ∀ n : UInt64, Json.natural? (.number (.whole (.ofWord n))) = some n := by
    intro n
    have hnonneg : 0 ≤ (Json.Whole.ofWord n).val := Int.natCast_nonneg _
    rw [Json.natural?, if_pos hnonneg]
    exact congrArg some UInt64.ofNat_toNat
  have hslots : t.toJson.slots ["access_token", "refresh_token", "scope", "expires_in",
        "obtained_at"]
      = some [.value (.string t.accessToken), .value (.string t.refreshToken),
          .value (.string t.scope), .value (.number (.whole (.ofWord t.expiresIn))),
          .value (.number (.whole (.ofWord t.obtainedAt)))] := rfl
  rw [ofJson?, hslots]
  simp [Slot.required, Json.text?, hnatural]

/-- A token is read back from its bytes. -/
theorem ofBytes?_toJson (t : Token) :
    kind.ofBytes? (Text.utf8 t.toJson.compact) = some t := by
  have hbegins : Json.Reader.Begins (Json.render t.toJson) :=
    Json.Reader.begins_render t.storable_toJson
  have htakes : Json.Reader.Takes (Json.Reader.shaped Json.nestingLimit kind.shape)
      (Json.render t.toJson) t.toJson :=
    Json.Reader.takes_record (by simp) (t.storable_field _ rfl)
  rw [Json.Kind.ofBytes?, Json.whole_decode hbegins htakes]
  exact t.ofJson?_toJson

end Token

namespace Cache

variable {α : Type} {key : CipherKey} {db after : Database}

/-! ### Actions on the credentials -/

/-- A result that does not depend on the database. -/
theorem run_result (r : Except CacheError α) (db : Database) :
    (ExceptT.mk (pure r) : Action α).run db = (r, db) := rfl

theorem run_ofStore_of_ok {a : Store.Action α} {x : α} (h : a.outcome db = (.ok x, after)) :
    (ofStore a).run db = (.ok x, after) := by
  simp only [ofStore, ExceptT.run, ExceptT.mk, h]

theorem run_ofStore_of_error {a : Store.Action α} {e : StoreError}
    (h : a.outcome db = (.error e, after)) :
    (ofStore a).run db = (.error (.store e), after) := by
  simp only [ofStore, ExceptT.run, ExceptT.mk, h]

/-- Where a service has no row, nothing is read. -/
theorem run_get_of_none {kind : Json.Kind α} {service : String} {rs : List CredentialRow}
    (h : db.credentials = some rs) (hnone : ∀ r ∈ rs, r.service ≠ service) :
    (get key kind service).run db = (.ok none, db) := by
  have hrows : (ofStore (Store.rows .credentials)).run db = (.ok rs, db) :=
    run_ofStore_of_ok (Store.outcome_rows_of_some h)
  have hfind : rs.find? (fun r => r.service = service) = none := by
    rw [List.find?_eq_none]
    intro r hr
    simpa using hnone r hr
  rw [get, run_bind_of_ok hrows, hfind]
  rfl

/-- What was encrypted in the first row of a service is read, as far as its kind reads the plain
text. -/
theorem run_get_of_find {kind : Json.Kind α} {service : String} {rs : List CredentialRow}
    {nonce : Nonce} {plain : List UInt8} {x : α} (h : db.credentials = some rs)
    (hfind : rs.find? (fun r => r.service = service)
      = some ⟨service, encrypt key nonce plain⟩) (hread : kind.ofBytes? plain = some x) :
    (get key kind service).run db = (.ok (some x), db) := by
  have hrows : (ofStore (Store.rows .credentials)).run db = (.ok rs, db) :=
    run_ofStore_of_ok (Store.outcome_rows_of_some h)
  rw [get, run_bind_of_ok hrows, hfind]
  have hplain : (ExceptT.mk (pure (decrypt key service (encrypt key nonce plain))) :
      Action (List UInt8)).run db = (.ok plain, db) := by
    rw [run_result, decrypt_encrypt]
  have hvalue : (ExceptT.mk (pure (readPlain kind plain)) : Action α).run db = (.ok x, db) := by
    rw [run_result, readPlain, hread]
  rw [run_bind_of_ok hplain, run_bind_of_ok hvalue]
  rfl

/-- So is what was encrypted for a service that has no other row. -/
theorem run_get_of_mem {kind : Json.Kind α} {service : String} {rs : List CredentialRow}
    {nonce : Nonce} {plain : List UInt8} {x : α} (h : db.credentials = some rs)
    (hkeyed : (rs.map CredentialRow.service).Nodup)
    (hmem : ⟨service, encrypt key nonce plain⟩ ∈ rs) (hread : kind.ofBytes? plain = some x) :
    (get key kind service).run db = (.ok (some x), db) := by
  have hfind : rs.find? (fun r => r.service = service)
      = some ⟨service, encrypt key nonce plain⟩ := by
    obtain ⟨before, later, rfl⟩ := List.append_of_mem hmem
    rw [List.map_append, List.map_cons, List.nodup_middle, List.nodup_cons] at hkeyed
    refine List.find?_eq_some_iff_append.mpr ⟨by simp, before, later, rfl, fun r hr => ?_⟩
    have hne : r.service ≠ service := fun heq => hkeyed.1
      (List.mem_append_left _ (List.mem_map.mpr ⟨r, hr, heq⟩))
    simpa using hne
  exact run_get_of_find h hfind hread

/-- Setting a value replaces the row of its service. -/
theorem run_set (nonce : Nonce) (service : String) (value : Json) {rs : List CredentialRow}
    (h : db.credentials = some rs) :
    (set key nonce service value).run db = (.ok (), { db with
      credentials := some ((rs.filter fun r => !decide (r.service = service)) ++
        [⟨service, encrypt key nonce (Text.utf8 value.compact)⟩]) }) := by
  have hdelete := Store.outcome_deleteWhere (t := .credentials)
    (p := fun r => decide (r.service = service)) h
  refine run_ofStore_of_ok (Store.outcome_transaction_of_ok ?_)
  rw [Store.outcome_bind_of_ok hdelete]
  exact Store.outcome_modifyRows_of_some rfl

/-- Without the table nothing is set. -/
theorem run_set_of_none (nonce : Nonce) (service : String) (value : Json)
    (h : db.credentials = none) :
    ∃ e, (set key nonce service value).run db = (.error e, db) := by
  have hdelete : (Store.deleteWhere .credentials fun r => decide (r.service = service)).outcome db
      = _ := Store.outcome_deleteWhere_of_none h
  exact ⟨_, run_ofStore_of_error
    (Store.outcome_transaction_of_error (Store.outcome_bind_of_error hdelete))⟩

/-- The row that is put in place of those of its service is the first of them. -/
theorem find?_filter_append (rs : List CredentialRow) (row : CredentialRow) :
    ((rs.filter fun r => !decide (r.service = row.service)) ++ [row]).find?
      (fun r => r.service = row.service) = some row := by
  refine List.find?_eq_some_iff_append.mpr ⟨by simp, _, [], rfl, fun r hr => ?_⟩
  exact (List.mem_filter.mp hr).2

/-- A value that was set is read back. -/
theorem run_get_set {kind : Json.Kind α} {nonce : Nonce} {service : String} {value : Json} {x : α}
    (hset : (set key nonce service value).run db = (.ok (), after))
    (hread : kind.ofBytes? (Text.utf8 value.compact) = some x) :
    (get key kind service).run after = (.ok (some x), after) := by
  cases hrows : db.credentials with
  | none =>
    obtain ⟨e, herror⟩ := run_set_of_none nonce service value hrows
    rw [herror] at hset
    nomatch (Prod.mk.inj hset).1
  | some rs =>
    rw [run_set nonce service value hrows] at hset
    obtain ⟨-, rfl⟩ := Prod.mk.inj hset
    exact run_get_of_find rfl (find?_filter_append rs ⟨service, _⟩) hread

/-! ### Requests -/

/-- What is asked of a cache. -/
inductive Request where
  | set (nonce : Nonce) (service : String) (value : Json)
  | get (service : String)

/-- Does what is asked; what is read is given. -/
def perform (key : CipherKey) : Request → Action (Option Json)
  | .set nonce service value => do
    Cache.set key nonce service value
    return none
  | .get service => Cache.get key .any service

/-- The value that a request sets for a service. -/
def Request.valueFor (service : String) : Request → Option Json
  | .set _ s value => if s = service then some value else none
  | .get _ => none

/-- The value set last for a service. -/
def lastValue (requests : List Request) (service : String) : Option Json :=
  (requests.filterMap (Request.valueFor service)).getLast?

/-- What is set can be stored: its numbers are whole, and it nests at most 127 deep. -/
def Request.IsStorable : Request → Prop
  | .set _ _ value => Json.Storable 127 value
  | .get _ => True

/-- What the table holds after some requests: for each service the value set last, encrypted, in a
row of its own. -/
structure Holds (key : CipherKey) (requests : List Request) (rs : List CredentialRow) : Prop where
  keyed : (rs.map CredentialRow.service).Nodup
  rows : ∀ r ∈ rs, ∃ nonce value, lastValue requests r.service = some value ∧
    Json.Storable 127 value ∧ r.creds = encrypt key nonce (Text.utf8 value.compact)
  complete : ∀ service value, lastValue requests service = some value →
    ∃ r ∈ rs, r.service = service

variable {requests : List Request} {rs : List CredentialRow}

theorem lastValue_set (nonce : Nonce) (s : String) (value : Json) (service : String) :
    lastValue (requests ++ [.set nonce s value]) service
      = if s = service then some value else lastValue requests service := by
  rw [lastValue, List.filterMap_append]
  by_cases h : s = service
  · simp [Request.valueFor, h]
  · simp [Request.valueFor, h, lastValue]

theorem lastValue_get (s service : String) :
    lastValue (requests ++ [.get s]) service = lastValue requests service := by
  rw [lastValue, List.filterMap_append]
  simp [Request.valueFor, lastValue]

theorem holds_nil (key : CipherKey) : Holds key [] [] where
  keyed := List.nodup_nil
  rows := List.forall_mem_nil _
  complete := fun _ _ h => nomatch h

/-- Setting a value keeps what is said about the table. -/
theorem Holds.set (h : Holds key requests rs) (nonce : Nonce) (service : String) {value : Json}
    (hvalue : Json.Storable 127 value) :
    Holds key (requests ++ [.set nonce service value])
      ((rs.filter fun r => !decide (r.service = service)) ++
        [⟨service, encrypt key nonce (Text.utf8 value.compact)⟩]) := by
  have hother : ∀ r ∈ rs.filter fun r => !decide (r.service = service),
      r ∈ rs ∧ r.service ≠ service := by
    intro r hr
    simpa using List.mem_filter.mp hr
  constructor
  · -- the rows that stay have other services
    rw [List.map_append, List.nodup_append]
    refine ⟨h.keyed.sublist (List.filter_sublist.map _), List.nodup_singleton _, ?_⟩
    intro s hs s' hs'
    obtain ⟨r, hr, rfl⟩ := List.mem_map.mp hs
    rw [List.mem_singleton.mp hs']
    exact (hother r hr).2
  · intro r hr
    rw [lastValue_set]
    rcases List.mem_append.mp hr with hr | hr
    · obtain ⟨hmem, hne⟩ := hother r hr
      rw [if_neg hne.symm]
      exact h.rows r hmem
    · rw [List.mem_singleton.mp hr, if_pos rfl]
      exact ⟨nonce, value, rfl, hvalue, rfl⟩
  · intro s v hs
    rw [lastValue_set] at hs
    by_cases hsame : service = s
    · exact ⟨_, List.mem_append_right _ (List.mem_singleton_self _), hsame⟩
    · rw [if_neg hsame] at hs
      obtain ⟨r, hr, hrs⟩ := h.complete s v hs
      have hne : r.service ≠ service := fun heq => hsame (heq.symm.trans hrs)
      exact ⟨r, List.mem_append_left _ (List.mem_filter.mpr ⟨hr, by simpa using hne⟩), hrs⟩

/-- Reading keeps it too. -/
theorem Holds.get (h : Holds key requests rs) (service : String) :
    Holds key (requests ++ [.get service]) rs where
  keyed := h.keyed
  rows := by simpa only [lastValue_get] using h.rows
  complete := by simpa only [lastValue_get] using h.complete

/-- **Reading gives the value set last**, as far as the kind reads what was stored for it. -/
theorem run_get {kind : Json.Kind α} (h : Holds key requests rs) (hrows : db.credentials = some rs)
    (service : String) (x : Option α)
    (hx : match lastValue requests service with
      | none => x = none
      | some value => ∃ y, x = some y ∧ kind.ofBytes? (Text.utf8 value.compact) = some y) :
    (Cache.get key kind service).run db = (.ok x, db) := by
  cases hlast : lastValue requests service with
  | none =>
    rw [hlast] at hx
    subst hx
    refine run_get_of_none hrows fun r hr heq => ?_
    obtain ⟨nonce, value, hvalue, -⟩ := h.rows r hr
    rw [heq, hlast] at hvalue
    nomatch hvalue
  | some value =>
    rw [hlast] at hx
    obtain ⟨y, rfl, hy⟩ := hx
    obtain ⟨r, hr, rfl⟩ := h.complete service value hlast
    obtain ⟨nonce, value', hvalue', -, hcreds⟩ := h.rows r hr
    obtain rfl : value = value' := Option.some.inj (hlast.symm.trans hvalue')
    have hmem : ⟨r.service, encrypt key nonce (Text.utf8 value.compact)⟩ ∈ rs := by
      rw [← hcreds]
      exact hr
    exact run_get_of_mem hrows h.keyed hmem hy

/-- Any value set last is read. -/
theorem run_get_any (h : Holds key requests rs) (hrows : db.credentials = some rs)
    (service : String) :
    (Cache.get key .any service).run db = (.ok (lastValue requests service), db) := by
  refine run_get h hrows service _ ?_
  cases hlast : lastValue requests service with
  | none => rfl
  | some value =>
    obtain ⟨r, hr, rfl⟩ := h.complete service value hlast
    obtain ⟨nonce, value', hvalue', hstorable, -⟩ := h.rows r hr
    obtain rfl : value = value' := Option.some.inj (hlast.symm.trans hvalue')
    exact ⟨value, rfl, Json.Kind.ofBytes?_any hstorable⟩

/-- A token set last is read as a token. -/
theorem run_get_token (h : Holds key requests rs) (hrows : db.credentials = some rs)
    (service : String) (token : Option Token)
    (hlast : lastValue requests service = token.map Token.toJson) :
    (Cache.get key Token.kind service).run db = (.ok token, db) := by
  refine run_get h hrows service token ?_
  rw [hlast]
  cases token with
  | none => rfl
  | some t => exact ⟨t, rfl, t.ofBytes?_toJson⟩

/-- **Each request keeps what is said about the table**, and a read gives the value set last. -/
theorem exists_perform (h : Holds key requests rs) (hrows : db.credentials = some rs)
    (request : Request) (hstorable : request.IsStorable) :
    ∃ answer rs', (perform key request).run db
        = (.ok answer, { db with credentials := some rs' }) ∧
      Holds key (requests ++ [request]) rs' ∧
      ∀ service, request = .get service → answer = lastValue requests service := by
  cases request with
  | set nonce service value =>
    refine ⟨none, _, ?_, h.set nonce service hstorable, fun _ heq => nomatch heq⟩
    rw [perform, run_bind_of_ok (run_set nonce service value hrows)]
    rfl
  | get service =>
    refine ⟨lastValue requests service, rs, ?_, h.get service, ?_⟩
    · rw [← hrows]
      exact run_get_any h hrows service
    · intro s heq
      rw [Request.get.inj heq]

/-- What a cache comes to when more is asked of it. -/
theorem exists_mapM_perform (h : Holds key requests rs) (hrows : db.credentials = some rs)
    (later : List Request) (hstorable : ∀ request ∈ later, request.IsStorable) :
    ∃ answers rs', (later.mapM (perform key)).run db
        = (.ok answers, { db with credentials := some rs' }) ∧
      Holds key (requests ++ later) rs' ∧
      ∀ before service rest, later = before ++ .get service :: rest →
        answers[before.length]? = some (lastValue (requests ++ before) service) := by
  induction later generalizing requests rs db with
  | nil =>
    refine ⟨[], rs, ?_, by rwa [List.append_nil], fun before service rest heq => ?_⟩
    · rw [← hrows]
      rfl
    · exact absurd heq (by simp)
  | cons request later ih =>
    -- the later requests meet the table that the first of them leaves
    rw [List.forall_mem_cons] at hstorable
    obtain ⟨answer, rs₁, hrun, hholds, hanswer⟩ := exists_perform h hrows request hstorable.1
    have hrows₁ : { db with credentials := some rs₁ }.credentials = some rs₁ := rfl
    obtain ⟨answers, rs₂, hrest, hholds', hanswers⟩ := ih hholds hrows₁ hstorable.2
    refine ⟨answer :: answers, rs₂, ?_, ?_, ?_⟩
    · rw [List.mapM_cons, run_bind_of_ok hrun, run_bind_of_ok hrest]
      rfl
    · rwa [List.append_assoc] at hholds'
    · intro before service rest heq
      cases before with
      | nil =>
        obtain ⟨rfl, rfl⟩ := List.cons.inj heq
        rw [List.append_nil]
        exact congrArg some (hanswer service rfl)
      | cons first before =>
        obtain ⟨rfl, hlater⟩ := List.cons.inj heq
        have hfound := hanswers before service rest hlater
        rwa [List.append_assoc] at hfound

/-- **The cache is a map from services to values.**  Whatever is asked of an empty cache, nothing
fails, and each read gives the value set last before it for its service.  Afterwards too: any value
set last is read, a token also as a token, and a value set for one service does not change what is
read for another.  The table has one row for each service at most, and in it the base 64 of nonce,
hidden text and tag.  Every token can be stored. -/
theorem perform_eq_map (key : CipherKey) (hempty : db.credentials = some [])
    (requests : List Request) (hstorable : ∀ request ∈ requests, request.IsStorable) :
    ∃ answers rs, (requests.mapM (perform key)).run db
        = (.ok answers, { db with credentials := some rs }) ∧
      (∀ before service rest, requests = before ++ .get service :: rest →
        answers[before.length]? = some (lastValue before service)) ∧
      (∀ service, (Cache.get key .any service).run { db with credentials := some rs }
        = (.ok (lastValue requests service), { db with credentials := some rs })) ∧
      (∀ service token, lastValue requests service = Option.map Token.toJson token →
        (Cache.get key Token.kind service).run { db with credentials := some rs }
          = (.ok token, { db with credentials := some rs })) ∧
      (∀ nonce service value other, Json.Storable 127 value → other ≠ service →
        ∃ after, (Cache.set key nonce service value).run { db with credentials := some rs }
            = (.ok (), after) ∧
          (Cache.get key .any service).run after = (.ok (some value), after) ∧
          (Cache.get key .any other).run after = (.ok (lastValue requests other), after)) ∧
      (rs.map CredentialRow.service).Nodup ∧
      (∀ r ∈ rs, ∃ value bytes, lastValue requests r.service = some value ∧
        r.creds = Base64.encode .standard bytes ∧
        bytes.length = 12 + (Text.utf8 value.compact).length + 16) ∧
      ∀ token : Token, Json.Storable 127 token.toJson := by
  obtain ⟨answers, rs, hrun, hholds, hanswers⟩ :=
    exists_mapM_perform (holds_nil key) hempty requests hstorable
  rw [List.nil_append] at hholds
  refine ⟨answers, rs, hrun, hanswers, fun service => run_get_any hholds rfl service,
    fun service token h => run_get_token hholds rfl service token h, ?_, hholds.keyed, ?_,
    Token.storable_toJson⟩
  · intro nonce service value other hvalue hne
    have hset := hholds.set nonce service hvalue
    refine ⟨_, run_set nonce service value rfl, ?_, ?_⟩
    · rw [run_get_any hset rfl service, lastValue_set, if_pos rfl]
    · rw [run_get_any hset rfl other, lastValue_set, if_neg hne.symm]
  · intro r hr
    obtain ⟨nonce, value, hvalue, -, hcreds⟩ := hholds.rows r hr
    exact ⟨value, blob key nonce (Text.utf8 value.compact), hvalue, hcreds,
      length_blob key nonce _⟩

/-! #### Two services -/

/-- A token with characters that are escaped, and some that take two bytes. -/
def sampleToken : Token := ⟨"a\"\\\n", "é", "", 3600, 18446744073709551615⟩

/-- One service is set twice and another once, the second time with the same nonce. -/
def sampleRequests : List Request :=
  [.set (.ofNat 1) "first" sampleToken.toJson, .get "first",
    .set (.ofNat 2) "" (.array [.null, .number (.whole ⟨-1, by decide, by decide⟩)]),
    .set (.ofNat 2) "first" (.object []), .get "first", .get "", .get "third"]

/-- Each read gives the value set last before it. -/
theorem perform_sampleRequests :
    ∃ answers after, (sampleRequests.mapM (perform ⟨List.replicate 32 7, rfl⟩)).run Database.fresh
        = (.ok answers, after) ∧
      answers[1]? = some (some sampleToken.toJson) ∧ answers[4]? = some (some (.object [])) ∧
      answers[5]? = some (some (.array [.null, .number (.whole ⟨-1, by decide, by decide⟩)])) ∧
      answers[6]? = some none := by
  have hempty : Database.fresh.credentials = some [] := rfl
  have hstorable : ∀ request ∈ sampleRequests, request.IsStorable := by
    simp only [sampleRequests, List.forall_mem_cons, Request.IsStorable, true_and,
      List.not_mem_nil, false_implies, implies_true, and_true]
    refine ⟨sampleToken.storable_toJson, .array ?_, .object (List.forall_mem_nil _)⟩
    simp only [List.forall_mem_cons, List.not_mem_nil, false_implies, implies_true, and_true]
    exact ⟨.null, .whole _⟩
  obtain ⟨answers, rs, hrun, hanswers, -⟩ :=
    perform_eq_map ⟨List.replicate 32 7, rfl⟩ hempty sampleRequests hstorable
  exact ⟨answers, _, hrun, hanswers [_] "first" _ rfl, hanswers [_, _, _, _] "first" _ rfl,
    hanswers [_, _, _, _, _] "" _ rfl, hanswers [_, _, _, _, _, _] "third" _ rfl⟩

end Cache

end SmartPlaylist
