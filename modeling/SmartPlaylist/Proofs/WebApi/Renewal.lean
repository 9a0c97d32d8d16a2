import SmartPlaylist.Proofs.Codec.Base64
import SmartPlaylist.Proofs.Credential.Cache
import SmartPlaylist.Proofs.WebApi.Exchange

/-!
# Tokens are renewed

An access token is used until it is about to expire, and then a fresh one is asked for in return for
the refresh token.  The service may answer without a new refresh token, or not answer at all; the
client never forgets the one that was issued last.  A fresh token goes into the credential cache,
and is used all the same where it cannot be put there.

## Main definitions

* `Exchange.AsksFor`, `Exchange.issued?` — a request for a fresh token, and what it brought.
* `Exchange.Refuses`, `Grant.CannotRefresh` — why an exchange brought no token, and why there is none.
* `lastRefreshToken` — the refresh token that was issued last.
* `Client.Kept`, `Client.Serves` — what becomes of a fresh token, and what one call comes to.
* `Client.validTokens` — calls one after another, with time between them.

## Main results

* `Client.exists_adopt` — a fresh token is cached unless the cache cannot be written.
* `Client.exists_serves` — **one call for a valid token.**
* `Client.validTokens_lifecycle` — **the refresh token that was issued last is never lost.**
-/

namespace SmartPlaylist

variable {τ : Type}

/-! ### Asking for fresh tokens -/

namespace Exchange

/-- The exchange sends a form to the address that gives tokens. -/
structure Carries (s : Settings) (pairs : List (String × String)) (x : Exchange) : Prop where
  isForm : x.IsForm
  method_eq : x.request.method = .post
  url_eq : Url.parse s.tokenUrl = some x.request.url
  body_eq : x.request.body = Url.Form.encode pairs

/-- The exchange asks for a fresh token in return for a refresh token. -/
def AsksFor (s : Settings) (refreshToken : String) (x : Exchange) : Prop :=
  ∃ clientId, s.requireClientId = .ok clientId ∧ x.Carries s
    [("grant_type", "refresh_token"), ("refresh_token", refreshToken), ("client_id", clientId)]

/-- What the exchange brought: a token, unless no answer came, an error was reported, or the answer
cannot be read. -/
def issued? (x : Exchange) : Option TokenResponse :=
  x.answer.bind fun response =>
    if response.isError then none else TokenResponse.kind.ofBytes? response.body

/-- Why the exchange brought no token: no answer came, an error was reported, or the answer cannot be
read. -/
inductive Refuses (x : Exchange) : RemoteError → Prop where
  | unanswered (hanswer : x.answer = none) : Refuses x (.http .unreachable)
  | reported {response : HttpResponse} (hanswer : x.answer = some response)
      (herror : response.isError = true) : Refuses x (.http (.status response.status))
  | unreadable {response : HttpResponse} (hanswer : x.answer = some response)
      (hfine : response.isError = false)
      (hbody : TokenResponse.kind.ofBytes? response.body = none) : Refuses x (.http .unreadableBody)

theorem Refuses.issued?_eq_none {x : Exchange} {e : RemoteError} (h : x.Refuses e) :
    x.issued? = none := by
  cases h with
  | unanswered hanswer =>
    rw [issued?, hanswer]
    rfl
  | reported hanswer herror =>
    rw [issued?, hanswer]
    exact if_pos herror
  | unreadable hanswer hfine hbody =>
    rw [issued?, hanswer, ← hbody]
    exact if_neg (Bool.eq_false_iff.mp hfine)

/-- What the client reads from the exchange. -/
def reading (x : Exchange) : Except RemoteError TokenResponse :=
  match x.answer with
  | none => .error (.http .unreachable)
  | some response => Network.succeed response >>= Network.content TokenResponse.kind

/-- The token that an exchange brought is read from it, or there is a reason why not. -/
theorem reading_cases (x : Exchange) :
    (∃ response, x.issued? = some response ∧ x.reading = .ok response) ∨
      ∃ e, x.Refuses e ∧ x.reading = .error e := by
  obtain ⟨request, _ | response⟩ := x
  · exact .inr ⟨_, .unanswered rfl, rfl⟩
  · have hreading : reading ⟨request, some response⟩
        = Network.succeed response >>= Network.content TokenResponse.kind := rfl
    by_cases herror : response.isError = true
    · refine .inr ⟨_, .reported rfl herror, ?_⟩
      rw [hreading, Network.succeed, if_pos herror]
      rfl
    · have hissued : issued? ⟨request, some response⟩
          = TokenResponse.kind.ofBytes? response.body := if_neg herror
      have hcontent : reading ⟨request, some response⟩
          = Network.content TokenResponse.kind response := by
        rw [hreading, Network.succeed, if_neg herror]
        rfl
      rw [hissued, hcontent, Network.content]
      cases hbody : TokenResponse.kind.ofBytes? response.body with
      | some issued => exact .inl ⟨issued, rfl, rfl⟩
      | none => exact .inr ⟨_, .unreadable rfl (Bool.eq_false_iff.mpr herror) hbody, rfl⟩

end Exchange

/-- The refresh token that was issued last, which at first is the one at hand. -/
def lastRefreshToken (first : String) (exchanges : List Exchange) : String :=
  exchanges.foldl (fun last x => ((x.issued?.bind TokenResponse.refreshToken).getD last)) first

/-- More exchanges go on from what was issued before. -/
theorem lastRefreshToken_append (first : String) (earlier later : List Exchange) :
    lastRefreshToken first (earlier ++ later)
      = lastRefreshToken (lastRefreshToken first earlier) later := List.foldl_append

/-- An exchange that brought nothing issues no refresh token. -/
theorem lastRefreshToken_of_issued?_eq_none {x : Exchange} (h : x.issued? = none)
    (first : String) : lastRefreshToken first [x] = first := by
  rw [lastRefreshToken, List.foldl_cons, List.foldl_nil, h]
  rfl

/-- A fresh token has the refresh token that came with it, or else the one it was asked for with. -/
theorem lastRefreshToken_singleton {x : Exchange} {response : TokenResponse}
    (h : x.issued? = some response) (first : String) (now : UInt64) :
    lastRefreshToken first [x] = (Token.ofResponse response (some first) now).refreshToken := by
  rw [lastRefreshToken, List.foldl_cons, List.foldl_nil, h, Option.bind_some, Token.ofResponse]
  cases response.refreshToken with
  | none => rfl
  | some issued => rfl

/-- A request with a password can be sent: nothing but digits stands in its text. -/
theorem HttpRequest.isSendable_withPassword (r : HttpRequest) (user password : String) :
    (r.withPassword user password).isSendable = true := by
  have hdigit : ∀ n < 64, 0x20 ≤ (Base64.digit .standard n).toNat ∧
      (Base64.digit .standard n).toNat ≠ 0x7F := by decide
  have htext := Base64.forall_mem_encodeChars
    (P := fun c => 0x20 ≤ c.toNat ∧ c.toNat ≠ 0x7F) hdigit (by decide)
    (Text.utf8 (user ++ ":" ++ password))
  have hscheme : ("Basic ".toList.all fun c => 0x20 ≤ c.toNat ∧ c.toNat ≠ 0x7F) = true := by
    decide
  rw [List.all_eq_true] at hscheme
  simp only [isSendable, withPassword, Option.all_some, String.toList_append, Base64.encode,
    String.toList_ofList, List.all_append, Bool.and_eq_true, List.all_eq_true, Bool.or_eq_true,
    decide_eq_true_eq]
  exact ⟨fun c hc => .inr (of_decide_eq_true (hscheme c hc)), fun c hc => .inr (htext c hc)⟩

/-- A form goes out once, and its answer is read. -/
theorem Network.run_transmitForm (net : Network τ) {request : HttpRequest}
    (hsendable : request.isSendable = true) (t : Traced τ Exchange) :
    (do
      let response ← net.traced.transmit request
      let response ← ExceptT.mk (pure (Network.succeed response))
      ExceptT.mk (pure (Network.content TokenResponse.kind response)) :
        Network.Action (Traced τ Exchange) TokenResponse).run t
      = ((net.exchange request t.state).reading, net.sent request t) := by
  have hrun := net.run_transmit_traced hsendable t
  unfold Exchange.reading
  cases hanswer : (net.exchange request t.state).answer with
  | none =>
    rw [hanswer] at hrun
    exact run_bind_of_error hrun
  | some response =>
    rw [hanswer] at hrun
    rw [run_bind_of_ok hrun]
    dsimp only
    cases Network.succeed response <;> rfl

namespace Grant

/-- What goes over the network for a form, what it comes to, and the state of the network then. -/
inductive Asked (net : Network τ) (s : Settings) (pairs : List (String × String))
    (t : Traced τ Exchange) :
    List Exchange → Except RemoteError TokenResponse → Traced τ Exchange → Prop where
  | unsent (haddress : Url.parse s.tokenUrl = none) :
      Asked net s pairs t [] (.error (.http .unreachable)) t
  | refused {request : HttpRequest} {e : RemoteError}
      (hform : (net.exchange request t.state).Carries s pairs)
      (hnothing : (net.exchange request t.state).Refuses e) :
      Asked net s pairs t [net.exchange request t.state] (.error e) (net.sent request t)
  | issued {request : HttpRequest} {response : TokenResponse}
      (hform : (net.exchange request t.state).Carries s pairs)
      (hissued : (net.exchange request t.state).issued? = some response) :
      Asked net s pairs t [net.exchange request t.state] (.ok response) (net.sent request t)

/-- **A form is sent** if there is an address for it. -/
theorem exists_requestToken (net : Network τ) (s : Settings) (pairs : List (String × String))
    (secret : Option (String × String)) (t : Traced τ Exchange) :
    ∃ exchanges result after,
      (requestToken net.traced s pairs secret).run t = (result, after) ∧
      after.trace = t.trace ++ exchanges ∧ Asked net s pairs t exchanges result after := by
  cases hurl : Url.parse s.tokenUrl with
  | none =>
    have hrun : (requestToken net.traced s pairs secret).run t
        = (.error (.http .unreachable), t) := by
      rw [requestToken, hurl]
      rfl
    exact ⟨[], _, t, hrun, (List.append_nil _).symm, .unsent hurl⟩
  | some url =>
    obtain ⟨request, hsendable, hform, hrun⟩ : ∃ request : HttpRequest,
        request.isSendable = true ∧ (net.exchange request t.state).Carries s pairs ∧
        (requestToken net.traced s pairs secret).run t
          = ((net.exchange request t.state).reading, net.sent request t) := by
      unfold requestToken
      rw [hurl]
      cases secret with
      | none =>
        exact ⟨.withForm url pairs, rfl, ⟨rfl, rfl, hurl, rfl⟩, net.run_transmitForm rfl t⟩
      | some secret =>
        have hsendable := HttpRequest.isSendable_withPassword (.withForm url pairs) secret.1 secret.2
        exact ⟨_, hsendable, ⟨rfl, rfl, hurl, rfl⟩, net.run_transmitForm hsendable t⟩
    rw [hrun]
    obtain ⟨response, hissued, hreading⟩ | ⟨e, hrefuses, hreading⟩ :=
      (net.exchange request t.state).reading_cases
    · rw [hreading]
      exact ⟨[_], _, _, rfl, rfl, .issued hform hissued⟩
    · rw [hreading]
      exact ⟨[_], _, _, rfl, rfl, .refused hform hrefuses⟩

/-- Why no fresh token can be asked for: the application or the address that gives tokens is not
known. -/
inductive CannotRefresh (s : Settings) : RemoteError → Prop where
  | noClient {e : SettingError} (hclient : s.requireClientId = .error e) :
      CannotRefresh s (.setting e)
  | noAddress {clientId : String} (hclient : s.requireClientId = .ok clientId)
      (haddress : Url.parse s.tokenUrl = none) : CannotRefresh s (.http .unreachable)

/-- How a fresh token is asked for: what goes over the network, what it comes to, and the state of the
network then. -/
inductive Renewed (net : Network τ) (s : Settings) (refreshToken : String)
    (t : Traced τ Exchange) :
    List Exchange → Except RemoteError Token → Traced τ Exchange → Prop where
  | unsent {e : RemoteError} (hcannot : CannotRefresh s e) :
      Renewed net s refreshToken t [] (.error e) t
  | refused {request : HttpRequest} {e : RemoteError}
      (hform : (net.exchange request t.state).AsksFor s refreshToken)
      (hnothing : (net.exchange request t.state).Refuses e) :
      Renewed net s refreshToken t [net.exchange request t.state] (.error e) (net.sent request t)
  | issued {request : HttpRequest} {response : TokenResponse}
      (hform : (net.exchange request t.state).AsksFor s refreshToken)
      (hissued : (net.exchange request t.state).issued? = some response) :
      Renewed net s refreshToken t [net.exchange request t.state]
        (.ok (Token.ofResponse response (some refreshToken) (net.now (net.sent request t).state)))
        (net.sent request t)

theorem required_eq_ok {setting : Except SettingError String} {value : String}
    (h : required setting = .ok value) : setting = .ok value := by
  cases setting with
  | error e => nomatch h
  | ok value' =>
    obtain rfl : value' = value := Except.ok.inj h
    rfl

theorem required_eq_error {setting : Except SettingError String} {e : RemoteError}
    (h : required setting = .error e) : ∃ e', setting = .error e' ∧ e = .setting e' := by
  cases setting with
  | error e' => exact ⟨e', rfl, (Except.error.inj h).symm⟩
  | ok value => nomatch h

/-- A required setting is looked up without the network. -/
theorem run_required {setting : Except SettingError String} {result : Except RemoteError String}
    (h : required setting = result) (t : τ) :
    (ExceptT.mk (pure (required setting)) : Network.Action τ String).run t = (result, t) :=
  congrArg (·, t) h

/-- **Asking for a fresh token.** -/
theorem exists_refresh (net : Network τ) (s : Settings) (refreshToken : String)
    (t : Traced τ Exchange) :
    ∃ exchanges result after, (refresh net.traced s refreshToken).run t = (result, after) ∧
      after.trace = t.trace ++ exchanges ∧ Renewed net s refreshToken t exchanges result after := by
  cases hclient : required s.requireClientId with
  | error e =>
    obtain ⟨e', hset, rfl⟩ := required_eq_error hclient
    refine ⟨[], _, t, run_bind_of_error (run_required hclient t), (List.append_nil _).symm, ?_⟩
    exact .unsent (.noClient hset)
  | ok clientId =>
    have hid : s.requireClientId = .ok clientId := required_eq_ok hclient
    obtain ⟨exchanges, result, after, hsent, htrace, hasked⟩ := exists_requestToken net s
      [("grant_type", "refresh_token"), ("refresh_token", refreshToken), ("client_id", clientId)]
      (s.clientSecret.map fun secret => (clientId, secret)) t
    cases hasked with
    | unsent haddress =>
      refine ⟨[], _, t, ?_, htrace, .unsent (.noAddress hid haddress)⟩
      exact (run_bind_of_ok (run_required hclient t)).trans (run_bind_of_error hsent)
    | refused hform hnothing =>
      refine ⟨[_], _, _, ?_, htrace, .refused ⟨clientId, hid, hform⟩ hnothing⟩
      exact (run_bind_of_ok (run_required hclient t)).trans (run_bind_of_error hsent)
    | issued hform hissued =>
      refine ⟨[_], _, _, ?_, htrace, .issued ⟨clientId, hid, hform⟩ hissued⟩
      rw [refresh, run_bind_of_ok (run_required hclient t), run_bind_of_ok hsent]
      rfl

end Grant

/-! ### One call -/

namespace Client

/-- A fresh token is in the credential cache and nothing else was written, or the cache could not be
written, which a remark says. -/
inductive Kept (key : CipherKey) (database : Database) (notices : List RemoteNotice)
    (after : Client τ) : Prop where
  | cached (hcached : cachedToken key after.database = .ok after.token)
      (hothers : after.database = { database with credentials := after.database.credentials })
      (hnotices : after.notices = notices)
  | notSaved {nonce : Nonce} {e : CacheError}
      (hset : (Cache.set key nonce credentialService after.token.toJson).run database
        = (.error e, database))
      (hdatabase : after.database = database)
      (hnotices : after.notices = notices ++ [.tokenNotSaved e.message])

/-- What is set for the client is what it finds there. -/
theorem cachedToken_of_set {key : CipherKey} {nonce : Nonce} {token : Token} {db after : Database}
    (h : (Cache.set key nonce credentialService token.toJson).run db = (.ok (), after)) :
    cachedToken key after = .ok token := by
  have hget := Cache.run_get_set h token.ofBytes?_toJson
  rw [cachedToken, hget]

/-- **A fresh token is cached** unless the cache cannot be written; it is used in any case. -/
theorem exists_adopt (cfg : Config τ) (token : Token) (c : Client τ) :
    ∃ after, (adopt cfg token).run c = (.ok (), after) ∧ after.token = token ∧
      after.network = (cfg.net.nonce c.network).2 ∧ after.userId = c.userId ∧
      Kept cfg.key c.database c.notices after := by
  have hpersist : persist cfg { c with token }
      = (((Cache.set cfg.key (cfg.net.nonce c.network).1 credentialService token.toJson).run
          c.database).1,
        { c with
          token
          network := (cfg.net.nonce c.network).2
          database := ((Cache.set cfg.key (cfg.net.nonce c.network).1 credentialService
            token.toJson).run c.database).2 }) := rfl
  cases hrows : c.database.credentials with
  | none =>
    obtain ⟨e, hset⟩ : ∃ e, (Cache.set cfg.key (cfg.net.nonce c.network).1 credentialService
        token.toJson).run c.database = (.error e, c.database) :=
      Cache.run_set_of_none _ _ _ hrows
    rw [hset] at hpersist
    exact ⟨_, run_adopt_of_error hpersist, rfl, rfl, rfl, .notSaved hset rfl rfl⟩
  | some rs =>
    have hset : (Cache.set cfg.key (cfg.net.nonce c.network).1 credentialService
        token.toJson).run c.database = _ := Cache.run_set _ _ _ hrows
    rw [hset] at hpersist
    exact ⟨_, run_adopt_of_ok hpersist, rfl, rfl, rfl, .cached (cachedToken_of_set hset) rfl rfl⟩

/-- What a call for a valid token comes to.  A token that is not about to expire is given as it is; one
whose lifetime cannot be added up ends the call.  Otherwise one form goes out with the refresh token
at hand, unless a setting for it is missing.  When it brings no token, the call fails for the reason
that the answer gives, and nothing but the network changes; when it does, the fresh token takes the
place of the one at hand, and its access token is given. -/
inductive Serves (cfg : Config τ) (c : Client (Traced τ Exchange)) :
    Except RemoteError String → Client (Traced τ Exchange) → List Exchange → Prop where
  | uncountable (hexpired : c.token.isExpiredAt? (cfg.net.now c.network.state) = none) :
      Serves cfg c (.error .uncountableSeconds) c []
  | held (hvalid : c.token.isExpiredAt? (cfg.net.now c.network.state) = some false) :
      Serves cfg c (.ok c.token.accessToken) c []
  | unsent {e : RemoteError}
      (hexpired : c.token.isExpiredAt? (cfg.net.now c.network.state) = some true)
      (hcannot : Grant.CannotRefresh cfg.settings e) : Serves cfg c (.error e) c []
  | refused {request : HttpRequest} {e : RemoteError}
      (hexpired : c.token.isExpiredAt? (cfg.net.now c.network.state) = some true)
      (hform : (cfg.net.exchange request c.network.state).AsksFor cfg.settings
        c.token.refreshToken)
      (hnothing : (cfg.net.exchange request c.network.state).Refuses e) :
      Serves cfg c (.error e) { c with network := cfg.net.sent request c.network }
        [cfg.net.exchange request c.network.state]
  | renewed {request : HttpRequest} {response : TokenResponse}
      {after : Client (Traced τ Exchange)}
      (hexpired : c.token.isExpiredAt? (cfg.net.now c.network.state) = some true)
      (hform : (cfg.net.exchange request c.network.state).AsksFor cfg.settings
        c.token.refreshToken)
      (hissued : (cfg.net.exchange request c.network.state).issued? = some response)
      (htoken : after.token = Token.ofResponse response (some c.token.refreshToken)
        (cfg.net.now (cfg.net.sent request c.network).state))
      (hnetwork : after.network = (cfg.traced.net.nonce (cfg.net.sent request c.network)).2)
      (huser : after.userId = c.userId) (hkept : Kept cfg.key c.database c.notices after) :
      Serves cfg c (.ok response.accessToken) after [cfg.net.exchange request c.network.state]

/-- **One call for a valid token.** -/
theorem exists_serves (cfg : Config τ) (c : Client (Traced τ Exchange)) :
    ∃ result after exchanges, (validToken cfg.traced).run c = (result, after) ∧
      after.trace = c.trace ++ exchanges ∧ Serves cfg c result after exchanges := by
  rw [run_validToken]
  have hnow : cfg.traced.net.now c.network = cfg.net.now c.network.state := rfl
  rw [hnow]
  rcases hexpired : c.token.isExpiredAt? (cfg.net.now c.network.state) with _ | _ | _
  · exact ⟨_, _, [], rfl, (List.append_nil _).symm, .uncountable hexpired⟩
  · exact ⟨_, _, [], rfl, (List.append_nil _).symm, .held hexpired⟩
  · obtain ⟨exchanges, result, sent, hrefresh, htrace, hrenewed⟩ :=
      Grant.exists_refresh cfg.net cfg.settings c.token.refreshToken c.network
    have hasked : (onNetwork (Grant.refresh cfg.traced.net cfg.traced.settings
        c.token.refreshToken)).run c = (result, { c with network := sent }) := by
      rw [run_onNetwork]
      exact congrArg (fun p => (p.1, { c with network := p.2 })) hrefresh
    cases hrenewed with
    | unsent hcannot =>
      exact ⟨_, _, [], run_bind_of_error hasked, htrace, .unsent hexpired hcannot⟩
    | refused hform hnothing =>
      exact ⟨_, _, _, run_bind_of_error hasked, htrace, .refused hexpired hform hnothing⟩
    | @issued request response hform hissued =>
      obtain ⟨after, hadopt, htoken, hnetwork, huser, hkept⟩ := exists_adopt cfg.traced
        (Token.ofResponse response (some c.token.refreshToken)
          (cfg.net.now (cfg.net.sent request c.network).state))
        { c with network := cfg.net.sent request c.network }
      have hresult : (renewedToken cfg.traced c.token.refreshToken).run c
          = (.ok after.token.accessToken, after) := by
        rw [renewedToken, run_bind_of_ok hasked, run_bind_of_ok hadopt]
        rfl
      have haccess : after.token.accessToken = response.accessToken := by
        rw [htoken]
        rfl
      rw [haccess] at hresult
      have htrace' : after.trace = c.trace ++ [cfg.net.exchange request c.network.state] := by
        rw [trace, hnetwork]
        exact htrace
      exact ⟨_, after, _, hresult, htrace', .renewed hexpired hform hissued htoken hnetwork huser
        hkept⟩

namespace Serves

variable {cfg : Config τ} {c after : Client (Traced τ Exchange)}
  {result : Except RemoteError String} {exchanges : List Exchange}

theorem length_le (h : Serves cfg c result after exchanges) : exchanges.length ≤ 1 := by
  cases h with
  | uncountable | held | unsent => exact Nat.zero_le 1
  | refused | renewed => exact Nat.le_refl 1

/-- To get a valid token only forms are sent. -/
theorem isForm (h : Serves cfg c result after exchanges) : ∀ x ∈ exchanges, x.IsForm := by
  cases h with
  | uncountable | held | unsent => exact List.forall_mem_nil _
  | refused _ hform | renewed _ hform =>
    obtain ⟨clientId, -, hcarries⟩ := hform
    exact List.forall_mem_singleton.mpr hcarries.isForm

/-- The refresh token at hand stays the one that was issued last. -/
theorem refreshToken_eq (h : Serves cfg c result after exchanges) :
    after.token.refreshToken = lastRefreshToken c.token.refreshToken exchanges := by
  cases h with
  | uncountable | held | unsent => rfl
  | refused _ _ hnothing => exact (lastRefreshToken_of_issued?_eq_none hnothing.issued?_eq_none _).symm
  | renewed _ _ hissued htoken =>
    rw [htoken]
    exact (lastRefreshToken_singleton hissued _ _).symm

/-- The token in the cache stays the one at hand, unless a remark says otherwise. -/
theorem exists_remarks (h : Serves cfg c result after exchanges) :
    ∃ remarks, after.notices = c.notices ++ remarks ∧
      (remarks = [] → cachedToken cfg.key c.database = .ok c.token →
        cachedToken cfg.key after.database = .ok after.token) := by
  cases h with
  | uncountable | held | unsent | refused =>
    exact ⟨[], (List.append_nil _).symm, fun _ h => h⟩
  | renewed _ _ _ _ _ _ hkept =>
    cases hkept with
    | cached hcached _ hnotices =>
      exact ⟨[], hnotices.trans (List.append_nil _).symm, fun _ _ => hcached⟩
    | notSaved _ _ hnotices => exact ⟨_, hnotices, fun h => nomatch h⟩

end Serves

/-! ### Calls one after another -/

/-- The client when the network has changed, as it does while time passes. -/
def turned (turn : τ → τ) (c : Client τ) : Client τ := { c with network := turn c.network }

/-- The client after calls for a valid token, before each of which the network changes. -/
def validTokens (cfg : Config τ) (turns : List (τ → τ)) (c : Client τ) : Client τ :=
  turns.foldl (fun c turn => ((validToken cfg).run (c.turned turn)).2) c

/-- The network changes and its trace does not. -/
def lift (turn : τ → τ) (t : Traced τ Exchange) : Traced τ Exchange := ⟨turn t.state, t.trace⟩

/-- Without a trace the calls do the same. -/
theorem untraced_validTokens (cfg : Config τ) (turns : List (τ → τ))
    (c : Client (Traced τ Exchange)) :
    (validTokens cfg.traced (turns.map lift) c).untraced = validTokens cfg turns c.untraced := by
  induction turns generalizing c with
  | nil => rfl
  | cons turn turns ih =>
    have hturned : (c.turned (lift turn)).untraced = c.untraced.turned turn := rfl
    rw [List.map_cons, validTokens, List.foldl_cons, validTokens, List.foldl_cons, ← hturned,
      projects_validToken cfg (c.turned (lift turn))]
    exact ih _

/-- What calls leave behind: the refresh token that was issued last, and, unless a remark says
otherwise, the token at hand in the cache. -/
theorem exists_validTokens (cfg : Config τ) (turns : List (τ → τ))
    (c : Client (Traced τ Exchange)) :
    ∃ exchanges remarks,
      (validTokens cfg.traced (turns.map lift) c).trace = c.trace ++ exchanges ∧
      exchanges.length ≤ turns.length ∧
      (validTokens cfg.traced (turns.map lift) c).token.refreshToken
        = lastRefreshToken c.token.refreshToken exchanges ∧
      (validTokens cfg.traced (turns.map lift) c).notices = c.notices ++ remarks ∧
      (remarks = [] → cachedToken cfg.key c.database = .ok c.token →
        cachedToken cfg.key (validTokens cfg.traced (turns.map lift) c).database
          = .ok (validTokens cfg.traced (turns.map lift) c).token) := by
  induction turns generalizing c with
  | nil =>
    exact ⟨[], [], (List.append_nil _).symm, Nat.le_refl 0, rfl, (List.append_nil _).symm,
      fun _ h => h⟩
  | cons turn turns ih =>
    obtain ⟨result, mid, first, hrun, htrace, hserves⟩ := exists_serves cfg (c.turned (lift turn))
    have hmid : validTokens cfg.traced ((turn :: turns).map lift) c
        = validTokens cfg.traced (turns.map lift) mid := by
      rw [List.map_cons, validTokens, List.foldl_cons, hrun]
      rfl
    obtain ⟨remarks, hnotices, hcached⟩ := hserves.exists_remarks
    obtain ⟨later, remarks', htrace', hlength, htoken, hnotices', hcached'⟩ := ih mid
    rw [hmid]
    refine ⟨first ++ later, remarks ++ remarks', ?_, ?_, ?_, ?_, fun hnone hbefore => ?_⟩
    · rw [htrace', htrace, List.append_assoc]
      rfl
    · have hone := hserves.length_le
      rw [List.length_append, List.length_cons]
      omega
    · rw [htoken, hserves.refreshToken_eq, lastRefreshToken_append]
      rfl
    · rw [hnotices', hnotices, List.append_assoc]
      rfl
    · obtain ⟨hfirst, hlater⟩ := List.append_eq_nil_iff.mp hnone
      exact hcached' hlater (hcached hfirst hbefore)

/-- **The refresh token that was issued last is never lost.**  After any calls for a valid token, with
the network changing between them in any way, the refresh token at hand is the one that was issued
last, and the token in the cache is the one at hand unless a remark says otherwise.  The next call is
as `Serves` says, and its form carries that refresh token. -/
theorem validTokens_lifecycle (cfg : Config τ) (c : Client (Traced τ Exchange))
    (turns : List (τ → τ)) (turn : τ → τ) :
    ∃ held exchanges remarks result after more,
      held = (validTokens cfg.traced (turns.map lift) c).turned (lift turn) ∧
      held.untraced = (validTokens cfg turns c.untraced).turned turn ∧
      held.trace = c.trace ++ exchanges ∧ exchanges.length ≤ turns.length ∧
      held.token.refreshToken = lastRefreshToken c.token.refreshToken exchanges ∧
      held.notices = c.notices ++ remarks ∧
      (remarks = [] → cachedToken cfg.key c.database = .ok c.token →
        cachedToken cfg.key held.database = .ok held.token) ∧
      (validToken cfg.traced).run held = (result, after) ∧
      (validToken cfg).run held.untraced = (result, after.untraced) ∧
      after.trace = held.trace ++ more ∧ Serves cfg held result after more := by
  obtain ⟨exchanges, remarks, htrace, hlength, htoken, hnotices, hcached⟩ :=
    exists_validTokens cfg turns c
  obtain ⟨result, after, more, hrun, htrace', hserves⟩ :=
    exists_serves cfg ((validTokens cfg.traced (turns.map lift) c).turned (lift turn))
  refine ⟨_, exchanges, remarks, result, after, more, rfl, ?_, htrace, hlength, htoken, hnotices,
    hcached, hrun, (projects_validToken cfg).run_eq hrun, htrace', hserves⟩
  rw [← untraced_validTokens]
  rfl

end Client

end SmartPlaylist
