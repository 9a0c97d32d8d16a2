import SmartPlaylist.Authorization.Callback
import SmartPlaylist.Proofs.WebApi.Renewal

/-!
# Waiting for the user to come back

The server that waits for the user answers any requests in any order.  It redeems a code only for a
request that brings one and no error, and always shows the secret that it had from the start.  The
token it holds is the one of the exchange that succeeded last; no request takes it away, and it came
with a refresh token.

## Main definitions

* `Exchange.Redeems`, `Exchange.granted?` — a request for a token in return for a code, and what a
  successful one brought.
* `Callback.serve` — requests one after another, with time between them.
* `Callback.Answers`, `Callback.Holds` — what one request comes to, and what the server holds.

## Main results

* `Grant.exists_exchangeCode` — redeeming a code.
* `Callback.exists_answers` — **one request.**
* `Callback.serve_lifecycle` — **the token at hand is the one of the last successful exchange.**
-/

namespace SmartPlaylist

variable {τ τ' : Type}

/-! ### Redeeming codes -/

/-- The form that goes out for a code and the secret that belongs to it. -/
def Grant.codeForm (clientId redirectUri code verifier : String) : List (String × String) :=
  [("grant_type", "authorization_code"), ("client_id", clientId), ("code", code),
    ("code_verifier", verifier), ("redirect_uri", redirectUri)]

namespace Exchange

/-- The exchange asks for a token in return for a code, and shows the secret that belongs to it. -/
def Redeems (s : Settings) (code verifier : String) (x : Exchange) : Prop :=
  ∃ clientId redirectUri, s.requireClientId = .ok clientId ∧
    s.requireRedirectUri = .ok redirectUri ∧
      x.Carries s (Grant.codeForm clientId redirectUri code verifier)

/-- What a successful exchange brought: a token together with a refresh token. -/
def granted? (x : Exchange) : Option TokenResponse :=
  x.issued?.filter fun response => response.refreshToken.isSome

theorem granted?_eq_some {x : Exchange} {response : TokenResponse} :
    x.granted? = some response ↔
      x.issued? = some response ∧ response.refreshToken.isSome = true := Option.filter_eq_some_iff

theorem granted?_of_issued?_eq_none {x : Exchange} (h : x.issued? = none) : x.granted? = none := by
  rw [granted?, h]
  rfl

end Exchange

/-- What the exchange that succeeded last brought. -/
def lastGrant (exchanges : List Exchange) : Option TokenResponse :=
  (exchanges.filterMap Exchange.granted?).getLast?

theorem lastGrant_eq_none {exchanges : List Exchange} :
    lastGrant exchanges = none ↔ ∀ x ∈ exchanges, x.granted? = none := by
  rw [lastGrant, List.getLast?_eq_none_iff, List.filterMap_eq_nil_iff]

theorem exists_granted_of_lastGrant {exchanges : List Exchange} {response : TokenResponse}
    (h : lastGrant exchanges = some response) :
    ∃ x ∈ exchanges, x.granted? = some response :=
  List.mem_filterMap.mp (List.mem_of_getLast? h)

/-- Exchanges that failed do not count. -/
theorem lastGrant_append_of_forall {later : List Exchange} (h : ∀ x ∈ later, x.granted? = none)
    (earlier : List Exchange) : lastGrant (earlier ++ later) = lastGrant earlier := by
  rw [lastGrant, List.filterMap_append, List.filterMap_eq_nil_iff.mpr h, List.append_nil, lastGrant]

/-- An exchange that succeeds is the last one. -/
theorem lastGrant_concat {x : Exchange} {response : TokenResponse} (h : x.granted? = some response)
    (earlier : List Exchange) : lastGrant (earlier ++ [x]) = some response := by
  rw [lastGrant, List.filterMap_append, List.filterMap_cons_some h, List.filterMap_nil,
    List.getLast?_concat]

namespace Grant

variable {s : Settings} {code verifier : String}

/-- What it takes to redeem codes: the application, the address to return to, and the address that
gives tokens. -/
def CanRedeem (s : Settings) : Prop :=
  ∃ clientId redirectUri url, s.requireClientId = .ok clientId ∧
    s.requireRedirectUri = .ok redirectUri ∧ Url.parse s.tokenUrl = some url

/-- How a code is redeemed: what goes over the network, what it comes to, and the state of the
network then. -/
inductive Redeemed (net : Network τ) (s : Settings) (code verifier : String)
    (t : Traced τ Exchange) :
    List Exchange → Except RemoteError Token → Traced τ Exchange → Prop where
  | unsent (e : RemoteError) (hcannot : ¬CanRedeem s) :
      Redeemed net s code verifier t [] (.error e) t
  | refused {x : Exchange} (e : RemoteError) (sent : Traced τ Exchange)
      (hform : x.Redeems s code verifier) (hnothing : x.granted? = none) :
      Redeemed net s code verifier t [x] (.error e) sent
  | granted {x : Exchange} {response : TokenResponse} (sent : Traced τ Exchange)
      (hform : x.Redeems s code verifier) (hgranted : x.granted? = some response) :
      Redeemed net s code verifier t [x]
        (.ok (Token.ofResponse response none (net.now sent.state))) sent

/-- What follows once the answer to a form is read. -/
def accept (net : Network τ) (response : TokenResponse) : Network.Action τ Token :=
  if response.refreshToken.isNone then
    throw (.auth "token response did not contain a refresh token")
  else stamp net response none

/-- Without a setting there is nothing to send. -/
theorem run_exchangeCode (net : Network τ) (s : Settings) (code verifier : String) (t : τ) :
    (∃ e, ¬CanRedeem s ∧ (exchangeCode net s code verifier).run t = (.error e, t)) ∨
    ∃ clientId redirectUri, s.requireClientId = .ok clientId ∧
      s.requireRedirectUri = .ok redirectUri ∧
      (exchangeCode net s code verifier).run t =
        (requestToken net s (codeForm clientId redirectUri code verifier) none >>=
          accept net).run t := by
  cases hclient : required s.requireClientId with
  | error e =>
    refine .inl ⟨e, ?_, run_bind_of_error (run_required hclient t)⟩
    rintro ⟨clientId, -, -, hset, -, -⟩
    rw [hset] at hclient
    nomatch hclient
  | ok clientId =>
    cases hredirect : required s.requireRedirectUri with
    | error e =>
      refine .inl ⟨e, ?_, ?_⟩
      · rintro ⟨-, redirectUri, -, -, hset, -⟩
        rw [hset] at hredirect
        nomatch hredirect
      · exact (run_bind_of_ok (run_required hclient t)).trans (run_bind_of_error (run_required hredirect t))
    | ok redirectUri =>
      refine .inr ⟨clientId, redirectUri, required_eq_ok hclient, required_eq_ok hredirect, ?_⟩
      exact (run_bind_of_ok (run_required hclient t)).trans (run_bind_of_ok (run_required hredirect t))

/-- An answer without a refresh token is refused. -/
theorem run_accept (net : Network τ) (response : TokenResponse) (t : τ) :
    (∃ e, response.refreshToken.isSome = false ∧ (accept net response).run t = (.error e, t)) ∨
    response.refreshToken.isSome = true ∧
      (accept net response).run t = (.ok (Token.ofResponse response none (net.now t)), t) := by
  unfold accept
  cases response.refreshToken with
  | none => exact .inl ⟨_, rfl, rfl⟩
  | some refreshToken => exact .inr ⟨rfl, rfl⟩

/-- **Redeeming a code.** -/
theorem exists_exchangeCode (net : Network τ) (s : Settings) (code verifier : String)
    (t : Traced τ Exchange) :
    ∃ exchanges result sent, (exchangeCode net.traced s code verifier).run t = (result, sent) ∧
      sent.trace = t.trace ++ exchanges ∧ Redeemed net s code verifier t exchanges result sent := by
  obtain ⟨e, hcannot, hrun⟩ | ⟨clientId, redirectUri, hclient, hredirect, hrun⟩ :=
    run_exchangeCode net.traced s code verifier t
  · exact ⟨[], .error e, t, hrun, (List.append_nil _).symm, .unsent e hcannot⟩
  rw [hrun]
  have hredeems {x : Exchange} (hform : x.Carries s (codeForm clientId redirectUri code verifier)) :
      x.Redeems s code verifier := ⟨clientId, redirectUri, hclient, hredirect, hform⟩
  obtain ⟨exchanges, result, sent, hsent, htrace, hasked⟩ :=
    exists_requestToken net s (codeForm clientId redirectUri code verifier) none t
  cases hasked with
  | unsent haddress =>
    refine ⟨[], _, t, run_bind_of_error hsent, htrace, .unsent _ ?_⟩
    rintro ⟨-, -, url, -, -, hsome⟩
    rw [haddress] at hsome
    nomatch hsome
  | refused hform hnothing =>
    refine ⟨[_], _, _, run_bind_of_error hsent, htrace, ?_⟩
    exact .refused _ _ (hredeems hform)
      (Exchange.granted?_of_issued?_eq_none hnothing.issued?_eq_none)
  | @issued request response hform hissued =>
    -- the answer can be read, but only one with a refresh token is accepted
    obtain ⟨e, hmissing, haccept⟩ | ⟨hrefresh, haccept⟩ :=
      run_accept net.traced response (net.sent request t)
    · refine ⟨[_], _, _, (run_bind_of_ok hsent).trans haccept, htrace, ?_⟩
      refine .refused e _ (hredeems hform) ?_
      rw [Exchange.granted?, hissued, Option.filter_some, hmissing]
      rfl
    · refine ⟨[_], _, _, (run_bind_of_ok hsent).trans haccept, htrace, ?_⟩
      exact .granted _ (hredeems hform) (Exchange.granted?_eq_some.mpr ⟨hissued, hrefresh⟩)

theorem projects_exchangeCode (net : Network τ) (s : Settings) (code verifier : String) :
    Projects Traced.state (exchangeCode net.traced s code verifier)
      (exchangeCode net s code verifier) := by
  refine (Projects.ofExcept _).bind fun clientId => (Projects.ofExcept _).bind fun redirectUri => ?_
  refine (projects_requestToken net s _ _).bind fun response => ?_
  split
  · exact (Projects.throw _).bind fun _ => fun _ => rfl
  · exact fun t => rfl

end Grant

/-! ### One request -/

namespace Callback

/-- The parameters of a request with which the service sends the user back. -/
def returned? (method target : String) : Option (List (String × String)) :=
  if String.ofList (target.toList.takeWhile (· ≠ '?')) = "/callback" ∧
      (method = "GET" ∨ method = "HEAD") then
    some (Url.Form.decode (String.ofList ((target.toList.dropWhile (· ≠ '?')).drop 1)))
  else none

/-- The code among parameters.  Beside an error it does not count. -/
def code? (pairs : List (String × String)) : Option String :=
  if (parameter? pairs "error").isSome then none else parameter? pairs "code"

/-- The code that a request brings. -/
def Visit.code? (visit : Visit τ) : Option String :=
  (returned? visit.method visit.target).bind Callback.code?

/-- A request of another kind changes nothing. -/
theorem respond_of_returned?_eq_none (net : Network τ) (settings : Settings)
    {method target : String} (h : returned? method target = none) (s : State τ) :
    (respond net settings method target s).2 = s := by
  unfold returned? at h
  unfold respond
  split at h
  · nomatch h
  next hnot =>
    dsimp only
    split
    · split
      · split
        · rfl
        -- a request for the other path would be one that comes back
        next hpath hmethod hhealth =>
          exact absurd ⟨hpath.resolve_left hhealth, hmethod⟩ hnot
      · rfl
    · rfl

theorem respond_of_returned?_eq_some (net : Network τ) (settings : Settings)
    {method target : String} {pairs : List (String × String)}
    (h : returned? method target = some pairs) (s : State τ) :
    respond net settings method target s = callback net settings pairs s := by
  unfold returned? at h
  split at h
  next hcallback =>
    obtain rfl := Option.some.inj h
    have hnot : ¬String.ofList (target.toList.takeWhile (· ≠ '?')) = "/health" := by
      rw [hcallback.1]
      decide
    unfold respond
    dsimp only
    rw [if_pos (.inr hcallback.1), if_pos hcallback.2, if_neg hnot]
  · nomatch h

/-- The state once a code is redeemed with the secret at hand. -/
def settled (s : State τ) (verifier : String) : Except RemoteError Token × τ → State τ
  | (.ok token, network) => { s with network, grant := some ⟨verifier, some token⟩ }
  | (.error e, network) =>
    { s with network, notices := s.notices ++ [.exchangeFailed e.message] }

/-- Without a code there is at most a notice. -/
theorem respond_of_code?_eq_none (net : Network τ) (settings : Settings) {visit : Visit τ'}
    (h : visit.code? = none) (s : State τ) :
    ∃ notices, (respond net settings visit.method visit.target s).2 = { s with notices } := by
  cases hreturned : returned? visit.method visit.target with
  | none => exact ⟨s.notices, respond_of_returned?_eq_none net settings hreturned s⟩
  | some pairs =>
    have hcode : code? pairs = none := Option.bind_eq_none_iff.mp h pairs hreturned
    rw [respond_of_returned?_eq_some net settings hreturned]
    unfold code? at hcode
    unfold callback
    cases herror : parameter? pairs "error" with
    | some reason => exact ⟨_, rfl⟩
    | none =>
      rw [herror] at hcode
      rw [show parameter? pairs "code" = none from hcode]
      exact ⟨s.notices, rfl⟩

/-- A code is redeemed with the secret at hand. -/
theorem respond_of_code?_eq_some (net : Network τ) (settings : Settings) {visit : Visit τ'}
    {code : String} (h : visit.code? = some code) {s : State τ} {verifier : String}
    {held : Option Token} (hgrant : s.grant = some ⟨verifier, held⟩) :
    (respond net settings visit.method visit.target s).2 =
      settled s verifier ((Grant.exchangeCode net settings code verifier).run s.network) := by
  obtain ⟨before, grant, notices⟩ := s
  obtain rfl : grant = some ⟨verifier, held⟩ := hgrant
  obtain ⟨pairs, hreturned, hcode⟩ := Option.bind_eq_some_iff.mp h
  rw [respond_of_returned?_eq_some net settings hreturned]
  unfold code? at hcode
  split at hcode
  · nomatch hcode
  next herror =>
    unfold callback
    rw [Option.not_isSome_iff_eq_none.mp herror, hcode]
    dsimp only
    rcases (Grant.exchangeCode net settings code verifier).run before with ⟨e | token, network⟩
    · rfl
    · rfl

/-- What a request comes to while a secret is at hand.  Without a code nothing goes over the network
and no token changes.  With a code one form goes out, with that code and the secret, unless a
setting is missing; when the exchange fails the server holds what it held before, and when it
succeeds the server holds its token. -/
inductive Answers (net : Network τ) (settings : Settings) (verifier : String) (visit : Visit τ)
    (s : State (Traced τ Exchange)) : State (Traced τ Exchange) → List Exchange → Prop where
  | codeless (notices : List Notice) (hcode : visit.code? = none) :
      Answers net settings verifier visit s { s with notices } []
  | unsent {code : String} (notices : List Notice) (hcode : visit.code? = some code)
      (hcannot : ¬Grant.CanRedeem settings) :
      Answers net settings verifier visit s { s with notices } []
  | refused {code : String} {sent : Traced τ Exchange} {x : Exchange} (notices : List Notice)
      (hcode : visit.code? = some code) (hform : x.Redeems settings code verifier)
      (hnothing : x.granted? = none) :
      Answers net settings verifier visit s { s with network := sent, notices } [x]
  | granted {code : String} {sent : Traced τ Exchange} {x : Exchange} {response : TokenResponse}
      (hcode : visit.code? = some code) (hform : x.Redeems settings code verifier)
      (hgranted : x.granted? = some response) :
      Answers net settings verifier visit s
        { s with
          network := sent
          grant := some ⟨verifier, some (Token.ofResponse response none (net.now sent.state))⟩ } [x]

/-- **One request.** -/
theorem exists_answers (net : Network τ) (settings : Settings) (visit : Visit τ)
    {s : State (Traced τ Exchange)} {verifier : String} {held : Option Token}
    (hgrant : s.grant = some ⟨verifier, held⟩) :
    ∃ after exchanges, (respond net.traced settings visit.method visit.target s).2 = after ∧
      after.network.trace = s.network.trace ++ exchanges ∧
      Answers net settings verifier visit s after exchanges := by
  cases hcode : visit.code? with
  | none =>
    obtain ⟨notices, hafter⟩ := respond_of_code?_eq_none net.traced settings hcode s
    exact ⟨_, [], hafter, (List.append_nil _).symm, .codeless notices hcode⟩
  | some code =>
    obtain ⟨exchanges, result, sent, hrun, htrace, hredeemed⟩ :=
      Grant.exists_exchangeCode net settings code verifier s.network
    have hafter := respond_of_code?_eq_some net.traced settings hcode hgrant
    rw [hrun] at hafter
    cases hredeemed with
    | unsent e hcannot => exact ⟨_, [], hafter, htrace, .unsent _ hcode hcannot⟩
    | refused e sent hform hnothing =>
      exact ⟨_, _, hafter, htrace, .refused _ hcode hform hnothing⟩
    | granted sent hform hgranted => exact ⟨_, _, hafter, htrace, .granted hcode hform hgranted⟩

/-- What the server holds: the secret from the start, and the token of the exchange that succeeded
last. -/
def Holds (verifier : String) (exchanges : List Exchange) (grant : Option PendingGrant) : Prop :=
  ∃ now, grant = some ⟨verifier,
    (lastGrant exchanges).map fun response => Token.ofResponse response none now⟩

/-- A request sent these, none without a code and each with the code and the secret. -/
structure Sends (settings : Settings) (verifier : String) (visit : Visit τ)
    (exchanges : List Exchange) : Prop where
  length_le : exchanges.length ≤ 1
  redeems : ∀ x ∈ exchanges, ∃ code, visit.code? = some code ∧ x.Redeems settings code verifier

namespace Answers

variable {net : Network τ} {settings : Settings} {verifier : String} {visit : Visit τ}
  {s after : State (Traced τ Exchange)} {exchanges earlier : List Exchange}

theorem sends (h : Answers net settings verifier visit s after exchanges) :
    Sends settings verifier visit exchanges := by
  cases h with
  | codeless | unsent => exact ⟨Nat.zero_le 1, List.forall_mem_nil _⟩
  | refused _ hcode hform | granted hcode hform =>
    exact ⟨Nat.le_refl 1, List.forall_mem_singleton.mpr ⟨_, hcode, hform⟩⟩

/-- The token at hand stays the one of the exchange that succeeded last. -/
theorem holds (h : Answers net settings verifier visit s after exchanges)
    (hs : Holds verifier earlier s.grant) : Holds verifier (earlier ++ exchanges) after.grant := by
  cases h with
  | codeless | unsent =>
    rw [List.append_nil]
    exact hs
  | refused _ _ _ hnothing =>
    unfold Holds
    rw [lastGrant_append_of_forall (List.forall_mem_singleton.mpr hnothing)]
    exact hs
  | @granted _ sent _ _ _ _ hgranted =>
    unfold Holds
    rw [lastGrant_concat hgranted]
    exact ⟨net.now sent.state, rfl⟩

end Answers

/-- A token at hand came with a refresh token. -/
theorem Holds.exists_issued {verifier : String} {exchanges : List Exchange}
    {grant : Option PendingGrant} (h : Holds verifier exchanges grant) :
    ∀ g ∈ grant, ∀ token ∈ g.token, ∃ x ∈ exchanges, ∃ response,
      x.issued? = some response ∧ response.refreshToken = some token.refreshToken := by
  obtain ⟨now, rfl⟩ := h
  rintro g ⟨⟩ token htoken
  obtain ⟨response, hlast, rfl⟩ := Option.map_eq_some_iff.mp htoken
  obtain ⟨x, hx, hgranted⟩ := exists_granted_of_lastGrant hlast
  obtain ⟨hissued, hsome⟩ := Exchange.granted?_eq_some.mp hgranted
  obtain ⟨refreshToken, hrefresh⟩ := Option.isSome_iff_exists.mp hsome
  refine ⟨x, hx, response, hissued, ?_⟩
  rw [Token.ofResponse, hrefresh]
  rfl

/-- The program waits as long as no exchange has succeeded. -/
theorem Holds.isAwaiting_iff {verifier : String} {exchanges : List Exchange}
    {grant : Option PendingGrant} (h : Holds verifier exchanges grant) :
    isAwaiting grant = true ↔ ∀ x ∈ exchanges, x.granted? = none := by
  obtain ⟨now, rfl⟩ := h
  rw [← lastGrant_eq_none, isAwaiting]
  cases lastGrant exchanges with
  | none => simp
  | some response => simp

/-! ### Requests one after another -/

/-- The state when the network has changed, as it does while time passes. -/
def State.turned (turn : τ → τ) (s : State τ) : State τ := { s with network := turn s.network }

/-- The state without the trace. -/
def State.untraced (s : State (Traced τ Exchange)) : State τ :=
  { s with network := s.network.state }

/-- The state after requests, before each of which the network changes. -/
def serve (net : Network τ) (settings : Settings) (visits : List (Visit τ)) (s : State τ) :
    State τ :=
  visits.foldl
    (fun s visit => (respond net settings visit.method visit.target (s.turned visit.turn)).2) s

/-- A request before which the network changes and its trace does not. -/
def Visit.lift (visit : Visit τ) : Visit (Traced τ Exchange) where
  turn := Client.lift visit.turn
  method := visit.method
  target := visit.target

/-- Without a trace a code is redeemed in the same way. -/
theorem untraced_callback (net : Network τ) (settings : Settings) (pairs : List (String × String))
    (s : State (Traced τ Exchange)) :
    (callback net.traced settings pairs s).2.untraced
      = (callback net settings pairs s.untraced).2 := by
  unfold callback
  cases parameter? pairs "error" with
  | some reason => rfl
  | none =>
    cases parameter? pairs "code" with
    | none => rfl
    | some code =>
      obtain ⟨network, _ | grant, notices⟩ := s
      · rfl
      · dsimp only [State.untraced]
        rw [Grant.projects_exchangeCode net settings code grant.verifier network]
        rcases (Grant.exchangeCode net.traced settings code grant.verifier).run network with
          ⟨e | token, after⟩
        · rfl
        · rfl

/-- Without a trace a request does the same. -/
theorem untraced_respond (net : Network τ) (settings : Settings) (method target : String)
    (s : State (Traced τ Exchange)) :
    (respond net.traced settings method target s).2.untraced
      = (respond net settings method target s.untraced).2 := by
  cases hreturned : returned? method target with
  | none =>
    rw [respond_of_returned?_eq_none net.traced settings hreturned,
      respond_of_returned?_eq_none net settings hreturned]
  | some pairs =>
    rw [respond_of_returned?_eq_some net.traced settings hreturned,
      respond_of_returned?_eq_some net settings hreturned]
    exact untraced_callback net settings pairs s

theorem untraced_serve (net : Network τ) (settings : Settings) (visits : List (Visit τ))
    (s : State (Traced τ Exchange)) :
    (serve net.traced settings (visits.map Visit.lift) s).untraced
      = serve net settings visits s.untraced := by
  induction visits generalizing s with
  | nil => rfl
  | cons visit visits ih =>
    have hturned :
        (s.turned (Client.lift visit.turn)).untraced = s.untraced.turned visit.turn := rfl
    rw [List.map_cons, serve, List.foldl_cons, serve, List.foldl_cons, ← hturned,
      ← untraced_respond]
    exact ih _

/-- What requests leave behind: each sent what it may, and the server holds the token of the
exchange that succeeded last. -/
theorem exists_serve (net : Network τ) (settings : Settings) {verifier : String}
    (visits : List (Visit τ)) {s : State (Traced τ Exchange)} {earlier : List Exchange}
    (hs : Holds verifier earlier s.grant) :
    ∃ sent, List.Forall₂ (Sends settings verifier) visits sent ∧
      (serve net.traced settings (visits.map Visit.lift) s).network.trace
        = s.network.trace ++ sent.flatten ∧
      Holds verifier (earlier ++ sent.flatten)
        (serve net.traced settings (visits.map Visit.lift) s).grant := by
  induction visits generalizing s earlier with
  | nil =>
    refine ⟨[], .nil, (List.append_nil _).symm, ?_⟩
    rw [List.flatten_nil, List.append_nil]
    exact hs
  | cons visit visits ih =>
    -- what is held after the first request is what the others start from
    have ⟨now, hgrant⟩ := hs
    obtain ⟨after, exchanges, hafter, htrace, hanswers⟩ :=
      exists_answers net settings visit (s := s.turned (Client.lift visit.turn)) hgrant
    have hserve : serve net.traced settings ((visit :: visits).map Visit.lift) s
        = serve net.traced settings (visits.map Visit.lift) after := by
      rw [← hafter]
      rfl
    obtain ⟨later, hsends, htrace', hholds⟩ := ih (hanswers.holds hs)
    rw [hserve]
    refine ⟨exchanges :: later, .cons hanswers.sends hsends, ?_, ?_⟩
    · rw [htrace', htrace, List.flatten_cons, List.append_assoc]
      rfl
    · rw [List.flatten_cons, ← List.append_assoc]
      exact hholds

/-- **The token at hand is the one of the last successful exchange.**  The server starts with a
secret and answers any requests, with the network changing between them in any way.  Each request
sent what it may: nothing without a code, and at most one form with its code and the secret.  The
server holds the secret and the token of the exchange that succeeded last, with the refresh token
that came with it; and it says that it still waits as long as no exchange has succeeded.  The next
request is as `Answers` says. -/
theorem serve_lifecycle (net : Network τ) (settings : Settings) (verifier : String)
    (t : Traced τ Exchange) (notices : List Notice) (visits : List (Visit τ)) (visit : Visit τ) :
    ∃ held sent awaiting after exchanges,
      held = serve net.traced settings (visits.map Visit.lift) ⟨t, some ⟨verifier, none⟩, notices⟩ ∧
      held.untraced = serve net settings visits ⟨t.state, some ⟨verifier, none⟩, notices⟩ ∧
      held.network.trace = t.trace ++ sent.flatten ∧
      List.Forall₂ (Sends settings verifier) visits sent ∧
      Holds verifier sent.flatten held.grant ∧
      (∀ g ∈ held.grant, ∀ token ∈ g.token, ∃ x ∈ sent.flatten, ∃ response,
        x.issued? = some response ∧ response.refreshToken = some token.refreshToken) ∧
      respond net settings "GET" "/health" held.untraced =
        (⟨200, .inl (.object [("awaiting_callback", .bool awaiting),
          ("service", .string "smartlists"), ("status", .string "ok"),
          ("version", .string "0.1.0-dev")])⟩, held.untraced) ∧
      (awaiting = true ↔ ∀ x ∈ sent.flatten, x.granted? = none) ∧
      after = (respond net.traced settings visit.method visit.target
        (held.turned (Client.lift visit.turn))).2 ∧
      after.untraced = (respond net settings visit.method visit.target
        (held.untraced.turned visit.turn)).2 ∧
      after.network.trace = held.network.trace ++ exchanges ∧
      Answers net settings verifier visit (held.turned (Client.lift visit.turn)) after
        exchanges := by
  -- before the first exchange any time will do, as there is no token
  have hstart : Holds verifier [] (some ⟨verifier, none⟩) := ⟨0, rfl⟩
  obtain ⟨sent, hsends, htrace, hholds⟩ := exists_serve net settings visits
    (s := ⟨t, some ⟨verifier, none⟩, notices⟩) hstart
  have ⟨now, hgrant⟩ := hholds
  obtain ⟨after, exchanges, hafter, htrace', hanswers⟩ := exists_answers net settings visit
    (s := (serve net.traced settings (visits.map Visit.lift)
      ⟨t, some ⟨verifier, none⟩, notices⟩).turned (Client.lift visit.turn)) hgrant
  refine ⟨_, sent, _, after, exchanges, rfl, untraced_serve net settings visits _, htrace, hsends,
    hholds, hholds.exists_issued, rfl, hholds.isAwaiting_iff, hafter.symm, ?_, htrace', hanswers⟩
  rw [← hafter, untraced_respond]
  rfl

end Callback

end SmartPlaylist
