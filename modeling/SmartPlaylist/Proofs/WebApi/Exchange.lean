import SmartPlaylist.Proofs.Session.Trace
import SmartPlaylist.WebApi.Client

/-!
# Requests and their answers

A network can keep a trace of what goes over it.  The client does the same on it as on the network
itself, and the trace shows every request it sent, with the answer.

## Main definitions

* `Exchange`, `Network.traced` — a request with its answer, and a network that keeps them.
* `Network.exchange`, `Network.sent` — a request that is sent now, and the network then.
* `Client.Config.traced` — a client on that network.
* `Exchange.IsForm` — a request for a token.

## Main results

* `Network.run_transmit_traced` — sending a request adds it to the trace.
* `Client.projects_send` — the client does the same without a trace.
-/

namespace SmartPlaylist

variable {τ τ' α : Type}

/-- A request with its answer, if one came. -/
structure Exchange where
  request : HttpRequest
  answer : Option HttpResponse

namespace Network

/-- A network that keeps a trace of what goes over it. -/
def traced (net : Network τ) : Network (Traced τ Exchange) where
  send request t :=
    ((net.send request t.state).1,
      ⟨(net.send request t.state).2, t.trace ++ [⟨request, (net.send request t.state).1⟩]⟩)
  now t := net.now t.state
  sleep seconds t := ⟨net.sleep seconds t.state, t.trace⟩
  nonce t := ((net.nonce t.state).1, ⟨(net.nonce t.state).2, t.trace⟩)

/-- A request that is sent now, with its answer. -/
def exchange (net : Network τ) (request : HttpRequest) (t : τ) : Exchange :=
  ⟨request, (net.send request t).1⟩

/-- The network once a request was sent. -/
def sent (net : Network τ) (request : HttpRequest) (t : Traced τ Exchange) : Traced τ Exchange :=
  ⟨(net.send request t.state).2, t.trace ++ [net.exchange request t.state]⟩

end Network

namespace Client

/-- The client told to use the network that keeps a trace. -/
def Config.traced (cfg : Config τ) : Config (Traced τ Exchange) where
  net := cfg.net.traced
  settings := cfg.settings
  key := cfg.key
  attemptLimit := cfg.attemptLimit

/-- The client with another state of the network. -/
def map (π : τ' → τ) (c : Client τ') : Client τ where
  network := π c.network
  token := c.token
  database := c.database
  userId := c.userId
  notices := c.notices

/-- The client without the trace. -/
abbrev untraced (c : Client (Traced τ Exchange)) : Client τ := c.map Traced.state

end Client

/-! ### Without a trace -/

/-- A result that depends on no state. -/
theorem Projects.ofExcept {σ σ' ε : Type} {π : σ' → σ} (x : Except ε α) :
    Projects π (ExceptT.mk (Pure.pure x) : ExceptT ε (StateM σ') α) (ExceptT.mk (Pure.pure x)) :=
  fun _ => rfl

namespace Network

theorem run_transmit (net : Network τ) (request : HttpRequest) (t : τ) :
    (net.transmit request).run t =
      if request.isSendable then
        ((net.send request t).1.elim (.error (.http .unreachable)) .ok, (net.send request t).2)
      else (.error (.http .unreachable), t) := by
  show (if request.isSendable = true then _ else _) = _
  by_cases hsendable : request.isSendable = true
  · rw [if_pos hsendable, if_pos hsendable]
    rcases net.send request t with ⟨_ | response, after⟩ <;> rfl
  · rw [if_neg hsendable, if_neg hsendable]

theorem run_transmit_of_not_isSendable (net : Network τ) {request : HttpRequest}
    (h : ¬request.isSendable = true) (t : τ) :
    (net.transmit request).run t = (.error (.http .unreachable), t) := by
  rw [run_transmit, if_neg h]

/-- **Sending a request adds it to the trace.** -/
theorem run_transmit_traced (net : Network τ) {request : HttpRequest}
    (h : request.isSendable = true) (t : Traced τ Exchange) :
    (net.traced.transmit request).run t =
      ((net.exchange request t.state).answer.elim (.error (.http .unreachable)) .ok,
        net.sent request t) := by
  rw [run_transmit, if_pos h]
  rfl

theorem projects_transmit (net : Network τ) (request : HttpRequest) :
    Projects Traced.state (net.traced.transmit request) (net.transmit request) := by
  intro t
  rw [run_transmit, run_transmit]
  split <;> rfl

end Network

theorem Grant.projects_requestToken (net : Network τ) (s : Settings)
    (pairs : List (String × String)) (secret : Option (String × String)) :
    Projects Traced.state (requestToken net.traced s pairs secret)
      (requestToken net s pairs secret) := by
  unfold requestToken
  split
  · exact .throw _
  · refine (net.projects_transmit _).bind fun response => ?_
    exact (Projects.ofExcept _).bind fun response => .ofExcept _

theorem Grant.projects_refresh (net : Network τ) (s : Settings) (refreshToken : String) :
    Projects Traced.state (refresh net.traced s refreshToken) (refresh net s refreshToken) := by
  refine (Projects.ofExcept _).bind fun clientId => ?_
  exact (projects_requestToken net s _ _).bind fun response => fun t => rfl

namespace Client

theorem run_onNetwork (a : Network.Action τ α) (c : Client τ) :
    (onNetwork a).run c
      = ((a.run c.network).1, { c with network := (a.run c.network).2 }) := rfl

theorem projects_onNetwork {a' : Network.Action τ' α} {a : Network.Action τ α} {π : τ' → τ}
    (h : Projects π a' a) : Projects (Client.map π) (onNetwork a') (onNetwork a) := by
  intro c
  have hnetwork : (c.map π).network = π c.network := rfl
  rw [run_onNetwork, run_onNetwork, hnetwork, h]
  rfl

theorem persist_traced (cfg : Config τ) (c : Client (Traced τ Exchange)) :
    persist cfg c.untraced = ((persist cfg.traced c).1, (persist cfg.traced c).2.untraced) := rfl

theorem run_adopt_of_ok {cfg : Config τ} {token : Token} {c after : Client τ}
    (h : persist cfg { c with token } = (.ok (), after)) :
    (adopt cfg token).run c = (.ok (), after) := by
  simp only [adopt, ExceptT.run, ExceptT.mk, h]

/-- A token that cannot be kept is used all the same. -/
theorem run_adopt_of_error {cfg : Config τ} {token : Token} {c after : Client τ} {e : CacheError}
    (h : persist cfg { c with token } = (.error e, after)) :
    (adopt cfg token).run c
      = (.ok (), { after with notices := after.notices ++ [.tokenNotSaved e.message] }) := by
  simp only [adopt, ExceptT.run, ExceptT.mk, h]

theorem projects_adopt (cfg : Config τ) (token : Token) :
    Projects untraced (adopt cfg.traced token) (adopt cfg token) := by
  intro c
  have hpersist : persist cfg { c.untraced with token }
      = ((persist cfg.traced { c with token }).1,
        (persist cfg.traced { c with token }).2.untraced) := persist_traced cfg { c with token }
  rcases htraced : persist cfg.traced { c with token } with ⟨e | ⟨⟩, after⟩
  · rw [htraced] at hpersist
    rw [run_adopt_of_error htraced, run_adopt_of_error hpersist]
    rfl
  · rw [htraced] at hpersist
    rw [run_adopt_of_ok htraced, run_adopt_of_ok hpersist]

/-- A token is used until it is about to expire, and then it is renewed.  When its lifetime cannot
be added up, the call ends there. -/
theorem run_validToken (cfg : Config τ) (c : Client τ) :
    (validToken cfg).run c =
      match c.token.isExpiredAt? (cfg.net.now c.network) with
      | none => (.error .uncountableSeconds, c)
      | some false => (.ok c.token.accessToken, c)
      | some true => (renewedToken cfg c.token.refreshToken).run c := by
  have hget : (get : Action τ (Client τ)).run c = (.ok c, c) := rfl
  rw [validToken, run_bind_of_ok hget]
  rcases c.token.isExpiredAt? (cfg.net.now c.network) with _ | _ | _ <;> rfl

theorem projects_validToken (cfg : Config τ) :
    Projects untraced (validToken cfg.traced) (validToken cfg) := by
  have hrenewed (refreshToken : String) :
      Projects untraced (renewedToken cfg.traced refreshToken) (renewedToken cfg refreshToken) :=
    (projects_onNetwork (Grant.projects_refresh _ _ _)).bind fun fresh =>
      (projects_adopt cfg fresh).bind fun _ => fun _ => rfl
  intro c
  have htime : cfg.traced.net.now c.network = cfg.net.now c.untraced.network := rfl
  have htoken : c.untraced.token = c.token := rfl
  rw [run_validToken, run_validToken, htime, htoken]
  split
  · rfl
  · rfl
  · exact hrenewed _ c

/-! ### Tries -/

/-- What follows an answer: another try, unless the answer is final. -/
def followUp (cfg : Config τ) (retry : Action τ HttpResponse) (response : HttpResponse) :
    Action τ HttpResponse :=
  if response.status = 429 then
    let seconds := retryAfter response
    if longestWait < seconds then do
      remark (.longWait seconds)
      throw (.rateLimited seconds)
    else do
      modify fun c => { c with network := cfg.net.sleep seconds c.network }
      retry
  else if response.status = 502 then do
    modify fun c => { c with network := cfg.net.sleep unavailableWait c.network }
    retry
  else ExceptT.mk (pure (Network.succeed response))

theorem attempt_succ (cfg : Config τ) (request : HttpRequest) (fuel : Nat) :
    attempt cfg (some request) (fuel + 1) = (do
      let token ← validToken cfg
      let response ← onNetwork (cfg.net.transmit (request.withToken token))
      followUp cfg (attempt cfg (some request) fuel) response) := rfl

/-- Without a request there is nothing to try once there is a token. -/
theorem attempt_succ_none (cfg : Config τ) (fuel : Nat) :
    attempt cfg none (fuel + 1) = (do
      let _ ← validToken cfg
      throw (.http .unreachable)) := rfl

theorem projects_followUp (cfg : Config τ) {retry' : Action (Traced τ Exchange) HttpResponse}
    {retry : Action τ HttpResponse} (h : Projects untraced retry' retry)
    (response : HttpResponse) :
    Projects untraced (followUp cfg.traced retry' response) (followUp cfg retry response) := by
  have hsleep (seconds : Nat) : Projects untraced
      (modify fun c => { c with network := cfg.traced.net.sleep seconds c.network } :
        Action (Traced τ Exchange) Unit)
      (modify fun c => { c with network := cfg.net.sleep seconds c.network }) := fun _ => rfl
  have hremark (n : RemoteNotice) : Projects untraced (remark n : Action (Traced τ Exchange) Unit)
      (remark n) := fun _ => rfl
  unfold followUp
  by_cases hbusy : response.status = 429
  · rw [if_pos hbusy, if_pos hbusy]
    by_cases hlong : longestWait < retryAfter response
    · simp only [if_pos hlong]
      exact (hremark _).bind fun _ => .throw _
    · simp only [if_neg hlong]
      exact (hsleep _).bind fun _ => h
  · rw [if_neg hbusy, if_neg hbusy]
    split
    · exact (hsleep _).bind fun _ => h
    · exact .ofExcept _

theorem projects_attempt (cfg : Config τ) (request : Option HttpRequest) (fuel : Nat) :
    Projects untraced (attempt cfg.traced request fuel) (attempt cfg request fuel) := by
  induction fuel with
  | zero => exact .throw _
  | succ fuel ih =>
    cases request with
    | none =>
      rw [attempt_succ_none, attempt_succ_none]
      exact (projects_validToken cfg).bind fun _ => .throw _
    | some request =>
      rw [attempt_succ, attempt_succ]
      refine (projects_validToken cfg).bind fun token => ?_
      refine (projects_onNetwork (cfg.net.projects_transmit _)).bind fun response => ?_
      exact projects_followUp cfg ih response

/-- **The client does the same without a trace.** -/
theorem projects_send (cfg : Config τ) (request : Option HttpRequest) :
    Projects untraced (send cfg.traced request) (send cfg request) :=
  projects_attempt cfg request _

end Client

/-! ### The trace -/

/-- A request for a token. -/
def Exchange.IsForm (x : Exchange) : Prop :=
  x.request.contentType = some "application/x-www-form-urlencoded"

namespace Client

/-- What went over the network so far. -/
def trace (c : Client (Traced τ Exchange)) : List Exchange := c.network.trace

end Client

end SmartPlaylist
