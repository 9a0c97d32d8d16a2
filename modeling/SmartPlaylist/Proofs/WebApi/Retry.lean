import SmartPlaylist.Proofs.Decimal.Digits
import SmartPlaylist.Proofs.WebApi.Exchange

/-!
# Requests that are repeated

A request is tried again as long as the answers ask for it: after ten seconds when the service is
unavailable, and after the seconds that it states when it is busy, unless these are too many.  The
first other answer decides what the request comes to.  Every try has an access token of its own, and
without one no more tries are made.

The answers are those of a script, which may be any; the tokens come from any network beside it.

## Main definitions

* `HttpResponse.Asks`, `HttpResponse.CallsBack`, `HttpResponse.Decides` — what an answer means.
* `Network.scripted` — a network whose answers are a script, and which keeps a log.
* `Client.Tries`, `Client.Ends` — tries that are followed by another one, and what comes after them.

## Main results

* `HttpResponse.asks_iff` — the seconds that are read from an answer.
* `Client.Tries.log_eq` — what the log says of tries.
* `Client.exists_attempt` — the tries of a request, as far as the script goes.
* `Client.send_scripted` — **a request is repeated as the answers ask for it.**
-/

namespace SmartPlaylist

variable {τ α : Type}

/-! ### Answers -/

namespace HttpResponse

variable {x : HttpResponse} {n : Nat}

/-- The answer asks for a wait of so many seconds: of those that its header states, or of one second
if that states none. -/
def Asks (x : HttpResponse) (n : Nat) : Prop :=
  (∃ text, x.headers.lookup "retry-after" = some text ∧ Decimal.Denotes text n) ∨
    n = 1 ∧ ∀ text, x.headers.lookup "retry-after" = some text → ∀ m, ¬Decimal.Denotes text m

/-- The answer is followed by another try, so many seconds later. -/
inductive CallsBack (x : HttpResponse) : Nat → Prop where
  | unavailable (hstatus : x.status = 502) : CallsBack x 10
  | busy {n : Nat} (hstatus : x.status = 429) (hasks : x.Asks n) (hshort : n ≤ 120) : CallsBack x n

/-- What a request comes to when this is the last answer, and the remarks that are left. -/
inductive Decides (x : HttpResponse) :
    Except RemoteError HttpResponse → List RemoteNotice → Prop where
  | limited {n : Nat} (hstatus : x.status = 429) (hasks : x.Asks n) (hlong : 120 < n) :
    Decides x (.error (.rateLimited n)) [.longWait n]
  | refused (hlow : 400 ≤ x.status) (hhigh : x.status < 600) (hbusy : x.status ≠ 429)
      (hdown : x.status ≠ 502) : Decides x (.error (.http (.status x.status))) []
  | accepted (hfine : ¬(400 ≤ x.status ∧ x.status < 600)) : Decides x (.ok x) []

/-- **The seconds that are read from an answer** are those that it asks for. -/
theorem asks_iff : x.Asks n ↔ Client.retryAfter x = n := by
  rw [Asks, Client.retryAfter]
  cases x.headers.lookup "retry-after" with
  | none => simp [eq_comm]
  | some text =>
    rw [Option.bind_some]
    cases hnumber : Decimal.natural? text with
    | some m =>
      have hm : Decimal.Denotes text m := Decimal.natural?_eq_some_iff.mp hnumber
      rw [Option.getD_some]
      constructor
      · rintro (⟨text', htext, hn⟩ | ⟨-, hnone⟩)
        · obtain rfl := Option.some.inj htext
          rw [Decimal.natural?_eq_some_iff.mpr hn] at hnumber
          exact (Option.some.inj hnumber).symm
        · exact absurd hm (hnone text rfl m)
      · rintro rfl
        exact .inl ⟨text, rfl, hm⟩
    | none =>
      have hnone (m : Nat) : ¬Decimal.Denotes text m := by
        intro hm
        rw [Decimal.natural?_eq_some_iff.mpr hm] at hnumber
        exact Option.some_ne_none m hnumber
      rw [Option.getD_none]
      constructor
      · rintro (⟨text', htext, hn⟩ | ⟨rfl, -⟩)
        · obtain rfl := Option.some.inj htext
          exact absurd hn (hnone n)
        · rfl
      · rintro rfl
        refine .inr ⟨rfl, fun text' htext => ?_⟩
        obtain rfl := Option.some.inj htext
        exact hnone

end HttpResponse

namespace Client

variable {cfg : Config τ} {retry : Action τ HttpResponse} {x : HttpResponse}

/-- After an answer that calls back the time passes, and another try is made. -/
theorem run_followUp_of_callsBack {n : Nat} (h : x.CallsBack n) (c : Client τ) :
    (followUp cfg retry x).run c
      = retry.run { c with network := cfg.net.sleep n c.network } := by
  cases h with
  | unavailable hstatus =>
    have hbusy : ¬x.status = 429 := by
      rw [hstatus]
      decide
    rw [followUp, if_neg hbusy, if_pos hstatus]
    rfl
  | busy hstatus hasks hshort =>
    have hwait : retryAfter x = n := HttpResponse.asks_iff.mp hasks
    have hlong : ¬longestWait < n := Nat.not_lt.mpr hshort
    rw [followUp, if_pos hstatus, hwait]
    simp only [if_neg hlong]
    rfl

/-- Any other answer decides. -/
theorem exists_followUp_of_not_callsBack (cfg : Config τ) (retry : Action τ HttpResponse)
    (h : ∀ n, ¬x.CallsBack n) :
    ∃ result remarks, x.Decides result remarks ∧ ∀ c : Client τ,
      (followUp cfg retry x).run c = (result, { c with notices := c.notices ++ remarks }) := by
  have hasks : x.Asks (retryAfter x) := HttpResponse.asks_iff.mpr rfl
  by_cases hbusy : x.status = 429
  · have hlong : 120 < retryAfter x := by
      by_contra hshort
      exact h _ (.busy hbusy hasks (Nat.not_lt.mp hshort))
    refine ⟨_, _, .limited hbusy hasks hlong, fun c => ?_⟩
    have hlong' : longestWait < retryAfter x := hlong
    rw [followUp, if_pos hbusy]
    simp only [if_pos hlong']
    rfl
  · have hdown : ¬x.status = 502 := fun hdown => h _ (.unavailable hdown)
    by_cases herror : 400 ≤ x.status ∧ x.status < 600
    · refine ⟨_, _, .refused herror.1 herror.2 hbusy hdown, fun c => ?_⟩
      have hstatus : x.isError = true := by simp [HttpResponse.isError, herror]
      rw [followUp, if_neg hbusy, if_neg hdown, Network.succeed, if_pos hstatus, List.append_nil]
      rfl
    · refine ⟨_, _, .accepted herror, fun c => ?_⟩
      have hstatus : ¬x.isError = true := by simpa [HttpResponse.isError] using herror
      rw [followUp, if_neg hbusy, if_neg hdown, Network.succeed, if_neg hstatus, List.append_nil]
      rfl

end Client

/-! ### A network with a script -/

/-- Something that happens on the network: a request is answered, or seconds pass. -/
inductive Event where
  | answered (request : HttpRequest) (answer : HttpResponse)
  | slept (seconds : Nat)
  deriving DecidableEq, Repr

/-- A state of a network, with the answers that are still to come and a log. -/
structure Scripted (τ : Type) where
  state : τ
  script : List HttpResponse
  /-- The oldest first. -/
  log : List Event := []

/-- The request bears an access token. -/
def HttpRequest.bearsToken (r : HttpRequest) : Bool :=
  r.authorization.any fun a => a.toList.take 7 = "Bearer ".toList

/-- The next answer is given. -/
def Scripted.answer (s : Scripted τ) (request : HttpRequest) (x : HttpResponse)
    (rest : List HttpResponse) : Scripted τ :=
  { s with script := rest, log := s.log ++ [.answered request x] }

/-- The network on which requests with an access token meet the answers of a script.  Everything
else is as it was; a log is kept of the answers and of the time that passes. -/
def Network.scripted (net : Network τ) : Network (Scripted τ) where
  send request s :=
    if request.bearsToken then
      match s.script with
      | [] => (none, s)
      | x :: rest => (some x, s.answer request x rest)
    else ((net.send request s.state).1, { s with state := (net.send request s.state).2 })
  now s := net.now s.state
  sleep seconds s :=
    { s with state := net.sleep seconds s.state, log := s.log ++ [.slept seconds] }
  nonce s := ((net.nonce s.state).1, { s with state := (net.nonce s.state).2 })

theorem HttpRequest.bearsToken_withToken (r : HttpRequest) (token : String) :
    (r.withToken token).bearsToken = true := by
  have hscheme : ("Bearer " ++ token).toList.take 7 = "Bearer ".toList := by
    rw [String.toList_append]
    exact List.take_left' rfl
  exact decide_eq_true hscheme

/-- A form for a token bears none. -/
theorem HttpRequest.bearsToken_withForm (url : Url) (pairs : List (String × String)) :
    (HttpRequest.withForm url pairs).bearsToken = false := rfl

theorem HttpRequest.bearsToken_withPassword (r : HttpRequest) (user password : String) :
    (r.withPassword user password).bearsToken = false := by
  unfold bearsToken withPassword
  simp only [Option.any_some, String.toList_append, decide_eq_false_iff_not]
  intro h
  -- the schemes differ in their second letter
  have hletter := congrArg (fun cs => cs[1]?) h
  have hbasic : "Basic ".toList = 'B' :: 'a' :: "sic ".toList := rfl
  rw [hbasic] at hletter
  exact absurd (Option.some.inj hletter) (by decide)

/-- A request with an access token meets the next answer. -/
theorem Network.run_transmit_scripted (net : Network τ) {r : HttpRequest} {token : String}
    (hsendable : (r.withToken token).isSendable = true) {s : Scripted τ} {x : HttpResponse}
    {rest : List HttpResponse} (hscript : s.script = x :: rest) :
    (net.scripted.transmit (r.withToken token)).run s
      = (.ok x, s.answer (r.withToken token) x rest) := by
  have hsend : net.scripted.send (r.withToken token) s
      = (some x, s.answer (r.withToken token) x rest) := by
    simp only [scripted, HttpRequest.bearsToken_withToken, if_true, hscript]
  rw [run_transmit, if_pos hsendable, hsend]
  rfl

/-! ### What is spared -/

/-- A program leaves a part of the state as it is. -/
def Spares {σ ε π : Type} (part : σ → π) (a : ExceptT ε (StateM σ) α) : Prop :=
  ∀ s, part (a.run s).2 = part s

namespace Spares

variable {σ ε π β : Type} {part : σ → π} {a : ExceptT ε (StateM σ) α}
  {f : α → ExceptT ε (StateM σ) β}

theorem throw (e : ε) : Spares part (throw e : ExceptT ε (StateM σ) α) := fun _ => rfl

theorem ofExcept (x : Except ε α) :
    Spares part (ExceptT.mk (Pure.pure x) : ExceptT ε (StateM σ) α) := fun _ => rfl

theorem bind (h : Spares part a) (hf : ∀ x, Spares part (f x)) : Spares part (a >>= f) := by
  intro s
  have hmid := h s
  rcases hrun : a.run s with ⟨e | x, mid⟩
  · rw [hrun] at hmid
    rw [run_bind_of_error hrun]
    exact hmid
  · rw [hrun] at hmid
    rw [run_bind_of_ok hrun]
    exact (hf x mid).trans hmid

end Spares

/-- What only requests with an access token and the passing of time change. -/
def Scripted.answers (s : Scripted τ) : List HttpResponse × List Event := (s.script, s.log)

theorem Network.spares_transmit (net : Network τ) {request : HttpRequest}
    (h : request.bearsToken = false) :
    Spares Scripted.answers (net.scripted.transmit request) := by
  intro s
  have hsend : Scripted.answers (net.scripted.send request s).2 = s.answers := by
    simp only [scripted, h, Bool.false_eq_true, if_false]
    rfl
  rw [run_transmit]
  split
  · exact hsend
  · rfl

namespace Grant

theorem spares_requestToken (net : Network τ) (s : Settings) (pairs : List (String × String))
    (secret : Option (String × String)) :
    Spares Scripted.answers (requestToken net.scripted s pairs secret) := by
  unfold requestToken
  split
  · exact .throw _
  next url _ =>
    refine (net.spares_transmit ?_).bind fun response => ?_
    · split
      · exact HttpRequest.bearsToken_withPassword _ _ _
      · exact HttpRequest.bearsToken_withForm _ _
    · exact (Spares.ofExcept _).bind fun _ => .ofExcept _

theorem spares_refresh (net : Network τ) (s : Settings) (refreshToken : String) :
    Spares Scripted.answers (refresh net.scripted s refreshToken) := by
  refine (Spares.ofExcept _).bind fun clientId => ?_
  exact (spares_requestToken net s _ _).bind fun response => fun _ => rfl

end Grant

namespace Client

/-- The client told to use a network with a script. -/
def Config.scripted (cfg : Config τ) : Config (Scripted τ) where
  net := cfg.net.scripted
  settings := cfg.settings
  key := cfg.key
  attemptLimit := cfg.attemptLimit

/-- The script and the log of the client's network. -/
def answers (c : Client (Scripted τ)) : List HttpResponse × List Event := c.network.answers

theorem spares_adopt (cfg : Config τ) (token : Token) :
    Spares answers (adopt cfg.scripted token) := by
  intro c
  have hpersist : (persist cfg.scripted { c with token }).2.answers = c.answers := rfl
  rcases hkept : persist cfg.scripted { c with token } with ⟨e | ⟨⟩, after⟩
  · rw [hkept] at hpersist
    rw [run_adopt_of_error hkept]
    exact hpersist
  · rw [hkept] at hpersist
    rw [run_adopt_of_ok hkept]
    exact hpersist

/-- To get a valid token no answer is used up. -/
theorem spares_validToken (cfg : Config τ) : Spares answers (validToken cfg.scripted) := by
  have hrenewed (refreshToken : String) :
      Spares answers (renewedToken cfg.scripted refreshToken) := by
    refine Spares.bind (fun c => ?_) fun fresh => (spares_adopt cfg fresh).bind fun _ => ?_
    · exact Grant.spares_refresh cfg.net cfg.settings refreshToken c.network
    · exact fun _ => rfl
  intro c
  rw [run_validToken]
  split
  · rfl
  · rfl
  · exact hrenewed _ c

/-! ### Tries -/

/-- A try that is followed by another one: its access token, its answer, and the seconds that pass
after it. -/
structure Try where
  token : String
  answer : HttpResponse
  seconds : Nat

/-- What the log says of a try. -/
def Try.events (r : HttpRequest) (t : Try) : List Event :=
  [.answered (r.withToken t.token) t.answer, .slept t.seconds]

/-- The client after a try and the time that passes then, with the rest of the script to come. -/
def retried (cfg : Config τ) (r : HttpRequest) (t : Try) (rest : List HttpResponse)
    (c : Client (Scripted τ)) : Client (Scripted τ) :=
  { c with
    network := cfg.scripted.net.sleep t.seconds
      (c.network.answer (r.withToken t.token) t.answer rest) }

/-- Tries of a request that are each followed by another one, from one state of the client to
another. -/
inductive Tries (cfg : Config τ) (r : HttpRequest) :
    Client (Scripted τ) → List Try → Client (Scripted τ) → Prop where
  | nil (c : Client (Scripted τ)) : Tries cfg r c [] c
  | cons {c ready after : Client (Scripted τ)} {t : Try} {tries : List Try}
      {rest : List HttpResponse}
      (htoken : (validToken cfg.scripted).run c = (.ok t.token, ready))
      (hsendable : (r.withToken t.token).isSendable = true)
      (hanswer : ready.network.script = t.answer :: rest) (hcalls : t.answer.CallsBack t.seconds)
      (h : Tries cfg r (retried cfg r t rest ready) tries after) : Tries cfg r c (t :: tries) after

variable {cfg : Config τ} {r : HttpRequest} {c ready after : Client (Scripted τ)}

theorem answers_of_validToken {result : Except RemoteError String}
    (h : (validToken cfg.scripted).run c = (result, after)) : after.answers = c.answers := by
  have hspared := spares_validToken cfg c
  rwa [h] at hspared

/-- **What the log says of tries**, one after another. -/
theorem Tries.log_eq {tries : List Try} (h : Tries cfg r c tries after) :
    after.network.log = c.network.log ++ tries.flatMap (Try.events r) := by
  induction h with
  | nil c => simp
  | @cons c ready after t tries rest htoken hsendable hanswer hcalls h ih =>
    have hspared : ready.network.log = c.network.log :=
      congrArg Prod.snd (answers_of_validToken htoken)
    have hretried : (retried cfg r t rest ready).network.log
        = ready.network.log ++ Try.events r t := by
      simp [retried, Try.events, Config.scripted, Network.scripted, Scripted.answer]
    rw [ih, hretried, hspared, List.flatMap_cons, List.append_assoc]

/-- How a request ends after some tries, with what comes into the log then: without a token; with one
that cannot be sent; or, once no answers are left that call back, with the one that decides. -/
inductive Ends (cfg : Config τ) (r : HttpRequest) (last : HttpResponse) (rest : List HttpResponse)
    (c : Client (Scripted τ)) : List HttpResponse → Except RemoteError HttpResponse →
      Client (Scripted τ) → List Event → Prop where
  | noToken {left : List HttpResponse} {e : RemoteError} {after : Client (Scripted τ)}
      (htoken : (validToken cfg.scripted).run c = (.error e, after)) :
      Ends cfg r last rest c left (.error e) after []
  | unsendable {left : List HttpResponse} {token : String} {after : Client (Scripted τ)}
      (htoken : (validToken cfg.scripted).run c = (.ok token, after))
      (hsendable : ¬(r.withToken token).isSendable = true) :
      Ends cfg r last rest c left (.error (.http .unreachable)) after []
  | decided {token : String} {ready : Client (Scripted τ)}
      {result : Except RemoteError HttpResponse} {remarks : List RemoteNotice}
      (htoken : (validToken cfg.scripted).run c = (.ok token, ready))
      (hsendable : (r.withToken token).isSendable = true) (hdecides : last.Decides result remarks) :
      Ends cfg r last rest c [] result
        { ready with
          network := ready.network.answer (r.withToken token) last rest
          notices := ready.notices ++ remarks }
        [.answered (r.withToken token) last]

section Ends

variable {last : HttpResponse} {rest left : List HttpResponse}
  {result : Except RemoteError HttpResponse} {events : List Event}

/-- What is in the log at the end. -/
theorem Ends.log_eq (h : Ends cfg r last rest c left result after events) :
    after.network.log = c.network.log ++ events := by
  cases h with
  | noToken htoken =>
    rw [List.append_nil]
    exact congrArg Prod.snd (answers_of_validToken htoken)
  | unsendable htoken =>
    rw [List.append_nil]
    exact congrArg Prod.snd (answers_of_validToken htoken)
  | decided htoken =>
    have hspared : _ = c.network.log := congrArg Prod.snd (answers_of_validToken htoken)
    rw [← hspared]
    rfl

/-- **One try**: with a token that can be sent, it meets the next answer; otherwise the request ends
there. -/
theorem attempt_cases (cfg : Config τ) (r : HttpRequest) {x : HttpResponse}
    {more : List HttpResponse} (hscript : c.network.script = x :: more) (fuel : Nat) :
    (∃ token ready, (validToken cfg.scripted).run c = (.ok token, ready) ∧
      (r.withToken token).isSendable = true ∧ ready.network.script = x :: more ∧
      (attempt cfg.scripted (some r) (fuel + 1)).run c
        = (followUp cfg.scripted (attempt cfg.scripted (some r) fuel) x).run
            { ready with network := ready.network.answer (r.withToken token) x more }) ∨
    ∃ result after, (attempt cfg.scripted (some r) (fuel + 1)).run c = (result, after) ∧
      ∀ last rest left, Ends cfg r last rest c left result after [] := by
  rcases hrun : (validToken cfg.scripted).run c with ⟨e | token, ready⟩
  · right
    refine ⟨.error e, ready, ?_, fun _ _ _ => .noToken hrun⟩
    rw [attempt_succ, run_bind_of_error hrun]
  · by_cases hsendable : (r.withToken token).isSendable = true
    · left
      have hanswer : ready.network.script = x :: more :=
        (congrArg Prod.fst (answers_of_validToken hrun)).trans hscript
      refine ⟨token, ready, rfl, hsendable, hanswer, ?_⟩
      have hsent : (onNetwork (cfg.scripted.net.transmit (r.withToken token))).run ready
          = (.ok x, { ready with network := ready.network.answer (r.withToken token) x more }) := by
        have htransmit := cfg.net.run_transmit_scripted hsendable hanswer
        rw [run_onNetwork]
        exact congrArg (fun p => (p.1, { ready with network := p.2 })) htransmit
      rw [attempt_succ, run_bind_of_ok hrun, run_bind_of_ok hsent]
    · right
      refine ⟨.error (.http .unreachable), ready, ?_, fun _ _ _ => .unsendable hrun hsendable⟩
      have hunsent : (onNetwork (cfg.scripted.net.transmit (r.withToken token))).run ready
          = (.error (.http .unreachable), ready) := by
        rw [run_onNetwork, Network.run_transmit_of_not_isSendable _ hsendable]
      rw [attempt_succ, run_bind_of_ok hrun, run_bind_of_error hunsent]

/-- **The tries of a request**: each answer that calls back is met by one, unless a token is
missing before, and the answer after them decides. -/
theorem exists_attempt (hlast : ∀ n, ¬last.CallsBack n) {again : List HttpResponse}
    (hagain : ∀ x ∈ again, ∃ n, x.CallsBack n) {fuel : Nat} (hfuel : again.length < fuel)
    (hscript : c.network.script = again ++ last :: rest) :
    ∃ tries left mid result after events,
      (attempt cfg.scripted (some r) fuel).run c = (result, after) ∧
      again = tries.map Try.answer ++ left ∧ Tries cfg r c tries mid ∧
      Ends cfg r last rest mid left result after events := by
  obtain ⟨fuel, rfl⟩ := Nat.exists_eq_succ_of_ne_zero (Nat.ne_zero_of_lt hfuel)
  induction again generalizing c fuel with
  | nil =>
    rcases attempt_cases cfg r hscript fuel with
      ⟨token, ready, htoken, hsendable, hanswer, hrun⟩ | ⟨result, after, hrun, hends⟩
    · obtain ⟨result, remarks, hdecides, hdecided⟩ := exists_followUp_of_not_callsBack
        cfg.scripted (attempt cfg.scripted (some r) fuel) hlast
      rw [hdecided] at hrun
      exact ⟨[], [], c, result, _, _, hrun, rfl, .nil c, .decided htoken hsendable hdecides⟩
    · exact ⟨[], [], c, result, after, [], hrun, rfl, .nil c, hends _ _ _⟩
  | cons x again ih =>
    rw [List.forall_mem_cons] at hagain
    obtain ⟨⟨n, hcalls⟩, hagain⟩ := hagain
    rcases attempt_cases cfg r hscript fuel with
      ⟨token, ready, htoken, hsendable, hanswer, hrun⟩ | ⟨result, after, hrun, hends⟩
    · rw [run_followUp_of_callsBack hcalls] at hrun
      obtain ⟨fuel, rfl⟩ : ∃ k, fuel = k + 1 := Nat.exists_eq_succ_of_ne_zero (by
        rw [List.length_cons] at hfuel
        omega)
      -- the next try meets the rest of the script
      obtain ⟨tries, left, mid, result, after, events, hrest, hsplit, htries, hends⟩ :=
        ih (c := retried cfg r ⟨token, x, n⟩ (again ++ last :: rest) ready) hagain rfl fuel
          (Nat.succ_lt_succ_iff.mp hfuel)
      exact ⟨⟨token, x, n⟩ :: tries, left, mid, result, after, events, hrun.trans hrest,
        congrArg (x :: ·) hsplit, .cons htoken hsendable hanswer hcalls htries, hends⟩
    · exact ⟨[], x :: again, c, result, after, [], hrun, rfl, .nil c, hends _ _ _⟩

/-- **A request is repeated as the answers ask for it.**  Of the script, `again` are the answers that
call back and `last` is the first other one.  The request goes out once for each of these answers,
always the same but for its access token; the time that each asks for passes before the next; and
`last` alone decides.  Where there is no token before one of the tries, the request ends there. -/
theorem send_scripted (cfg : Config τ) (r : HttpRequest) (c : Client (Scripted τ))
    {again : List HttpResponse} (hscript : c.network.script = again ++ last :: rest)
    (hagain : ∀ x ∈ again, ∃ n, x.CallsBack n) (hlast : ∀ n, ¬last.CallsBack n)
    (hlimit : again.length < cfg.attemptLimit) :
    ∃ tries left mid result after events,
      (send cfg.scripted (some r)).run c = (result, after) ∧
      again = tries.map Try.answer ++ left ∧ Tries cfg r c tries mid ∧
      Ends cfg r last rest mid left result after events ∧
      after.network.log = c.network.log ++ tries.flatMap (Try.events r) ++ events := by
  obtain ⟨tries, left, mid, result, after, events, hrun, hsplit, htries, hends⟩ :=
    exists_attempt (r := r) hlast hagain hlimit hscript
  refine ⟨tries, left, mid, result, after, events, hrun, hsplit, htries, hends, ?_⟩
  rw [hends.log_eq, htries.log_eq]

end Ends

/-! #### A busy service -/

/-- A client on a network without time, whose token does not expire. -/
def idleConfig : Config Unit where
  net := ⟨fun _ t => (none, t), fun _ => 0, fun _ t => t, fun t => (⟨List.replicate 12 0, rfl⟩, t)⟩
  settings := .local "" ""
  key := ⟨List.replicate 32 7, rfl⟩
  attemptLimit := 3

/-- The service is busy for some seconds. -/
def busyAnswer (text : String) : HttpResponse := ⟨429, [("retry-after", text)], []⟩

/-- The service is unavailable, then busy for a little, and then for too long. -/
def busyClient : Client (Scripted Unit) where
  network := ⟨(), [⟨502, [], []⟩, busyAnswer "+7", busyAnswer "121", ⟨200, [], []⟩], []⟩
  token := ⟨"token", "next", "", 3600, 0⟩
  database := {}

/-- A request to the root of some server. -/
def rootRequest : HttpRequest := .read ⟨"http", none, .segments [""], none, none⟩

/-- Two answers call back, and the third one ends the request. -/
theorem send_busyClient :
    ∃ tries left mid after events,
      (send idleConfig.scripted (some rootRequest)).run busyClient
        = (.error (.rateLimited 121), after) ∧
      [⟨502, [], []⟩, busyAnswer "+7"] = tries.map Try.answer ++ left ∧
      Tries idleConfig rootRequest busyClient tries mid ∧
      Ends idleConfig rootRequest (busyAnswer "121") [⟨200, [], []⟩] mid left
        (.error (.rateLimited 121)) after events ∧
      after.network.log = tries.flatMap (Try.events rootRequest) ++ events := by
  have hagain : ∀ x ∈ [⟨502, [], []⟩, busyAnswer "+7"], ∃ n, x.CallsBack n := by
    rw [List.forall_mem_cons, List.forall_mem_singleton]
    exact ⟨⟨10, .unavailable rfl⟩, ⟨7, .busy rfl (HttpResponse.asks_iff.mpr rfl) (by decide)⟩⟩
  have hlast : ∀ n, ¬(busyAnswer "121").CallsBack n := by
    intro n h
    cases h with
    | unavailable hstatus => exact absurd hstatus (by decide)
    | busy hstatus hasks hshort =>
      obtain rfl : 121 = n := HttpResponse.asks_iff.mp hasks
      exact absurd hshort (by decide)
  obtain ⟨tries, left, mid, result, after, events, hrun, hsplit, htries, hends, hlog⟩ :=
    send_scripted idleConfig rootRequest busyClient rfl hagain hlast (by decide)
  obtain rfl : result = .error (.rateLimited 121) := congrArg Prod.fst hrun.symm
  exact ⟨tries, left, mid, after, events, hrun, hsplit, htries, hends, hlog⟩

end Client

end SmartPlaylist
