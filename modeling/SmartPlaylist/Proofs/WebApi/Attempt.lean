import SmartPlaylist.Proofs.WebApi.Renewal
import SmartPlaylist.Proofs.WebApi.Retry

/-!
# What goes over the network for a request

For every try an access token is needed, and there may be a form for it.  Then the request goes out
with that token.  An answer that calls back leads to another try; any other one decides, and so does
a missing answer.  No try is made without a token, an address, and a request that can be sent.

## Main definitions

* `Client.Tried` — the tries of a request, with what they leave on the network.

## Main results

* `Client.exists_try` — **one try.**
* `Client.exists_tried` — **the tries of a request**, on any network.
-/

namespace SmartPlaylist.Client

variable {τ : Type} {cfg : Config τ} {request : Option HttpRequest} {r : HttpRequest}
  {c ready after : Client (Traced τ Exchange)} {token : String} {forms rest : List Exchange}
  {response : HttpResponse} {result : Except RemoteError HttpResponse}

/-- The exchange of a request with an access token. -/
def exchanged (cfg : Config τ) (r : HttpRequest) (token : String)
    (c : Client (Traced τ Exchange)) : Exchange :=
  cfg.net.exchange (r.withToken token) c.network.state

/-- The client once a request with an access token was sent. -/
def afterSending (cfg : Config τ) (r : HttpRequest) (token : String)
    (c : Client (Traced τ Exchange)) : Client (Traced τ Exchange) :=
  { c with network := cfg.net.sent (r.withToken token) c.network }

/-- The client when seconds have passed. -/
def rested (cfg : Config τ) (seconds : Nat) (c : Client (Traced τ Exchange)) :
    Client (Traced τ Exchange) :=
  { c with network := cfg.net.traced.sleep seconds c.network }

/-- What goes over the network for a request that is tried so often at most, what it comes to, and
the client then.  The forms are those of the call for a valid token that each try begins with. -/
inductive Tried (cfg : Config τ) (request : Option HttpRequest) :
    Nat → Client (Traced τ Exchange) → List Exchange → Except RemoteError HttpResponse →
      Client (Traced τ Exchange) → Prop where
  | exhausted (c : Client (Traced τ Exchange)) :
      Tried cfg request 0 c [] (.error (.http .unreachable)) c
  | noToken {n : Nat} {c ready : Client (Traced τ Exchange)} {e : RemoteError}
      {forms : List Exchange} (htoken : Serves cfg c (.error e) ready forms) :
      Tried cfg request (n + 1) c forms (.error e) ready
  | noAddress {n : Nat} {c ready : Client (Traced τ Exchange)} {token : String}
      {forms : List Exchange} (htoken : Serves cfg c (.ok token) ready forms)
      (haddress : request = none) :
      Tried cfg request (n + 1) c forms (.error (.http .unreachable)) ready
  | unsendable {n : Nat} {c ready : Client (Traced τ Exchange)} {r : HttpRequest} {token : String}
      {forms : List Exchange} (htoken : Serves cfg c (.ok token) ready forms)
      (hrequest : request = some r) (hsendable : ¬(r.withToken token).isSendable = true) :
      Tried cfg request (n + 1) c forms (.error (.http .unreachable)) ready
  | unanswered {n : Nat} {c ready : Client (Traced τ Exchange)} {r : HttpRequest} {token : String}
      {forms : List Exchange} (htoken : Serves cfg c (.ok token) ready forms)
      (hrequest : request = some r) (hsendable : (r.withToken token).isSendable = true)
      (hanswer : (exchanged cfg r token ready).answer = none) :
      Tried cfg request (n + 1) c (forms ++ [exchanged cfg r token ready])
        (.error (.http .unreachable)) (afterSending cfg r token ready)
  | again {n seconds : Nat} {c ready after : Client (Traced τ Exchange)} {r : HttpRequest}
      {token : String} {forms rest : List Exchange} {response : HttpResponse}
      {result : Except RemoteError HttpResponse}
      (htoken : Serves cfg c (.ok token) ready forms) (hrequest : request = some r)
      (hsendable : (r.withToken token).isSendable = true)
      (hanswer : (exchanged cfg r token ready).answer = some response)
      (hcalls : response.CallsBack seconds)
      (h : Tried cfg request n (rested cfg seconds (afterSending cfg r token ready)) rest result
        after) :
      Tried cfg request (n + 1) c (forms ++ exchanged cfg r token ready :: rest) result after
  | decided {n : Nat} {c ready : Client (Traced τ Exchange)} {r : HttpRequest} {token : String}
      {forms : List Exchange} {response : HttpResponse}
      {result : Except RemoteError HttpResponse} {remarks : List RemoteNotice}
      (htoken : Serves cfg c (.ok token) ready forms) (hrequest : request = some r)
      (hsendable : (r.withToken token).isSendable = true)
      (hanswer : (exchanged cfg r token ready).answer = some response)
      (hdecides : response.Decides result remarks) :
      Tried cfg request (n + 1) c (forms ++ [exchanged cfg r token ready]) result
        { afterSending cfg r token ready with notices := ready.notices ++ remarks }

/-- A request that can be sent goes out with its token. -/
theorem run_transmit_withToken (cfg : Config τ) (hsendable : (r.withToken token).isSendable = true)
    (c : Client (Traced τ Exchange)) :
    (onNetwork (cfg.traced.net.transmit (r.withToken token))).run c =
      ((exchanged cfg r token c).answer.elim (.error (.http .unreachable)) .ok,
        afterSending cfg r token c) := by
  have hrun := cfg.net.run_transmit_traced hsendable c.network
  rw [run_onNetwork]
  exact congrArg (fun p => (p.1, { c with network := p.2 })) hrun

/-- **One try** with a token at hand: the request is answered, or it ends there. -/
theorem exists_try (cfg : Config τ) (r : HttpRequest) (n : Nat)
    (htoken : Serves cfg c (.ok token) ready forms) (hready : ready.trace = c.trace ++ forms)
    (ih : ∀ c, ∃ exchanges result after,
      (attempt cfg.traced (some r) n).run c = (result, after) ∧
      after.trace = c.trace ++ exchanges ∧ Tried cfg (some r) n c exchanges result after) :
    ∃ exchanges result after,
      (onNetwork (cfg.traced.net.transmit (r.withToken token)) >>=
        followUp cfg.traced (attempt cfg.traced (some r) n)).run ready = (result, after) ∧
      after.trace = c.trace ++ exchanges ∧ Tried cfg (some r) (n + 1) c exchanges result after := by
  by_cases hsendable : (r.withToken token).isSendable = true
  · have hsent := run_transmit_withToken cfg hsendable ready
    have htrace : (afterSending cfg r token ready).trace
        = c.trace ++ (forms ++ [exchanged cfg r token ready]) := by
      rw [← List.append_assoc, ← hready]
      rfl
    cases hanswer : (exchanged cfg r token ready).answer with
    | none =>
      rw [hanswer] at hsent
      exact ⟨_, _, _, run_bind_of_error hsent, htrace, .unanswered htoken rfl hsendable hanswer⟩
    | some response =>
      rw [hanswer] at hsent
      rw [run_bind_of_ok hsent]
      by_cases hcalls : ∃ seconds, response.CallsBack seconds
      · obtain ⟨seconds, hcalls⟩ := hcalls
        obtain ⟨rest, result, after, hrun, htrace', htried⟩ :=
          ih (rested cfg seconds (afterSending cfg r token ready))
        refine ⟨_, result, after, (run_followUp_of_callsBack hcalls _).trans hrun, ?_,
          .again htoken rfl hsendable hanswer hcalls htried⟩
        have hrested : (rested cfg seconds (afterSending cfg r token ready)).trace
            = (afterSending cfg r token ready).trace := rfl
        rw [htrace', hrested, htrace]
        simp only [List.append_assoc, List.cons_append, List.nil_append]
      · obtain ⟨result, remarks, hdecides, hrun⟩ := exists_followUp_of_not_callsBack cfg.traced
          (attempt cfg.traced (some r) n) (not_exists.mp hcalls)
        exact ⟨_, _, _, hrun _, htrace, .decided htoken rfl hsendable hanswer hdecides⟩
  · refine ⟨forms, _, ready, run_bind_of_error ?_, hready, .unsendable htoken rfl hsendable⟩
    rw [run_onNetwork, Network.run_transmit_of_not_isSendable _ hsendable]

/-- **The tries of a request.** -/
theorem exists_tried (cfg : Config τ) (request : Option HttpRequest) (n : Nat)
    (c : Client (Traced τ Exchange)) :
    ∃ exchanges result after, (attempt cfg.traced request n).run c = (result, after) ∧
      after.trace = c.trace ++ exchanges ∧ Tried cfg request n c exchanges result after := by
  induction n generalizing c with
  | zero => exact ⟨[], _, c, rfl, (List.append_nil _).symm, .exhausted c⟩
  | succ n ih =>
    obtain ⟨e | token, ready, forms, hrun, htrace, htoken⟩ := exists_serves cfg c
    · refine ⟨forms, _, ready, ?_, htrace, .noToken htoken⟩
      cases request with
      | none => exact run_bind_of_error hrun
      | some r => exact run_bind_of_error hrun
    · cases request with
      | none =>
        refine ⟨forms, _, ready, ?_, htrace, .noAddress htoken rfl⟩
        rw [attempt_succ_none, run_bind_of_ok hrun]
        rfl
      | some r =>
        rw [attempt_succ, run_bind_of_ok hrun]
        exact exists_try cfg r n htoken htrace ih

end SmartPlaylist.Client
