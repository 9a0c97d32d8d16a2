import SmartPlaylist.Session.Notice

/-!
# Jobs

A job works on the database and with the remote service, tells the user what it
does, and may draw random numbers.  The numbers come from an endless supply fixed
in advance, so a job is a function of the session it starts in.

## Main definitions

* `Entropy` — the supply of random numbers.
* `Session` — what a job works on.
* `Job` — jobs; `Job.store`, `Job.call`, `Job.tell`, `Job.below` are their steps.
* `Job.sample`, `Job.shuffle` — a random part of a list, and a random order.
-/

namespace SmartPlaylist

/-- An endless supply of random numbers, and how many of them are used up. -/
structure Entropy where
  word : Nat → Nat
  drawn : Nat := 0

/-- What a job works on: the database, a service with states `σ`, the notices so far, and random
numbers. -/
structure Session (σ : Type) where
  database : Database
  remote : σ
  /-- The oldest first. -/
  notices : List Notice := []
  entropy : Entropy

/-- A job that fails with an `ε`. -/
abbrev Job (σ ε α : Type) := ExceptT ε (StateM (Session σ)) α

namespace Job

variable {σ ε α : Type}

/-- The outcome of a job and the session after it. -/
def outcome (j : Job σ ε α) (s : Session σ) : Except ε α × Session σ := j.run s

/-- Works on the database. -/
def store (a : Store.Action α) : Job σ StoreError α :=
  ExceptT.mk fun s =>
    let (result, database) := a.outcome s.database
    (result, { s with database })

/-- Calls the service and passes on its remarks. -/
def call (c : Call σ α) : Job σ RemoteError α :=
  ExceptT.mk fun s =>
    let (reply, remote) := c s.remote
    (reply.result, { s with remote, notices := s.notices ++ reply.notices.map Notice.remote })

/-- Tells the user something. -/
def tell (n : Notice) : Job σ ε Unit :=
  ExceptT.mk fun s => (.ok (), { s with notices := s.notices ++ [n] })

/-- Turns the failures of a job into those of a larger one. -/
def failAs {ε' : Type} (f : ε → ε') (j : Job σ ε α) : Job σ ε' α :=
  ExceptT.mk fun s =>
    match j.outcome s with
    | (.ok x, after) => (.ok x, after)
    | (.error e, after) => (.error (f e), after)

/-- Runs a job and gives its outcome, whatever it is. -/
def attempt {ε' : Type} (j : Job σ ε α) : Job σ ε' (Except ε α) :=
  ExceptT.mk fun s =>
    let (result, after) := j.outcome s
    (.ok result, after)

/-! ### Random choices -/

/-- Draws a number below a bound; zero if the bound is zero. -/
def below (bound : Nat) : Job σ ε Nat :=
  ExceptT.mk fun s =>
    (.ok (s.entropy.word s.entropy.drawn % bound),
      { s with entropy := { s.entropy with drawn := s.entropy.drawn + 1 } })

/-- Takes `n` items of a list at distinct random positions, or all if there are fewer, in a random
order. -/
def sample : Nat → List α → Job σ ε (List α)
  | 0, _ => return []
  | _, [] => return []
  | n + 1, x :: xs => do
    let i ← below (xs.length + 1)
    let chosen := (x :: xs).getD i x
    let others ← sample n ((x :: xs).eraseIdx i)
    return chosen :: others

/-- The items of a list in a random order. -/
def shuffle (xs : List α) : Job σ ε (List α) := sample xs.length xs

end Job

end SmartPlaylist
