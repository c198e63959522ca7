import SeedVault.Json.Value
import SeedVault.Url.Parser

/-!
# Tasks on the network

A task sends requests, waits, and ends: with a value, with an error, or because its time is up.
Waiting is all that takes time, be it for a reply or for some span, and a task that would wait
beyond its deadline ends there.

A `Network` is all that is behind a request: the client that carries it and the servers it may come
to. The requests are those that the tasks issue, one for each exchange; what the client sends of its
own accord, when it follows a redirect for example, belongs to the reply. The n-th request of a run
gets the n-th reply, whatever it asks, so nothing is assumed of how servers behave: a connection may
be lost and a reply may take longer than anybody waits. Who listens does not change during a run; a
server that stops listening is one that loses the connections from then on.
-/

namespace SeedVault

/-- How a task ends. -/
inductive Outcome (ε α : Type) where
  | done (a : α)
  | failed (e : ε)
  | expired
  deriving DecidableEq, Repr

/-- What a request does. -/
inductive HttpMethod where
  | get
  | post
  | delete
  deriving DecidableEq, Repr

/-- The name of a method. -/
def HttpMethod.text : HttpMethod → String
  | get => "GET"
  | post => "POST"
  | delete => "DELETE"

/-- A request as a task issues it. -/
structure Request where
  method : HttpMethod
  /-- The path with the query. -/
  path : String
  body : Option Json

/-- What becomes of a request. -/
inductive Reply where
  /-- The last answer, behind all redirects. -/
  | answer (status : Nat) (body : String)
  /-- The connection ends without an answer. -/
  | lost
  deriving DecidableEq, Repr

/-- The network during a run, with the client that issues requests to it. -/
structure Network where
  /-- Does a server listen at a site? -/
  listens : Url → Bool
  /-- The reply to each request, by its number. -/
  replies : Nat → Reply
  /-- How long each reply takes, in milliseconds. -/
  delays : Nat → Nat := fun _ => 0
  /-- The requests that have been issued, in their order. Whether one has arrived is not told. -/
  requests : List Request := []
  /-- The time that has passed, in milliseconds. -/
  now : Nat := 0

/-- A task that ends with an `α` or an `ε`. It is given the time at which it has to end, if there
is one. -/
def WebTask (ε α : Type) : Type := Option Nat → Network → Outcome ε α × Network

namespace WebTask

variable {ε ε' α β : Type}

/-- The task that ends at once. -/
def done (a : α) : WebTask ε α := fun _ n => (.done a, n)

/-- The task that fails at once. -/
def fail (e : ε) : WebTask ε α := fun _ n => (.failed e, n)

/-- One task and then another, if the first one ends with a value. -/
def andThen (t : WebTask ε α) (next : α → WebTask ε β) : WebTask ε β := fun deadline n =>
  match t deadline n with
  | (.done a, n) => next a deadline n
  | (.failed e, n) => (.failed e, n)
  | (.expired, n) => (.expired, n)

/-- A task and what comes behind it are done one after the other. -/
instance : Monad (WebTask ε) where
  pure := done
  bind := andThen

/-- The task that ends with a result that is there already. -/
def ofExcept (x : Except ε α) : WebTask ε α :=
  match x with
  | .ok a => done a
  | .error e => fail e

/-- The task with another error. -/
def mapError (f : ε → ε') (t : WebTask ε α) : WebTask ε' α := fun deadline n =>
  match t deadline n with
  | (.done a, n) => (.done a, n)
  | (.failed e, n) => (.failed (f e), n)
  | (.expired, n) => (.expired, n)

/-- The task that gives its error as a value, if it has one. -/
def attempt (t : WebTask ε α) : WebTask ε' (Except ε α) := fun deadline n =>
  match t deadline n with
  | (.done a, n) => (.done (.ok a), n)
  | (.failed e, n) => (.done (.error e), n)
  | (.expired, n) => (.expired, n)

/-- Does a server listen where an address points? -/
def listens (u : Url) : WebTask ε Bool := fun _ n => (.done (n.listens u.site), n)

/-- The time that has passed, in milliseconds. -/
def time : WebTask ε Nat := fun _ n => (.done n.now, n)

/-- Waits for so many milliseconds. -/
def sleep (span : Nat) : WebTask ε Unit := fun deadline n =>
  match deadline with
  | none => (.done (), { n with now := n.now + span })
  | some t =>
    if t < n.now + span then (.expired, { n with now := max n.now t })
    else (.done (), { n with now := n.now + span })

/-- Sends a request to a server that listens; gives the reply, and how long it takes. -/
def send (r : Request) : WebTask ε (Reply × Nat) := fun _ n =>
  let number := n.requests.length
  (.done (n.replies number, n.delays number), { n with requests := n.requests ++ [r] })

/-- Sends a request to a server that listens, and waits for the reply. -/
def request (r : Request) : WebTask ε Reply := do
  let (reply, delay) ← send r
  sleep delay
  return reply

/-- The task for no more than `limit` milliseconds; nothing if it has not ended by then. -/
def within (limit : Nat) (t : WebTask ε α) : WebTask ε (Option α) := fun deadline n =>
  let stop := n.now + limit
  if deadline.all (stop ≤ ·) then
    match t (some stop) n with
    | (.done a, n) => (.done (some a), n)
    | (.failed e, n) => (.failed e, n)
    | (.expired, n) => (.done none, n)
  -- the time of all that the task is part of is up first
  else t.andThen (fun a => done (some a)) deadline n

/-- The time between two attempts, in milliseconds. -/
def pollInterval : Nat := 100

/-- Attempts something until it gives a value, or until `limit` milliseconds have passed. -/
def poll (t : WebTask ε (Option α)) (limit : Nat) : WebTask ε (Option α) := do
  let start ← time
  match ← t.within limit with
  | none => return none
  | some (some a) => return some a
  | some none =>
    let left := limit - ((← time) - start)
    if left ≤ pollInterval then
      sleep left
      return none
    else
      sleep pollInterval
      poll t (left - pollInterval)
termination_by limit
decreasing_by simp only [pollInterval] at *; omega

/-- Runs a task for no more than `limit` milliseconds, if there is a limit. -/
def run (t : WebTask ε α) (limit : Option Nat) (n : Network) : Outcome ε α × Network :=
  t (limit.map (n.now + ·)) n

end WebTask

end SeedVault
