import Mathlib.Logic.Function.Basic
import SeedVault.Browser.Task
import SeedVault.Proofs.Attempt

/-!
# What is sent on the network

Something done on a state with a network `Sends` requests of some kind if it sends no others, and if
it heeds no replies but those to what it has sent: with another reply to a later request it does the
same (`Sends.foresees`). Both pass from the parts of a task to the whole, so they are shown part by
part, for tasks (`WebTask.Sends`) together with what the errors of the task are.
-/

namespace SeedVault

/-- The network with another reply to the request of a number. -/
def Network.withReply (number : Nat) (reply : Reply) (delay : Nat) (n : Network) : Network :=
  { n with
    replies := Function.update n.replies number reply
    delays := Function.update n.delays number delay }

/-- States that have a network. -/
class HasNetwork (σ : Type) where
  network : σ → Network
  /-- The state with another reply to the request of a number. -/
  withReply : Nat → Reply → Nat → σ → σ
  network_withReply : ∀ number reply delay s,
    network (withReply number reply delay s) = (network s).withReply number reply delay

/-- A network has itself. -/
instance : HasNetwork Network where
  network n := n
  withReply := Network.withReply
  network_withReply _ _ _ _ := rfl

open HasNetwork

/-- What is done sends requests that satisfy `P`, and heeds the replies to them only. -/
structure Sends {σ β : Type} [HasNetwork σ] (P : Request → Prop) (act : σ → β × σ) : Prop where
  listens : ∀ s, (network (act s).2).listens = (network s).listens
  sends : ∀ s, ∃ qs, (network (act s).2).requests = (network s).requests ++ qs ∧ ∀ q ∈ qs, P q
  foresees : ∀ s number reply delay, (network (act s).2).requests.length ≤ number →
    act (withReply number reply delay s) = ((act s).1, withReply number reply delay (act s).2)

namespace Sends

variable {σ τ α β γ ε : Type} [HasNetwork σ] [HasNetwork τ] {P Q : Request → Prop}

/-- What sends requests of one kind sends requests of any wider kind. -/
lemma mono {act : σ → β × σ} (h : Sends P act) (weaker : ∀ q, P q → Q q) : Sends Q act where
  listens := h.listens
  sends s := by
    obtain ⟨qs, grown, each⟩ := h.sends s
    exact ⟨qs, grown, fun q mem => weaker q (each q mem)⟩
  foresees := h.foresees

/-- Something that leaves alone who listens and what has been sent, and heeds no reply. -/
lemma still {act : σ → β × σ} (listens : ∀ s, (network (act s).2).listens = (network s).listens)
    (requests : ∀ s, (network (act s).2).requests = (network s).requests)
    (blind : ∀ number reply delay s,
      act (withReply number reply delay s) = ((act s).1, withReply number reply delay (act s).2)) :
    Sends P act where
  listens := listens
  sends s := ⟨[], by rw [requests, List.append_nil], fun _ mem => absurd mem List.not_mem_nil⟩
  foresees s number reply delay _ := blind number reply delay s

/-- A value that is there already sends nothing. -/
lemma value (b : β) : Sends P (fun s : σ => (b, s)) :=
  still (fun _ => rfl) (fun _ => rfl) fun _ _ _ _ => rfl

/-- One thing after another sends what each of them sends. -/
lemma bind {act : σ → α × σ} {next : α → σ → β × σ} (first : Sends P act)
    (others : ∀ a, Sends P (next a)) : Sends P fun s => next (act s).1 (act s).2 where
  listens s := by rw [(others _).listens, first.listens]
  sends s := by
    obtain ⟨qs, grown, each⟩ := first.sends s
    obtain ⟨qs', grown', each'⟩ := (others (act s).1).sends (act s).2
    refine ⟨qs ++ qs', ?_, ?_⟩
    · rw [grown', grown, List.append_assoc]
    · intro q mem
      exact (List.mem_append.1 mem).elim (each q) (each' q)
  foresees s number reply delay before := by
    -- what is sent first is not later than all that is sent
    obtain ⟨qs', grown', _⟩ := (others (act s).1).sends (act s).2
    have before' : (network (act s).2).requests.length ≤ number := by
      rw [grown', List.length_append] at before
      exact Nat.le_trans (Nat.le_add_right _ _) before
    rw [first.foresees s number reply delay before']
    exact (others _).foresees _ number reply delay before

/-- What is done next may depend on a part of the state that is not its network. -/
lemma reading {f : σ → γ} {act : γ → σ → β × σ}
    (blind : ∀ number reply delay s, f (withReply number reply delay s) = f s)
    (h : ∀ c, Sends P (act c)) : Sends P fun s => act (f s) s where
  listens s := (h _).listens s
  sends s := (h _).sends s
  foresees s number reply delay before := by
    rw [blind]
    exact (h _).foresees s number reply delay before

/-- What is done on a part of the state that has the network is done on the state. -/
lemma through {act : τ → β × τ} (h : Sends P act) (part : σ → τ) (put : σ → τ → σ)
    (network_part : ∀ s, network (part s) = network s)
    (network_put : ∀ s t, network (put s t) = network t)
    (part_withReply : ∀ number reply delay s,
      part (withReply number reply delay s) = withReply number reply delay (part s))
    (put_withReply : ∀ number reply delay s t,
      put (withReply number reply delay s) (withReply number reply delay t) =
        withReply number reply delay (put s t)) :
    Sends P fun s => ((act (part s)).1, put s (act (part s)).2) where
  listens s := by rw [network_put, h.listens, network_part]
  sends s := by
    obtain ⟨qs, grown, each⟩ := h.sends (part s)
    exact ⟨qs, by rw [network_put, grown, network_part], each⟩
  foresees s number reply delay before := by
    rw [network_put] at before
    rw [part_withReply, h.foresees _ number reply delay before, put_withReply]

/-- What is made of the value sends nothing more. -/
lemma map {act : σ → α × σ} (h : Sends P act) (f : α → β) :
    Sends P fun s => (f (act s).1, (act s).2) :=
  bind h fun a => value (f a)

/-- Of two things to do the second one is done if the first one succeeds. -/
lemma andThen {act : ExceptT ε (StateM σ) α} {next : α → ExceptT ε (StateM σ) β}
    (first : Sends P (act : σ → Except ε α × σ))
    (others : ∀ a, Sends P (next a : σ → Except ε β × σ)) :
    Sends P (act >>= next : σ → Except ε β × σ) := by
  let proceed (x : Except ε α) : σ → Except ε β × σ :=
    match x with
    | .ok a => next a
    | .error e => fun s => (.error e, s)
  have same : (act >>= next : σ → Except ε β × σ) = fun s => proceed (act s).1 (act s).2 := by
    funext s
    cases done : act s with
    | mk x s' =>
      cases x with
      | ok a => exact Attempt.bind_of_ok done
      | error e => exact Attempt.bind_of_error done
  rw [same]
  refine bind first fun x => ?_
  cases x with
  | ok a => exact others a
  | error e => exact value _

end Sends

/-- The value that something ended with, if it did. -/
def Outcome.value? {ε α : Type} : Outcome ε α → Option α
  | done a => some a
  | _ => none

namespace WebTask

variable {ε ε' α β : Type} {P Q : Request → Prop} {E E₁ : ε → Prop}
  {E' : ε' → Prop}

/-- How a task ends on a network, and the network behind it. -/
def on (t : WebTask ε α) (deadline : Option Nat) (n : Network) : Outcome ε α × Network :=
  t deadline n

/-- What is done behind a task, by how it ended. -/
def proceed (next : α → WebTask ε β) (deadline : Option Nat) (ended : Outcome ε α) (n : Network) :
    Outcome ε β × Network :=
  match ended with
  | .done a => (next a).on deadline n
  | .failed e => (.failed e, n)
  | .expired => (.expired, n)

/-- A task and what comes behind it, on a network. -/
lemma on_bind (t : WebTask ε α) (next : α → WebTask ε β) (deadline : Option Nat) (n : Network) :
    (t >>= next).on deadline n =
      proceed next deadline (t.on deadline n).1 (t.on deadline n).2 := by
  change t.andThen next deadline n = _
  unfold WebTask.andThen on
  cases t deadline n with
  | mk ended n' => cases ended <;> rfl

/-- A value that is there already is passed on. -/
lemma ofExcept_ok_bind (a : α) (next : α → WebTask ε β) : ofExcept (.ok a) >>= next = next a := rfl

/-- An error that is there already ends the task. -/
lemma ofExcept_error_bind (e : ε) (next : α → WebTask ε β) :
    ofExcept (.error e) >>= next = fail e := rfl

/-- How a task ended, with another error. -/
def mapFault (f : ε → ε') (ended : Outcome ε α) : Outcome ε' α :=
  match ended with
  | .done a => .done a
  | .failed e => .failed (f e)
  | .expired => .expired

/-- A task with another error does the same. -/
lemma on_mapError (f : ε → ε') (t : WebTask ε α) (deadline : Option Nat) (n : Network) :
    (t.mapError f).on deadline n = (mapFault f (t.on deadline n).1, (t.on deadline n).2) := by
  unfold on WebTask.mapError
  cases t deadline n with
  | mk ended n' => cases ended <;> rfl

/-- How a task ended that gives its error as a value. -/
def attempted (ended : Outcome ε α) : Outcome ε' (Except ε α) :=
  match ended with
  | .done a => .done (.ok a)
  | .failed e => .done (.error e)
  | .expired => .expired

/-- A task that gives its error as a value does the same. -/
lemma on_attempt (t : WebTask ε α) (deadline : Option Nat) (n : Network) :
    (t.attempt : WebTask ε' (Except ε α)).on deadline n =
      (attempted (t.on deadline n).1, (t.on deadline n).2) := by
  unfold on WebTask.attempt
  cases t deadline n with
  | mk ended n' => cases ended <;> rfl

/-- Nothing is sent behind a task if none of what comes next sends anything. -/
lemma requests_proceed {next : α → WebTask ε β} {deadline : Option Nat} {n : Network}
    (h : ∀ a, ((next a).on deadline n).2.requests = n.requests) (ended : Outcome ε α) :
    (proceed next deadline ended n).2.requests = n.requests := by
  cases ended with
  | done a => exact h a
  | failed e | expired => rfl

/-- To wait sends nothing. -/
lemma requests_sleep (span : Nat) (deadline : Option Nat) (n : Network) :
    ((sleep span : WebTask ε Unit).on deadline n).2.requests = n.requests := by
  unfold on sleep
  cases deadline with
  | none => rfl
  | some t =>
    simp only
    split <;> rfl

/-- A request is sent once, whenever its reply comes. -/
lemma requests_request (q : Request) (deadline : Option Nat) (n : Network) :
    ((request q : WebTask ε Reply).on deadline n).2.requests = n.requests ++ [q] := by
  unfold request
  rw [on_bind]
  change ((sleep _ >>= fun _ => pure _ : WebTask ε Reply).on deadline
    { n with requests := n.requests ++ [q] }).2.requests = _
  rw [on_bind, requests_proceed fun _ => rfl, requests_sleep]

/-- A wait that is over in time is waited out. -/
lemma on_sleep_of_le {span : Nat} {deadline : Option Nat} {n : Network}
    (le : deadline.all (n.now + span ≤ ·)) :
    (sleep span : WebTask ε Unit).on deadline n = (.done (), { n with now := n.now + span }) := by
  cases deadline with
  | none => rfl
  | some t =>
    have le : n.now + span ≤ t := by simpa using le
    exact if_neg (Nat.not_lt.2 le)

/-- A reply that comes in time is what a request gives. -/
lemma done_request {deadline : Option Nat} {n : Network} (q : Request)
    (le : deadline.all (n.now + n.delays n.requests.length ≤ ·)) :
    ((request q : WebTask ε Reply).on deadline n).1 = .done (n.replies n.requests.length) := by
  unfold request
  rw [on_bind]
  change ((sleep (n.delays n.requests.length) >>= fun _ =>
    WebTask.done (n.replies n.requests.length) : WebTask ε Reply).on deadline
      { n with requests := n.requests ++ [q] }).1 = _
  have waited : (sleep (n.delays n.requests.length) : WebTask ε Unit).on deadline
      { n with requests := n.requests ++ [q] } = _ := on_sleep_of_le le
  rw [on_bind, waited]
  rfl

/-- How a task ended that had a limit of its own. -/
def inTime (ended : Outcome ε α) : Outcome ε (Option α) :=
  match ended with
  | .done a => .done (some a)
  | .failed e => .failed e
  | .expired => .done none

/-- A task with a limit of its own that begins at some time. -/
def limited (t : WebTask ε α) (limit : Nat) (deadline : Option Nat) (now : Nat) (n : Network) :
    Outcome ε (Option α) × Network :=
  if deadline.all (now + limit ≤ ·) then
    (inTime (t.on (some (now + limit)) n).1, (t.on (some (now + limit)) n).2)
  else (t >>= fun a => done (some a)).on deadline n

/-- A task with a limit of its own begins when it is its turn. -/
lemma on_within (t : WebTask ε α) (limit : Nat) (deadline : Option Nat) (n : Network) :
    (t.within limit).on deadline n = t.limited limit deadline n.now n := by
  unfold on WebTask.within limited
  simp only
  split
  · unfold on
    cases t (some (n.now + limit)) n with
    | mk ended n' => cases ended <;> rfl
  · rfl

/-- A task sends requests that satisfy `P`, and fails with errors that satisfy `E` only. -/
structure Sends (P : Request → Prop) (E : ε → Prop) (t : WebTask ε α) : Prop where
  acts : ∀ deadline, SeedVault.Sends P (t.on deadline)
  errors : ∀ {deadline n e}, (t.on deadline n).1 = .failed e → E e

namespace Sends

/-- A task that sends requests of one kind sends requests of any wider kind, and so for errors. -/
lemma mono {t : WebTask ε α} (h : Sends P E t) (weaker : ∀ q, P q → Q q)
    (weaker' : ∀ e, E e → E₁ e) : Sends Q E₁ t where
  acts deadline := (h.acts deadline).mono weaker
  errors failed := weaker' _ (h.errors failed)

/-- A task that ends at once sends nothing and has no error. -/
lemma done (a : α) : Sends P E (WebTask.done a) where
  acts _ := .value _
  errors failed := by cases failed

/-- A task that fails at once has its error and no other. -/
lemma fail {e : ε} (h : E e) : Sends P E (WebTask.fail e : WebTask ε α) where
  acts _ := .value _
  errors failed := by
    cases failed
    exact h

/-- A result that is there already has its error and no other. -/
lemma ofExcept {x : Except ε α} (h : ∀ e, x = .error e → E e) : Sends P E (WebTask.ofExcept x) := by
  cases x with
  | ok a => exact done a
  | error e => exact fail (h e rfl)

/-- One task and then another send what each of them sends. -/
lemma bind {t : WebTask ε α} {next : α → WebTask ε β} (first : Sends P E t)
    (others : ∀ a, Sends P E (next a)) : Sends P E (t >>= next) := by
  constructor
  case acts =>
    intro deadline
    rw [funext (on_bind t next deadline)]
    refine SeedVault.Sends.bind (first.acts deadline) fun ended => ?_
    cases ended with
    | done a => exact (others a).acts deadline
    | failed e => exact .value _
    | expired => exact .value _
  case errors =>
    intro deadline n e failed
    rw [on_bind] at failed
    cases ended : (t.on deadline n).1 with
    | done a =>
      rw [ended] at failed
      exact (others a).errors failed
    | failed e' =>
      rw [ended] at failed
      cases failed
      exact first.errors ended
    | expired =>
      rw [ended] at failed
      cases failed

/-- A task with another error sends the same. -/
lemma mapError {t : WebTask ε α} (h : Sends P E t) {f : ε → ε'} (said : ∀ e, E e → E' (f e)) :
    Sends P E' (t.mapError f) := by
  constructor
  case acts =>
    intro deadline
    rw [funext (on_mapError f t deadline)]
    exact (h.acts deadline).map (mapFault f)
  case errors =>
    intro deadline n e failed
    rw [on_mapError] at failed
    cases ended : (t.on deadline n).1 with
    | failed e' =>
      rw [ended] at failed
      cases failed
      exact said e' (h.errors ended)
    | done a | expired =>
      rw [ended] at failed
      cases failed

/-- A task that gives its error as a value sends the same and has no error. -/
lemma attempt {t : WebTask ε α} (h : Sends P E t) :
    Sends P E' (t.attempt : WebTask ε' (Except ε α)) := by
  constructor
  case acts =>
    intro deadline
    rw [funext (on_attempt t deadline)]
    exact (h.acts deadline).map attempted
  case errors =>
    intro deadline n e failed
    rw [on_attempt] at failed
    cases ended : (t.on deadline n).1 with
    | done a | failed e' | expired =>
      rw [ended] at failed
      cases failed

/-- To see who listens sends nothing. -/
lemma listens (u : Url) : Sends P E (WebTask.listens u) where
  acts _ := .still (fun _ => rfl) (fun _ => rfl) fun _ _ _ _ => rfl
  errors failed := by cases failed

/-- To look at the clock sends nothing. -/
lemma time : Sends P E (WebTask.time : WebTask ε Nat) where
  acts _ := .still (fun _ => rfl) (fun _ => rfl) fun _ _ _ _ => rfl
  errors failed := by cases failed

/-- To wait sends nothing and has no error. -/
lemma sleep (span : Nat) : Sends P E (WebTask.sleep span) where
  acts deadline := by
    cases deadline with
    | none => exact .still (fun _ => rfl) (fun _ => rfl) fun _ _ _ _ => rfl
    | some t =>
      have ended (n : Network) : (WebTask.sleep span : WebTask ε Unit).on (some t) n =
          if t < n.now + span then (.expired, { n with now := max n.now t })
          else (.done (), { n with now := n.now + span }) := rfl
      refine .still ?_ ?_ ?_
      · intro n
        rw [ended]
        split <;> rfl
      · intro n
        rw [ended]
        split <;> rfl
      · intro number reply delay n
        rw [ended, ended]
        change (if t < n.now + span then _ else _) = _
        split <;> rfl
  errors {deadline n e} failed := by
    cases deadline with
    | none => cases failed
    | some t =>
      unfold on WebTask.sleep at failed
      simp only at failed
      split at failed <;> cases failed

/-- A request is sent, and the reply to it is heeded, which is none to a later one. -/
lemma send {q : Request} (h : P q) : Sends P E (WebTask.send q) where
  acts _ := {
    listens := fun _ => rfl
    sends := fun _ => ⟨[q], rfl, fun _ mem => by rwa [List.mem_singleton.1 mem]⟩
    foresees := by
      intro n number reply delay before
      have sent : n.requests.length ≠ number := by
        change (n.requests ++ [q]).length ≤ number at before
        rw [List.length_append, List.length_singleton] at before
        omega
      change (Outcome.done (Function.update n.replies number reply n.requests.length,
        Function.update n.delays number delay n.requests.length), _) = _
      rw [Function.update_of_ne sent, Function.update_of_ne sent]
      rfl }
  errors failed := by cases failed

/-- A request is all that is sent for one. -/
lemma request {q : Request} (h : P q) : Sends P E (WebTask.request q) :=
  (send h).bind fun answer => (sleep answer.2).bind fun _ => done answer.1

/-- A task with a limit of its own sends what the task sends. -/
lemma within {t : WebTask ε α} (limit : Nat) (h : Sends P E t) : Sends P E (t.within limit) := by
  have all : Sends P E (t >>= fun a => WebTask.done (some a)) := h.bind fun a => done (some a)
  constructor
  case acts =>
    intro deadline
    rw [funext (on_within t limit deadline)]
    refine .reading (f := Network.now) (fun _ _ _ _ => rfl) fun now => ?_
    unfold limited
    split
    · exact (h.acts _).map inTime
    · exact all.acts deadline
  case errors =>
    intro deadline n e failed
    rw [on_within, limited] at failed
    split at failed
    · cases ended : (t.on (some (n.now + limit)) n).1 with
      | failed e' =>
        rw [ended] at failed
        cases failed
        exact h.errors ended
      | done a | expired =>
        rw [ended] at failed
        cases failed
    · exact all.errors failed

/-- A task that is attempted again and again sends what one attempt sends. -/
lemma poll {t : WebTask ε (Option α)} (h : Sends P E t) (limit : Nat) :
    Sends P E (t.poll limit) := by
  -- the time that is left gets less with every attempt
  induction limit using Nat.strongRecOn with
  | ind limit ih =>
    rw [WebTask.poll]
    refine time.bind fun start => (h.within limit).bind fun found => ?_
    match found with
    | none => exact done none
    | some (some a) => exact done (some a)
    | some none =>
      refine time.bind fun now => ?_
      simp only
      split
      · exact (sleep _).bind fun _ => done none
      · next enough =>
        refine (sleep _).bind fun _ => ih _ ?_
        unfold pollInterval at *
        omega

end Sends

end WebTask

end SeedVault
