import Mathlib.Order.Monotone.Basic
import SeedVault.Proofs.Browser.Search

/-!
# Polling

A poll asks its questions in turn, round after round, with a pause behind each round. Which of them
it puts depends on how long the replies take (`Network.Due`), and of the replies only those count
that come in time (`Network.Admits`). A poll ends by the first of these that decides; if none of
them does it ends when its time is up (`WebTask.on_poll`).
-/

namespace SeedVault

namespace Network

variable (n : Network)

/-- How long it takes to get so many replies one after another, from a number on. -/
def waited (number : Nat) : Nat → Nat
  | 0 => 0
  | j + 1 => waited number j + n.delays (number + j)

/-- When so many requests have been sent and replied to one after another. -/
def clock (j : Nat) : Nat := n.now + n.waited n.requests.length j

/-- The reply to one of the requests to come, by its number among them. -/
def reply (j : Nat) : Reply := n.replies (n.requests.length + j)

/-- The reply to a question, by its round and its place in it. -/
def replyTo (size r j : Nat) : Reply := n.reply (r * size + j)

/-- When a round of so many questions begins, if each question before it gets its reply. -/
def opens (size : Nat) : Nat → Nat
  | 0 => n.now
  | r + 1 => opens size r + n.waited (n.requests.length + r * size) size + WebTask.pollInterval

/-- When a question is put, by its round and its place in it, if each one before it gets its
reply. -/
def puts (size r j : Nat) : Nat := n.opens size r + n.waited (n.requests.length + r * size) j

/-- A question is put before the time is up. A round is not begun when it is. -/
structure Due (size stop r j : Nat) : Prop where
  lt_size : j < size
  opened : r = 0 ∨ n.opens size r < stop
  puts_le : n.puts size r j ≤ stop

/-- A question gets its reply before the time is up. -/
structure Admits (size stop r j : Nat) : Prop where
  due : n.Due size stop r j
  puts_le : n.puts size r (j + 1) ≤ stop

/-- The network when some more requests have been sent and it has become another time. -/
def later (qs : List Request) (now : Nat) : Network :=
  { n with requests := n.requests ++ qs, now }

variable {n}

/-- One reply more takes its own time in addition, counted at the front. -/
lemma waited_succ (number j : Nat) :
    n.waited number (j + 1) = n.delays number + n.waited (number + 1) j := by
  induction j with
  | zero => simp [waited]
  | succ j ih =>
    rw [waited, ih, waited]
    have same : number + (j + 1) = number + 1 + j := by omega
    rw [same, Nat.add_assoc]

/-- More replies take no less time. -/
lemma waited_mono (number : Nat) : Monotone (n.waited number) :=
  monotone_nat_of_le_succ fun _ => Nat.le_add_right _ _

/-- In the first round the questions are put as the replies to those before come. -/
lemma puts_first (size j : Nat) : n.puts size 0 j = n.clock j := by
  rw [puts, clock, opens, Nat.zero_mul, Nat.add_zero]

/-- In the first round the replies are the next ones. -/
lemma replyTo_first (size : Nat) : n.replyTo size 0 = n.reply := by
  funext j
  rw [replyTo, Nat.zero_mul, Nat.zero_add]

/-- A round begins some time after all questions of the one before have their replies. -/
lemma opens_succ (size r : Nat) :
    n.opens size (r + 1) = n.puts size r size + WebTask.pollInterval := rfl

/-- In a round the questions are put one after the other. -/
lemma puts_mono (size r : Nat) : Monotone (n.puts size r) :=
  fun _ _ le => Nat.add_le_add_left (waited_mono _ le) _

/-- The rounds begin one after the other. -/
lemma opens_mono (size : Nat) : Monotone (n.opens size) := by
  refine monotone_nat_of_le_succ fun r => ?_
  rw [opens_succ]
  exact (puts_mono size r (Nat.zero_le size)).trans (Nat.le_add_right _ _)

/-- If the second round would begin too late, there is only the first one. -/
lemma Due.round_eq_zero {size stop r j : Nat} (due : n.Due size stop r j)
    (beyond : stop ≤ n.opens size 1) : r = 0 := by
  rcases due.opened with first | early
  · exact first
  · by_contra other
    have opened : n.opens size 1 ≤ n.opens size r :=
      n.opens_mono size (Nat.one_le_iff_ne_zero.2 other)
    exact absurd (beyond.trans opened) (Nat.not_le.2 early)

/-- What is later than a later state is later than the first one. -/
lemma later_later (qs qs' : List Request) (t t' : Nat) :
    (n.later qs t).later qs' t' = n.later (qs ++ qs') t' := by
  simp [later]

/-- Without a request and without a wait, nothing is later. -/
lemma later_nil : n.later [] n.now = n := by
  simp [later]

/-- The replies to come are those behind the requests that were sent. -/
lemma reply_later (qs : List Request) (t j : Nat) :
    (n.later qs t).reply j = n.reply (qs.length + j) := by
  rw [reply, reply, later, List.length_append, Nat.add_assoc]

/-- It takes as long later on. -/
lemma waited_later (qs : List Request) (t number j : Nat) :
    (n.later qs t).waited number j = n.waited number j := by
  induction j with
  | zero => rfl
  | succ j ih =>
    rw [waited, ih]
    rfl

/-- Behind one request the later ones are replied to as they would have been. -/
lemma clock_later (q : Request) (j : Nat) :
    (n.later [q] (n.clock 1)).clock j = n.clock (j + 1) := by
  have one : n.clock 1 = n.now + n.delays n.requests.length := by simp [clock, waited]
  calc (n.later [q] (n.clock 1)).clock j
      = n.clock 1 + (n.later [q] (n.clock 1)).waited (n.requests ++ [q]).length j := rfl
    _ = n.clock 1 + n.waited (n.requests.length + 1) j := by
      rw [waited_later, List.length_append, List.length_singleton]
    _ = n.clock (j + 1) := by rw [one, clock, waited_succ, Nat.add_assoc]

section Behind

variable {qs : List Request} {size : Nat} (whole : qs.length = size)

include whole

/-- Behind a whole round the requests to come are those of the next one. -/
lemma length_later (t r : Nat) :
    (n.later qs t).requests.length + r * size = n.requests.length + (r + 1) * size := by
  rw [later, List.length_append, whole, Nat.succ_mul]
  omega

/-- Behind a round the later ones are what they would have been. -/
lemma opens_later (r : Nat) :
    (n.later qs (n.opens size 1)).opens size r = n.opens size (r + 1) := by
  induction r with
  | zero => rfl
  | succ r ih =>
    rw [opens, ih, waited_later, length_later whole]
    rfl

/-- Behind the first round, each question is put as it is one round on. -/
lemma puts_later (r j : Nat) :
    (n.later qs (n.opens size 1)).puts size r j = n.puts size (r + 1) j := by
  rw [puts, opens_later whole, waited_later, length_later whole]
  rfl

/-- Behind the first round, each question gets the reply of one round on. -/
lemma replyTo_later (t r : Nat) :
    (n.later qs t).replyTo size r = n.replyTo size (r + 1) := by
  funext j
  rw [replyTo, reply_later, whole, replyTo, Nat.succ_mul]
  congr 1
  omega

/-- Behind the first round, each question is due as it is one round on. -/
lemma due_later {stop : Nat} (inTime : n.opens size 1 < stop) (r j : Nat) :
    (n.later qs (n.opens size 1)).Due size stop r j ↔ n.Due size stop (r + 1) j := by
  constructor
  · rintro ⟨lt, opened, put⟩
    rw [opens_later whole] at opened
    rw [puts_later whole] at put
    refine ⟨lt, .inr ?_, put⟩
    rcases opened with rfl | opened
    · exact inTime
    · exact opened
  · rintro ⟨lt, opened, put⟩
    refine ⟨lt, .inr ?_, ?_⟩
    · rw [opens_later whole]
      exact opened.resolve_left r.succ_ne_zero
    · rwa [puts_later whole]

/-- Behind the first round, each question gets its reply in time as it does one round on. -/
lemma admits_later {stop : Nat} (inTime : n.opens size 1 < stop) (r j : Nat) :
    (n.later qs (n.opens size 1)).Admits size stop r j ↔ n.Admits size stop (r + 1) j := by
  constructor
  · rintro ⟨due, put⟩
    rw [puts_later whole] at put
    exact ⟨(due_later whole inTime r j).1 due, put⟩
  · rintro ⟨due, put⟩
    refine ⟨(due_later whole inTime r j).2 due, ?_⟩
    rwa [puts_later whole]

end Behind

end Network

namespace WebTask

variable {ε α : Type}

/-- A request, and what its reply comes to: a value, an error, or nothing yet. -/
structure Question (ε α : Type) where
  request : Request
  reads : Reply → Except ε (Option α)

/-- Asks one question after another until a reply decides. -/
def askAll : List (Question ε α) → WebTask ε (Option α)
  | [] => return none
  | q :: others => do
    match ← ofExcept (q.reads (← request q.request)) with
    | some a => return some a
    | none => askAll others

/-- The reply to a question comes to nothing yet. -/
def Undecided (qs : List (Question ε α)) (reply : Nat → Reply) (j : Nat) : Prop :=
  ∀ q, qs[j]? = some q → q.reads (reply j) = .ok none

/-- How one round of questions ends on a network, and the network behind it. -/
inductive Round (qs : List (Question ε α)) (n : Network) (stop : Nat) :
    Outcome ε (Option α) × Network → Prop where
  | decided {j q} :
    (∀ i < j, Undecided qs n.reply i) →
    qs[j]? = some q →
    q.reads (n.reply j) ≠ .ok none →
    n.clock (j + 1) ≤ stop →
    Round qs n stop (.ofExcept (q.reads (n.reply j)),
      n.later ((qs.take (j + 1)).map Question.request) (n.clock (j + 1)))
  | late {j} :
    (∀ i < j, Undecided qs n.reply i) →
    j < qs.length →
    n.clock j ≤ stop →
    stop < n.clock (j + 1) →
    Round qs n stop (.expired, n.later ((qs.take (j + 1)).map Question.request) stop)
  | missed :
    (∀ i, Undecided qs n.reply i) →
    n.clock qs.length ≤ stop →
    Round qs n stop (.done none, n.later (qs.map Question.request) (n.clock qs.length))

section Rounds

variable {qs : List (Question ε α)} {n : Network} {stop : Nat}

/-- Questions are undecided if the first one is and the others are behind it. -/
lemma Undecided.cons {q : Question ε α} {t : Nat} {j : Nat}
    (first : q.reads (n.reply 0) = .ok none)
    (others : ∀ i < j, Undecided qs (n.later [q.request] t).reply i) :
    ∀ i < j + 1, Undecided (q :: qs) n.reply i := by
  intro i lt q' listed
  cases i with
  | zero =>
    cases listed
    exact first
  | succ i =>
    have undecided := others i (Nat.lt_of_succ_lt_succ lt) q' listed
    rwa [Network.reply_later, List.length_singleton, Nat.add_comm] at undecided

/-- A round goes on behind a question that is not decided. -/
lemma Round.cons {q : Question ε α} {ended : Outcome ε (Option α) × Network}
    (first : q.reads (n.reply 0) = .ok none)
    (h : Round qs (n.later [q.request] (n.clock 1)) stop ended) : Round (q :: qs) n stop ended := by
  have shifted (j : Nat) : (n.later [q.request] (n.clock 1)).reply j = n.reply (j + 1) := by
    rw [Network.reply_later, List.length_singleton, Nat.add_comm]
  cases h with
  | decided before listed decisive inTime =>
    rw [shifted] at decisive ⊢
    rw [Network.clock_later] at inTime ⊢
    rw [Network.later_later]
    exact .decided (Undecided.cons first before) listed decisive inTime
  | late before lt put beyond =>
    rw [Network.clock_later] at put beyond
    rw [Network.later_later]
    exact .late (Undecided.cons first before) (Nat.succ_lt_succ lt) put beyond
  | missed all inTime =>
    rw [Network.clock_later] at inTime ⊢
    rw [Network.later_later]
    exact .missed (fun i => Undecided.cons first (fun i _ => all i) i (Nat.lt_succ_self i)) inTime

/-- A request gives its reply, unless the time is up before. -/
lemma on_request (q : Request) :
    (request q : WebTask ε Reply).on (some stop) n =
      if stop < n.clock 1 then (.expired, n.later [q] (max n.now stop))
      else (.done (n.reply 0), n.later [q] (n.clock 1)) := by
  have one : n.clock 1 = n.now + n.delays n.requests.length := by
    simp [Network.clock, Network.waited]
  rw [one]
  change ((sleep _ >>= fun _ => pure _ : WebTask ε Reply).on (some stop)
    { n with requests := n.requests ++ [q] }) = _
  rw [on_bind]
  unfold on sleep
  dsimp only
  split <;> rfl

/-- Questions are asked in turn up to the first one that is decided, or that is not answered in
time. -/
lemma on_askAll (qs : List (Question ε α)) (begun : n.now ≤ stop) :
    Round qs n stop ((askAll qs).on (some stop) n) := by
  induction qs generalizing n with
  | nil =>
    have missed : Round ([] : List (Question ε α)) n stop (.done none, n.later [] n.now) :=
      .missed (fun i q listed => by cases listed) begun
    rwa [n.later_nil] at missed
  | cons q others ih =>
    have none_before : ∀ i < 0, Undecided (q :: others) n.reply i :=
      fun i lt => absurd lt i.not_lt_zero
    rw [askAll, on_bind, on_request]
    by_cases beyond : stop < n.clock 1
    · rw [if_pos beyond, max_eq_right begun]
      exact .late none_before (Nat.succ_pos _) begun beyond
    · rw [if_neg beyond]
      have inTime := Nat.not_lt.1 beyond
      simp only [proceed]
      rw [on_bind]
      cases told : q.reads (n.reply 0) with
      | error e =>
        have decided := Round.decided none_before List.getElem?_cons_zero (by simp [told]) inTime
        rw [told] at decided
        exact decided
      | ok found =>
        cases found with
        | some a =>
          have decided := Round.decided none_before List.getElem?_cons_zero (by simp [told]) inTime
          rw [told] at decided
          exact decided
        | none => exact (ih inTime).cons told

end Rounds

/-- The requests of so many rounds of some questions, and of so many questions behind them. -/
def asked (qs : List (Question ε α)) (r j : Nat) : List Request :=
  ((List.replicate r qs).flatten ++ qs.take j).map Question.request

/-- In front of a question are those of the rounds before, and those in front of it in its round. -/
def Front (r' i r j : Nat) : Prop := r' < r ∨ r' = r ∧ i < j

/-- How a poll with some questions ends on a network, and the network behind it. -/
inductive Settled (qs : List (Question ε α)) (n : Network) (stop : Nat) :
    Outcome ε (Option α) × Network → Prop where
  | decided {r j q} :
    n.Admits qs.length stop r j →
    (∀ r' i, Front r' i r j → Undecided qs (n.replyTo qs.length r') i) →
    qs[j]? = some q →
    q.reads (n.replyTo qs.length r j) ≠ .ok none →
    Settled qs n stop (.ofExcept (q.reads (n.replyTo qs.length r j)),
      n.later (asked qs r (j + 1)) (n.puts qs.length r (j + 1)))
  | late {r j} :
    (∀ r' i, n.Due qs.length stop r' i ↔ i < qs.length ∧ Front r' i r j) →
    (∀ r' i, n.Admits qs.length stop r' i → Undecided qs (n.replyTo qs.length r') i) →
    Settled qs n stop (.done none, n.later (asked qs r j) stop)

section Polls

variable {qs : List (Question ε α)} {n : Network} {stop : Nat}

/-- In the first round so many questions are asked. -/
lemma asked_zero (qs : List (Question ε α)) (j : Nat) :
    asked qs 0 j = (qs.take j).map Question.request := rfl

/-- Before a later round all questions of the first one are asked. -/
lemma asked_succ (qs : List (Question ε α)) (r j : Nat) :
    asked qs (r + 1) j = qs.map Question.request ++ asked qs r j := by
  rw [asked, List.replicate_succ, List.flatten_cons, List.append_assoc, List.map_append]
  rfl

/-- What comes first in the first round comes earlier in it. -/
lemma front_first {r' i j : Nat} (front : Front r' i 0 j) : r' = 0 ∧ i < j := by
  rcases front with lt | ⟨rfl, lt⟩
  · exact absurd lt r'.not_lt_zero
  · exact ⟨rfl, lt⟩

/-- A round that decides ends the poll. -/
lemma Settled.first_decided {j : Nat} {q : Question ε α}
    (before : ∀ i < j, Undecided qs n.reply i) (listed : qs[j]? = some q)
    (decisive : q.reads (n.reply j) ≠ .ok none) (inTime : n.clock (j + 1) ≤ stop) :
    Settled qs n stop (.ofExcept (q.reads (n.reply j)),
      n.later ((qs.take (j + 1)).map Question.request) (n.clock (j + 1))) := by
  obtain ⟨lt, _⟩ := List.getElem?_eq_some_iff.1 listed
  rw [← n.puts_first qs.length] at inTime ⊢
  rw [← n.replyTo_first qs.length] at before decisive ⊢
  have due : n.Due qs.length stop 0 j :=
    ⟨lt, .inl rfl, (n.puts_mono _ 0 (Nat.le_succ j)).trans inTime⟩
  refine .decided ⟨due, inTime⟩ ?_ listed decisive
  intro r' i front
  obtain ⟨rfl, lt⟩ := front_first front
  exact before i lt

/-- A round in which the time is up ends the poll. -/
lemma Settled.first_late {j : Nat} (before : ∀ i < j, Undecided qs n.reply i)
    (lt : j < qs.length) (put : n.clock j ≤ stop) (beyond : stop < n.clock (j + 1)) :
    Settled qs n stop (.done none, n.later ((qs.take (j + 1)).map Question.request) stop) := by
  rw [← n.puts_first qs.length] at put beyond
  have filled : n.puts qs.length 0 (j + 1) ≤ n.puts qs.length 0 qs.length := n.puts_mono _ 0 lt
  have first {r' i : Nat} (due : n.Due qs.length stop r' i) : r' = 0 :=
    due.round_eq_zero (beyond.le.trans (filled.trans (Nat.le_add_right _ _)))
  refine .late (r := 0) (j := j + 1) ?_ ?_
  · intro r' i
    constructor
    · intro due
      obtain rfl := first due
      refine ⟨due.lt_size, .inr ⟨rfl, ?_⟩⟩
      by_contra behind
      have later : n.puts qs.length 0 (j + 1) ≤ n.puts qs.length 0 i :=
        n.puts_mono _ 0 (Nat.not_lt.1 behind)
      exact absurd (later.trans due.puts_le) (Nat.not_le.2 beyond)
    · rintro ⟨lt', front⟩
      obtain ⟨rfl, le⟩ := front_first front
      exact ⟨lt', .inl rfl, (n.puts_mono _ 0 (Nat.le_of_lt_succ le)).trans put⟩
  · intro r' i admits
    obtain rfl := first admits.due
    rw [n.replyTo_first]
    refine before i ?_
    by_contra behind
    have later : n.puts qs.length 0 (j + 1) ≤ n.puts qs.length 0 (i + 1) :=
      n.puts_mono _ 0 (Nat.succ_le_succ (Nat.not_lt.1 behind))
    exact absurd (later.trans admits.puts_le) (Nat.not_le.2 beyond)

/-- A round that decides nothing ends the poll if there is no time for another one. -/
lemma Settled.only_missed (all : ∀ i, Undecided qs n.reply i) (inTime : n.clock qs.length ≤ stop)
    (beyond : stop ≤ n.opens qs.length 1) :
    Settled qs n stop (.done none, n.later (qs.map Question.request) stop) := by
  rw [← n.puts_first qs.length] at inTime
  have whole : asked qs 1 0 = qs.map Question.request := by
    rw [asked_succ, asked_zero, List.take_zero, List.map_nil, List.append_nil]
  rw [← whole]
  refine .late ?_ ?_
  · intro r' i
    constructor
    · intro due
      obtain rfl := due.round_eq_zero beyond
      exact ⟨due.lt_size, .inl Nat.zero_lt_one⟩
    · rintro ⟨lt, earlier | ⟨_, none⟩⟩
      · obtain rfl := Nat.lt_one_iff.1 earlier
        exact ⟨lt, .inl rfl, (n.puts_mono _ 0 lt.le).trans inTime⟩
      · exact absurd none i.not_lt_zero
  · intro r' i admits
    obtain rfl := admits.due.round_eq_zero beyond
    rw [n.replyTo_first]
    exact all i

/-- What comes before in one round comes before in the next. -/
lemma front_succ {r' i r j : Nat} : Front (r' + 1) i (r + 1) j ↔ Front r' i r j := by
  unfold Front
  omega

/-- Behind a round that decides nothing comes the next one. -/
lemma Settled.next {ended : Outcome ε (Option α) × Network} (all : ∀ i, Undecided qs n.reply i)
    (inTime : n.opens qs.length 1 < stop)
    (h : Settled qs (n.later (qs.map Question.request) (n.opens qs.length 1)) stop ended) :
    Settled qs n stop ended := by
  have whole : (qs.map Question.request).length = qs.length := List.length_map _
  -- the first round is that of `n`, and a later one that of the network behind it, one lower
  cases h with
  | @decided r j q admits before listed decisive =>
    rw [n.replyTo_later whole] at decisive ⊢
    rw [n.puts_later whole, n.later_later, ← asked_succ]
    refine .decided ((n.admits_later whole inTime r j).1 admits) ?_ listed decisive
    intro r' i front
    cases r' with
    | zero =>
      rw [n.replyTo_first]
      exact all i
    | succ r' =>
      rw [← n.replyTo_later whole]
      exact before r' i (front_succ.1 front)
  | @late r j due undecided =>
    rw [n.later_later, ← asked_succ]
    refine .late ?_ ?_
    · intro r' i
      cases r' with
      | zero =>
        constructor
        · exact fun due => ⟨due.lt_size, .inl r.succ_pos⟩
        · rintro ⟨lt, _⟩
          have put : n.puts qs.length 0 i ≤ n.puts qs.length 0 qs.length := n.puts_mono _ 0 lt.le
          exact ⟨lt, .inl rfl, put.trans ((Nat.le_add_right _ _).trans inTime.le)⟩
      | succ r' => rw [← n.due_later whole inTime, due, front_succ]
    · intro r' i admits
      cases r' with
      | zero =>
        rw [n.replyTo_first]
        exact all i
      | succ r' =>
        rw [← n.replyTo_later whole]
        exact undecided r' i ((n.admits_later whole inTime r' i).2 admits)

end Polls

/-- A wait that is over in time makes it later and does nothing else. -/
lemma on_sleep {span : Nat} {deadline : Option Nat} {n : Network}
    (inTime : deadline.all (n.now + span ≤ ·)) :
    (sleep span : WebTask ε Unit).on deadline n = (.done (), n.later [] (n.now + span)) := by
  rw [on_sleep_of_le inTime, Network.later, List.append_nil]

/-- What is in time at some point was so before. -/
lemma within_of_le {t t' : Nat} {deadline : Option Nat} (le : t ≤ t')
    (h : deadline.all (t' ≤ ·)) : deadline.all (t ≤ ·) := by
  cases deadline with
  | none => rfl
  | some stop => exact decide_eq_true (le.trans (of_decide_eq_true h))

/-- A poll with some questions ends by the first reply in time that decides, or else when its time
is up. -/
lemma on_poll {t : WebTask ε (Option α)} {qs : List (Question ε α)} {deadline : Option Nat}
    {limit : Nat} {n : Network} (asks : ∀ deadline n', n'.listens = n.listens →
      t.on deadline n' = (askAll qs).on deadline n')
    (inTime : deadline.all (n.now + limit ≤ ·)) :
    Settled qs n (n.now + limit) ((t.poll limit).on deadline n) := by
  -- the time that is left gets less with every attempt
  induction limit using Nat.strongRecOn generalizing n with
  | ind limit ih =>
    have round := on_askAll (n := n) qs (Nat.le_add_right n.now limit)
    rw [← asks _ n rfl] at round
    rw [poll, on_bind]
    show Settled qs n _ ((t.within limit >>= _).on deadline n)
    rw [on_bind, on_within, limited, if_pos inTime]
    generalize t.on (some (n.now + limit)) n = ended at round
    cases round with
    | @decided j q before listed decisive early =>
      have settled := Settled.first_decided before listed decisive early
      cases told : q.reads (n.reply j) with
      | error e =>
        rw [told] at settled
        exact settled
      | ok found =>
        cases found with
        | some a =>
          rw [told] at settled
          exact settled
        | none => exact absurd told decisive
    | late before lt put beyond => exact .first_late before lt put beyond
    | missed all early =>
      let n' := n.later (qs.map Question.request) (n.clock qs.length)
      let left := limit - (n.clock qs.length - n.now)
      show Settled qs n _ ((if left ≤ pollInterval then sleep left >>= fun _ => pure none
        else sleep pollInterval >>= fun _ => t.poll (left - pollInterval)).on deadline n')
      have begun : n.now ≤ n.clock qs.length := Nat.le_add_right _ _
      have opens : n.opens qs.length 1 = n.clock qs.length + pollInterval := by
        rw [n.opens_succ, n.puts_first]
      split
      · next beyond =>
        have stop : n'.now + left = n.now + limit := by
          show n.clock qs.length + _ = _
          omega
        rw [on_bind, on_sleep (by rwa [stop]), n.later_later, List.append_nil, stop]
        refine .only_missed all early ?_
        omega
      · next enough =>
        have stop : n.clock qs.length + pollInterval + (left - pollInterval) = n.now + limit := by
          omega
        have pause : n'.now + pollInterval = n.opens qs.length 1 := opens.symm
        have slept : deadline.all (n'.now + pollInterval ≤ ·) := by
          refine within_of_le ?_ inTime
          rw [pause]
          omega
        rw [on_bind, on_sleep slept, n.later_later, List.append_nil, pause]
        refine .next all ?_ ?_
        · omega
        · have later := ih (left - pollInterval) (by unfold pollInterval at *; omega)
            (n := n.later (qs.map Question.request) (n.opens qs.length 1)) asks
          have same : (n.later (qs.map Question.request) (n.opens qs.length 1)).now +
              (left - pollInterval) = n.now + limit := by
            show n.opens qs.length 1 + _ = _
            omega
          rw [same] at later
          exact later inTime

end WebTask

end SeedVault
