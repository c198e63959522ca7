import SeedVault.Proofs.Browser.Client

/-!
# What is said on the network

What a task sends, with the replies to it, is its conversation. `WebTask.Says R t` relates, by `R`,
the conversation of every run of `t` to how it ends. Such relations pass from the parts of a task
to the whole: behind a task comes what the next one says (`Says.bind`), and something attempted
again and again says what every single attempt does (`Says.poll`).
-/

namespace SeedVault

/-- A request with the reply to it. -/
abbrev Exchange : Type := Request × Reply

namespace Network

/-- Requests with the replies to them, if the first one has a given number. -/
def answered (n : Network) (number : Nat) (qs : List Request) : List Exchange :=
  (qs.zipIdx number).map fun q => (q.1, n.replies q.2)

/-- What is said on a network until it has come to another state. -/
def conversation (n n' : Network) : List Exchange :=
  n.answered n.requests.length (n'.requests.drop n.requests.length)

/-- The network comes to another state by a conversation. -/
structure Carries (n n' : Network) (said : List Exchange) : Prop where
  replies : n'.replies = n.replies
  requests : ∃ qs, n'.requests = n.requests ++ qs ∧ said = n.answered n.requests.length qs

variable {n n' n'' : Network} {said said' : List Exchange}

/-- A conversation that leads from one state to another is what was said between them. -/
lemma Carries.conversation (h : Carries n n' said) : n.conversation n' = said := by
  obtain ⟨qs, grown, rfl⟩ := h.requests
  rw [Network.conversation, grown, List.drop_left]

/-- Nothing is said where nothing changes. -/
lemma Carries.refl (n : Network) : Carries n n [] where
  replies := rfl
  requests := ⟨[], (List.append_nil _).symm, rfl⟩

/-- One conversation and then another make up one. -/
lemma Carries.trans (first : Carries n n' said) (second : Carries n' n'' said') :
    Carries n n'' (said ++ said') := by
  obtain ⟨qs, grown, rfl⟩ := first.requests
  obtain ⟨qs', grown', rfl⟩ := second.requests
  refine ⟨second.replies.trans first.replies, qs ++ qs', ?_, ?_⟩
  · rw [grown', grown, List.append_assoc]
  · -- the numbers of the later requests go on behind those of the earlier ones
    rw [answered, answered, answered, List.zipIdx_append, List.map_append, grown,
      List.length_append, first.replies]

/-- A state in which nothing more was sent and no reply is another one. -/
lemma Carries.still (replies : n'.replies = n.replies) (requests : n'.requests = n.requests) :
    Carries n n' [] where
  replies := replies
  requests := ⟨[], by rw [requests, List.append_nil], rfl⟩

end Network

open Network (Carries)

namespace Outcome

/-- How something ends that is there already. -/
def ofExcept {ε α : Type} : Except ε α → Outcome ε α
  | .ok a => .done a
  | .error e => .failed e

/-- Something has ended with a value. -/
def isDone {ε α : Type} : Outcome ε α → Bool
  | done _ => true
  | failed _ => false
  | expired => false

/-- What has not ended with a value has ended with none. -/
lemma ne_done {ε α : Type} {o : Outcome ε α} (undone : o.isDone = false) (a : α) :
    o ≠ .done a := by
  rintro rfl
  cases undone

end Outcome

namespace WebTask

variable {ε ε' α β : Type}

/-- Tasks are put together in any way, and nothing is the same as doing nothing. -/
instance : LawfulMonad (WebTask ε) := by
  refine LawfulMonad.mk' (WebTask ε) ?_ (fun _ _ => rfl) ?_
  · intro α t
    funext deadline n
    change t.andThen done deadline n = t deadline n
    unfold andThen
    cases t deadline n with
    | mk ended n' => cases ended <;> rfl
  · intro α β γ t next last
    funext deadline n
    change (t.andThen next).andThen last deadline n =
      t.andThen (fun a => (next a).andThen last) deadline n
    unfold andThen
    cases t deadline n with
    | mk ended n' => cases ended <;> rfl

/-- Every run of a task has a conversation that is related to how the run ends. -/
def Says (R : List Exchange → Outcome ε α → Prop) (t : WebTask ε α) : Prop :=
  ∀ deadline n, ∃ said, Carries n (t.on deadline n).2 said ∧ R said (t.on deadline n).1

/-- What is said behind a task, by how it ended. -/
def Behind (R : List Exchange → Outcome ε β → Prop) (next : α → WebTask ε β)
    (said : List Exchange) : Outcome ε α → Prop
  | .done a => Says (fun said' => R (said ++ said')) (next a)
  | .failed e => R said (.failed e)
  | .expired => R said .expired

/-- A task with a limit of its own ends as the task does, if the task ends in time. -/
inductive InTime : Outcome ε α → Outcome ε (Option α) → Prop where
  | done (a : α) : InTime (.done a) (.done (some a))
  | failed (e : ε) : InTime (.failed e) (.failed e)
  | stopped : InTime .expired (.done none)
  | expired : InTime .expired .expired

/-- The end of a task that has given nothing when its time is up. -/
def Overdue (o : Outcome ε (Option α)) : Prop := o = .done none ∨ o = .expired

/-- What is said by attempts whose conversations are all related by `R`. -/
inductive Polled (R : List Exchange → Outcome ε (Option α) → Prop) :
    List Exchange → Outcome ε (Option α) → Prop where
  | found {said a} : R said (.done (some a)) → Polled R said (.done (some a))
  | broken {said e} : R said (.failed e) → Polled R said (.failed e)
  | stopped {said o} : R said .expired → Overdue o → Polled R said o
  | missed {said o} : R said (.done none) → Overdue o → Polled R said o
  | again {said said' o} :
    R said (.done none) →
    Polled R said' o →
    Polled R (said ++ said') o

namespace Says

variable {R : List Exchange → Outcome ε α → Prop}

/-- What is said is as any weaker relation says. -/
lemma mono {R' : List Exchange → Outcome ε α → Prop} {t : WebTask ε α} (h : t.Says R)
    (weaker : ∀ said o, R said o → R' said o) : t.Says R' := by
  intro deadline n
  obtain ⟨said, carried, related⟩ := h deadline n
  exact ⟨said, carried, weaker _ _ related⟩

/-- A task that ends at once says nothing. -/
lemma done {a : α} (h : R [] (.done a)) : (WebTask.done a).Says R :=
  fun _ n => ⟨[], Carries.refl n, h⟩

/-- A task that fails at once says nothing. -/
lemma fail {e : ε} (h : R [] (.failed e)) : (WebTask.fail e).Says R :=
  fun _ n => ⟨[], Carries.refl n, h⟩

/-- A task that has its result already says nothing. -/
lemma ofExcept {x : Except ε α} (h : R [] (.ofExcept x)) : (WebTask.ofExcept x).Says R := by
  cases x with
  | ok a => exact done h
  | error e => exact fail h

/-- One task says its part, and the next says the rest. -/
lemma bind {R' : List Exchange → Outcome ε β → Prop} {t : WebTask ε α}
    {next : α → WebTask ε β} (first : t.Says R)
    (others : ∀ said o, R said o → Behind R' next said o) : (t >>= next).Says R' := by
  intro deadline n
  obtain ⟨said, carried, related⟩ := first deadline n
  have behind := others _ _ related
  rw [on_bind]
  generalize t.on deadline n = ended at *
  obtain ⟨a | e | _, n'⟩ := ended
  · obtain ⟨said', carried', related'⟩ := behind deadline n'
    exact ⟨said ++ said', carried.trans carried', related'⟩
  · exact ⟨said, carried, behind⟩
  · exact ⟨said, carried, behind⟩

/-- What the whole says if its first part ends without a value does not depend on why. -/
lemma behind {R' : List Exchange → Outcome ε β → Prop} {t : WebTask ε α}
    {next : α → WebTask ε β} (first : t.Says R)
    (stops : ∀ said (o : Outcome ε α) (o' : Outcome ε β),
      R said o → o.isDone = false → o'.isDone = false → R' said o')
    (goes : ∀ said a, R said (.done a) → (next a).Says fun said' => R' (said ++ said')) :
    (t >>= next).Says R' := by
  refine first.bind fun said o related => ?_
  cases o with
  | done a => exact goes said a related
  | failed e => exact stops said _ _ related rfl rfl
  | expired => exact stops said _ _ related rfl rfl

/-- A task that only ends in another way than one it runs. -/
lemma through {R' : List Exchange → Outcome ε' β → Prop} {t : WebTask ε α} {t' : WebTask ε' β}
    {f : Outcome ε α → Outcome ε' β} (h : t.Says R)
    (same : ∀ deadline n, t'.on deadline n = (f (t.on deadline n).1, (t.on deadline n).2))
    (related : ∀ said o, R said o → R' said (f o)) : t'.Says R' := by
  intro deadline n
  obtain ⟨said, carried, told⟩ := h deadline n
  rw [same]
  exact ⟨said, carried, related _ _ told⟩

/-- A task with another error says the same. -/
lemma mapError {R' : List Exchange → Outcome ε' α → Prop} {f : ε → ε'} {t : WebTask ε α}
    (h : t.Says R) (related : ∀ said o, R said o → R' said (mapFault f o)) :
    (t.mapError f).Says R' :=
  h.through (on_mapError f t) related

/-- To look at the clock says nothing. -/
lemma time : (WebTask.time : WebTask ε Nat).Says fun said o => said = [] ∧ ∃ t, o = .done t :=
  fun _ n => ⟨[], Carries.refl n, rfl, _, rfl⟩

/-- To wait says nothing, and ends in time or not. -/
lemma sleep (span : Nat) :
    (WebTask.sleep span : WebTask ε Unit).Says fun said o =>
      said = [] ∧ (o = .done () ∨ o = .expired) := by
  intro deadline n
  refine ⟨[], ?_, rfl, ?_⟩
  · cases deadline with
    | none => exact Carries.still rfl rfl
    | some t =>
      unfold on WebTask.sleep
      simp only
      split <;> exact Carries.still rfl rfl
  · cases deadline with
    | none => exact .inl rfl
    | some t =>
      unfold on WebTask.sleep
      simp only
      split
      · exact .inr rfl
      · exact .inl rfl

/-- A request is sent once; its reply may come too late. -/
lemma request (q : Request) :
    (WebTask.request q : WebTask ε Reply).Says fun said o =>
      ∃ r, said = [(q, r)] ∧ (o = .done r ∨ o = .expired) := by
  have sent : (WebTask.send q : WebTask ε (Reply × Nat)).Says fun said o =>
      ∃ r delay, said = [(q, r)] ∧ o = .done (r, delay) := by
    intro deadline n
    exact ⟨[(q, n.replies n.requests.length)], ⟨rfl, [q], rfl, rfl⟩, _, _, rfl, rfl⟩
  refine sent.bind ?_
  rintro _ _ ⟨r, delay, rfl, rfl⟩
  refine (sleep delay).bind ?_
  rintro _ _ ⟨rfl, rfl | rfl⟩
  · exact done ⟨r, rfl, .inl rfl⟩
  · exact ⟨r, rfl, .inr rfl⟩

/-- A task with a limit of its own says what it says without one. -/
lemma within {t : WebTask ε α} (limit : Nat) (h : t.Says R) :
    (t.within limit).Says fun said o => ∃ o', R said o' ∧ InTime o' o := by
  intro deadline n
  rw [on_within, limited]
  split
  · obtain ⟨said, carried, related⟩ := h (some (n.now + limit)) n
    refine ⟨said, carried, _, related, ?_⟩
    cases (t.on (some (n.now + limit)) n).1 with
    | done a => exact .done a
    | failed e => exact .failed e
    | expired => exact .stopped
  · -- the time of all that the task is part of is up first
    obtain ⟨said, carried, related⟩ := h deadline n
    rw [on_bind]
    refine ⟨said, ?_, _, related, ?_⟩
    all_goals
      generalize t.on deadline n = ended at *
      obtain ⟨a | e | _, n'⟩ := ended
    · exact carried
    · exact carried
    · exact carried
    · exact .done a
    · exact .failed e
    · exact .expired

/-- Attempts in a row say what each of them says, up to the last. -/
lemma poll {R : List Exchange → Outcome ε (Option α) → Prop} {t : WebTask ε (Option α)}
    (h : t.Says R) (limit : Nat) : (t.poll limit).Says (Polled R) := by
  -- the time that is left gets less with every attempt
  induction limit using Nat.strongRecOn with
  | ind limit ih =>
    rw [WebTask.poll]
    refine time.bind ?_
    rintro _ _ ⟨rfl, start, rfl⟩
    refine (h.within limit).bind ?_
    rintro said _ ⟨_, related, ended⟩
    cases ended with
    | failed e => exact .broken related
    | stopped => exact done (.stopped (by rwa [List.append_nil]) (.inl rfl))
    | expired => exact .stopped related (.inr rfl)
    | done found =>
      cases found with
      | some a => exact done (.found (by rwa [List.append_nil]))
      | none =>
        refine time.bind ?_
        rintro _ _ ⟨rfl, now, rfl⟩
        simp only [Behind, List.nil_append]
        split
        · refine (sleep _).bind ?_
          rintro _ _ ⟨rfl, rfl | rfl⟩
          · refine done ?_
            show Polled R (said ++ []) _
            rw [List.append_nil]
            exact .missed related (.inl rfl)
          · show Polled R (said ++ []) _
            rw [List.append_nil]
            exact .missed related (.inr rfl)
        · next enough =>
          refine (sleep _).bind ?_
          rintro _ _ ⟨rfl, rfl | rfl⟩
          · refine (ih _ ?_).mono fun said' o polled => ?_
            · unfold pollInterval at *
              omega
            · rw [List.nil_append]
              exact .again related polled
          · show Polled R (said ++ []) _
            rw [List.append_nil]
            exact .missed related (.inr rfl)

end Says

end WebTask

namespace Browser

open WebTask (Says)

/-- What a reply says to a request for a value, sent under an address. -/
def readReply (s : Json.Shape) (address : String) : Reply → Except WebError Json
  | .lost => .error (.request (.lost address))
  | .answer status text => readAnswer s status text

/-- What is sent under an address. -/
def Sent (method : HttpMethod) (address : String) (body : Option Json) (q : Request) : Prop :=
  ∃ u, target address = .ok u ∧ q = ⟨method, pathAndQuery u, body⟩

/-- What one exchange comes to, if `f` is made of what the reply says. -/
inductive Exchanged {ε α : Type} (Q : Request → Prop) (s : Json.Shape)
    (f : Except WebError Json → Except ε α) : List Exchange → Outcome ε α → Prop where
  | unsent (fault) : Exchanged Q s f [] (.ofExcept (f (.error (.request fault))))
  | read {q} (r address) : Q q → Exchanged Q s f [(q, r)] (.ofExcept (f (readReply s address r)))
  | late {q} (r) : Q q → Exchanged Q s f [(q, r)] .expired

/-- An exchange sends its request at most once and gives what its reply is read as. -/
lemma says_exchange (s : Json.Shape) (method : HttpMethod) (address : String)
    (body : Option Json) :
    (exchange s method address body).Says (Exchanged (Sent method address body) s id) := by
  unfold exchange
  cases found : target address with
  | error fault => exact .fail (.unsent fault)
  | ok u =>
    have asked : (WebTask.listens u : WebTask WebError Bool).Says fun said o =>
        said = [] ∧ ∃ listening, o = .done listening :=
      fun _ n => ⟨[], Carries.refl n, rfl, _, rfl⟩
    refine asked.bind ?_
    rintro _ _ ⟨rfl, listening, rfl⟩
    cases listening with
    | false => exact .fail (.unsent (.refused (anonymous u)))
    | true =>
      have sent : Sent method address body ⟨method, pathAndQuery u, body⟩ := ⟨u, found, rfl⟩
      refine (Says.request _).bind ?_
      rintro _ _ ⟨r, rfl, rfl | rfl⟩
      · cases r with
        | lost => exact .fail (.read .lost (anonymous u) sent)
        | answer status text => exact .ofExcept (.read (.answer status text) (anonymous u) sent)
      · exact .late r sent

/-- How a task ends that makes something else of the end of another one. -/
def treated {ε ε' α β : Type} (g : Except ε α → Except ε' β) : Outcome ε α → Outcome ε' β
  | .done a => .ofExcept (g (.ok a))
  | .failed e => .ofExcept (g (.error e))
  | .expired => .expired

/-- A result that is there already is treated as it is. -/
lemma treated_ofExcept {ε ε' α β : Type} (g : Except ε α → Except ε' β) (x : Except ε α) :
    treated g (.ofExcept x) = .ofExcept (g x) := by
  cases x <;> rfl

section Treated

variable {ε ε' α β : Type} {Q : Request → Prop} {s : Json.Shape}
  {f : Except WebError Json → Except ε α}

/-- A task that makes something else of the end of an exchange is one with that exchange. -/
lemma Exchanged.treat {t : WebTask ε α} {t' : WebTask ε' β} {g : Except ε α → Except ε' β}
    (h : t.Says (Exchanged Q s f))
    (same : ∀ deadline n,
      t'.on deadline n = (treated g (t.on deadline n).1, (t.on deadline n).2)) :
    t'.Says (Exchanged Q s (g ∘ f)) := by
  refine h.through same fun said o exchanged => ?_
  cases exchanged with
  | unsent fault =>
    rw [treated_ofExcept]
    exact .unsent fault
  | read r address sent =>
    rw [treated_ofExcept]
    exact .read r address sent
  | late r sent => exact .late r sent

/-- To read more out of the value of an exchange says nothing more. -/
lemma Exchanged.bind {t : WebTask ε α} (h : t.Says (Exchanged Q s f)) (g : α → Except ε β) :
    (t >>= fun a => WebTask.ofExcept (g a)).Says (Exchanged Q s fun x => f x >>= g) := by
  refine Exchanged.treat (g := fun x => x >>= g) h fun deadline n => ?_
  rw [WebTask.on_bind]
  generalize t.on deadline n = ended
  obtain ⟨a | e | _, n'⟩ := ended
  · change (WebTask.ofExcept (g a)).on deadline n' = (.ofExcept (g a), n')
    cases g a <;> rfl
  · rfl
  · rfl

/-- An exchange with another error says the same. -/
lemma Exchanged.mapError {t : WebTask ε α} (h : t.Says (Exchanged Q s f)) (g : ε → ε') :
    (t.mapError g).Says (Exchanged Q s fun x => (f x).mapError g) := by
  refine Exchanged.treat (g := Except.mapError g) h fun deadline n => ?_
  rw [WebTask.on_mapError]
  generalize t.on deadline n = ended
  obtain ⟨a | e | _, n'⟩ := ended <;> rfl

end Treated

variable (b : Browser)

/-- A request for something below the address of a browser. -/
def Below (method : HttpMethod) (path : String) (body : Option Json) : Request → Prop :=
  Sent method (b.address ++ "/" ++ path) body

/-- A query is an exchange below the browser's address. -/
lemma says_query (s : Json.Shape) (method : HttpMethod) (path : String) (body : Option Json) :
    (b.query s method path body).Says (Exchanged (b.Below method path body) s id) :=
  says_exchange s method _ body

/-- An order is an exchange whose value does not matter. -/
lemma says_command (path : String) (body : Json) :
    (b.command path body).Says
      (Exchanged (b.Below .post path (some body)) .any (Except.map fun _ => ())) :=
  Exchanged.bind (b.says_query .any .post path (some body)) fun _ => .ok ()

end Browser

end SeedVault
