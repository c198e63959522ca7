import SeedVault.Proofs.Wallet.Order

/-!
# Single calls of a wallet's run

A call asks the automation for one step's work (`WalletCall.ask`), and `Told` has one constructor
for each way it can go: what the call gives and which run it leaves. Every call goes one of these
ways (`told`), so a property of calls is shown way by way. A request is the calls it is made of, up
to the first that fails (`makeUp_serve`).
-/

namespace SeedVault

/-- The request for a single step. -/
def WalletCall.request : WalletCall → WalletRequest
  | install version => .install version
  | unlock password => .unlock password
  | importAccount m => .importAccount m
  | connect app => .connect app

/-- The calls that a request is made of. -/
def WalletRequest.calls : WalletRequest → List WalletCall
  | install version => [.install version]
  | unlock password => [.unlock password]
  | importAccount m => [.importAccount m]
  | connect app => [.connect app]
  | toConnected inputs =>
    [.install inputs.extensionVersion, .unlock inputs.password, .importAccount inputs.mnemonic,
      .connect inputs.appUrl]

/-- Has an automation do what a call is for. -/
def WalletCall.ask {δ : Type} [WalletAutomation δ] (limit : Nat) (a : δ) :
    WalletCall → WalletEvent × δ
  | install version =>
    (WalletAutomation.install version limit a).map (.install version) id
  | unlock password =>
    (WalletAutomation.unlock password limit a).map (.unlock password) id
  | importAccount m =>
    (WalletAutomation.importAccount m limit a).map (.importAccount m) id
  | connect app =>
    (WalletAutomation.connect app limit a).map (.connect app) id

/-- Is there nothing before a call that would keep the automation from being asked? For an import
the address has to be known that is expected. -/
def WalletCall.Prepared (d : AccountDeriver) : WalletCall → Prop
  | importAccount m => ∃ keys, d.derive m = .ok keys
  | _ => True

/-- How something ended, whatever value it gave. -/
def Outcome.ending {ε α : Type} : Outcome ε α → Outcome ε Unit
  | done _ => .done ()
  | failed e => .failed e
  | expired => .expired

/-- An ending names the error if there is one. -/
lemma Outcome.ending_eq_failed {ε α : Type} {outcome : Outcome ε α} {e} :
    outcome.ending = .failed e ↔ outcome = .failed e := by
  cases outcome <;> simp [ending]

namespace WalletEvent

/-- How the automation's work ended. -/
def ending : WalletEvent → Outcome Report Unit
  | install _ outcome => outcome.ending
  | unlock _ outcome => outcome.ending
  | importAccount _ outcome => outcome.ending
  | connect _ outcome => outcome.ending

/-- The automation reported an address. -/
inductive Reported : WalletEvent → String → Prop where
  | importAccount {m address} : Reported (.importAccount m (.done address)) address
  | connect {app address} : Reported (.connect app (.done address)) address

/-- An installation reports no address. -/
@[simp] lemma reported_install {version outcome address} :
    ¬ (install version outcome).Reported address := nofun

/-- An unlocking reports no address. -/
@[simp] lemma reported_unlock {password outcome address} :
    ¬ (unlock password outcome).Reported address := nofun

/-- An import reports the address that it ends with. -/
@[simp] lemma reported_importAccount {m outcome address} :
    (importAccount m outcome).Reported address ↔ outcome = .done address := by
  constructor
  · rintro ⟨⟩
    rfl
  · rintro rfl
    exact .importAccount

/-- A connection reports the address that it ends with. -/
@[simp] lemma reported_connect {app outcome address} :
    (connect app outcome).Reported address ↔ outcome = .done address := by
  constructor
  · rintro ⟨⟩
    rfl
  · rintro rfl
    exact .connect

/-- The work has been done if an address was reported. -/
lemma Reported.done {event : WalletEvent} {address} (h : event.Reported address) :
    event.ending = .done () := by
  cases h <;> rfl

end WalletEvent

namespace WalletRun

variable {δ : Type}

/-- A step whose value is turned into an answer. -/
lemma given_apply {α : Type} (act : RunStep δ α) (give : α → Option String) (r : WalletRun δ) :
    RunStep.on (act >>= fun a => pure (give a)) r = ((act.on r).1.map give, (act.on r).2) := by
  rw [bind_apply]
  cases act.on r with
  | mk x r' => cases x <;> rfl

variable [WalletAutomation δ]

/-- The request for all steps together leaves the run that they leave. -/
lemma serve_toConnected_apply (inputs : WalletInputs) (r : WalletRun δ) :
    (serve (.toConnected inputs)).on r =
      (((toConnected inputs).on r).1.map some, ((toConnected inputs).on r).2) :=
  given_apply (toConnected inputs) some r

/-- What the automation is asked for a call, with its answer, what the call gives, and which run it
leaves. -/
inductive Told (r : WalletRun δ) :
    WalletCall → List WalletEvent → WalletAnswer → WalletRun δ → Prop where
  | refused {c} :
    ¬ r.Ready c.step →
    Told r c [] (.error (r.errorAt c.step .invalidTransition)) (r.broken r.automation)
  | underived {m e} :
    r.Ready .importAccount →
    r.deriver.derive m = .error e →
    Told r (.importAccount m) [] (.error (r.errorAt .importAccount .derivation (.ofDerive e)))
      (r.broken r.automation)
  | failed {c event a cause} :
    r.Ready c.step →
    c.Prepared r.deriver →
    c.ask r.limit r.automation = (event, a) →
    event.ending = .failed cause →
    Told r c [event] (.error (r.errorAt c.step .driver cause)) (r.broken a)
  | expired {c event a} :
    r.Ready c.step →
    c.Prepared r.deriver →
    c.ask r.limit r.automation = (event, a) →
    event.ending = .expired →
    Told r c [event] (.error (r.errorAt c.step (.timeout r.limit))) (r.broken a)
  | rejected {password a} :
    r.Ready .unlock →
    (WalletCall.unlock password).ask r.limit r.automation = (.unlock password (.done false), a) →
    Told r (.unlock password) [.unlock password (.done false)]
      (.error (r.errorAt .unlock .rejectedPassword)) (r.broken a)
  | misimported {m keys address a} :
    r.Ready .importAccount →
    r.deriver.derive m = .ok keys →
    (WalletCall.importAccount m).ask r.limit r.automation =
      (.importAccount m (.done address), a) →
    address ≠ keys.address →
    Told r (.importAccount m) [.importAccount m (.done address)]
      (.error (r.errorAt .importAccount (.addressMismatch keys.address address))) (r.broken a)
  | misconnected {app address a} :
    r.Ready .connect →
    (WalletCall.connect app).ask r.limit r.automation = (.connect app (.done address), a) →
    address ≠ r.address.getD "" →
    Told r (.connect app) [.connect app (.done address)]
      (.error (r.errorAt .connect (.addressMismatch (r.address.getD "") address))) (r.broken a)
  | installed {version a} :
    r.Ready .install →
    (WalletCall.install version).ask r.limit r.automation = (.install version (.done ()), a) →
    Told r (.install version) [.install version (.done ())] (.ok none) (r.advanced .install a)
  | unlocked {password a} :
    r.Ready .unlock →
    (WalletCall.unlock password).ask r.limit r.automation = (.unlock password (.done true), a) →
    Told r (.unlock password) [.unlock password (.done true)] (.ok none) (r.advanced .unlock a)
  | imported {m keys a} :
    r.Ready .importAccount →
    r.deriver.derive m = .ok keys →
    (WalletCall.importAccount m).ask r.limit r.automation =
      (.importAccount m (.done keys.address), a) →
    Told r (.importAccount m) [.importAccount m (.done keys.address)] (.ok (some keys.address))
      { r.advanced .importAccount a with address := some keys.address }
  | connected {app a} :
    r.Ready .connect →
    (WalletCall.connect app).ask r.limit r.automation =
      (.connect app (.done (r.address.getD "")), a) →
    Told r (.connect app) [.connect app (.done (r.address.getD ""))]
      (.ok (some (r.address.getD ""))) (r.advanced .connect a)

/-- An installation goes one of the ways of `Told`. -/
lemma told_install (r : WalletRun δ) (version : String) :
    ∃ es, Told r (.install version) es ((serve (.install version)).on r).1
      ((serve (.install version)).on r).2 := by
  rw [serve, bind_apply]
  by_cases ready : r.Ready .install
  · rw [install_ready ready]
    cases asked : WalletAutomation.install version r.limit r.automation with
    | mk outcome a =>
      have ask : (WalletCall.install version).ask r.limit r.automation =
          (.install version outcome, a) := by
        rw [WalletCall.ask, asked]
        rfl
      cases outcome with
      | done _ => exact ⟨_, .installed ready ask⟩
      | failed cause => exact ⟨_, .failed ready trivial ask rfl⟩
      | expired => exact ⟨_, .expired ready trivial ask rfl⟩
  · rw [show (install version).on r = _ from WalletRun.refused _ ready]
    exact ⟨_, .refused ready⟩

/-- An unlocking goes one of the ways of `Told`. -/
lemma told_unlock (r : WalletRun δ) (password : String) :
    ∃ es, Told r (.unlock password) es ((serve (.unlock password)).on r).1
      ((serve (.unlock password)).on r).2 := by
  rw [serve, bind_apply]
  by_cases ready : r.Ready .unlock
  · rw [unlock_ready ready]
    cases asked : WalletAutomation.unlock password r.limit r.automation with
    | mk outcome a =>
      have ask : (WalletCall.unlock password).ask r.limit r.automation =
          (.unlock password outcome, a) := by
        rw [WalletCall.ask, asked]
        rfl
      cases outcome with
      | done unlocked =>
        cases unlocked with
        | true => exact ⟨_, .unlocked ready ask⟩
        | false => exact ⟨_, .rejected ready ask⟩
      | failed cause => exact ⟨_, .failed ready trivial ask rfl⟩
      | expired => exact ⟨_, .expired ready trivial ask rfl⟩
  · rw [show (unlock password).on r = _ from WalletRun.refused _ ready]
    exact ⟨_, .refused ready⟩

/-- An import goes one of the ways of `Told`. -/
lemma told_importAccount (r : WalletRun δ) (m : Mnemonic) :
    ∃ es, Told r (.importAccount m) es ((serve (.importAccount m)).on r).1
      ((serve (.importAccount m)).on r).2 := by
  rw [serve, bind_apply]
  by_cases ready : r.Ready .importAccount
  · cases derived : r.deriver.derive m with
    | error e =>
      rw [importAccount_underived ready m derived]
      exact ⟨_, .underived ready derived⟩
    | ok keys =>
      rw [importAccount_ready ready m derived]
      cases asked : WalletAutomation.importAccount m r.limit r.automation with
      | mk outcome a =>
        have ask : (WalletCall.importAccount m).ask r.limit r.automation =
            (.importAccount m outcome, a) := by
          rw [WalletCall.ask, asked]
          rfl
        cases outcome with
        | done address =>
          by_cases same : address = keys.address
          · subst same
            simp only [if_pos]
            exact ⟨_, .imported ready derived ask⟩
          · simp only [if_neg same]
            exact ⟨_, .misimported ready derived ask same⟩
        | failed cause => exact ⟨_, .failed ready ⟨keys, derived⟩ ask rfl⟩
        | expired => exact ⟨_, .expired ready ⟨keys, derived⟩ ask rfl⟩
  · rw [show (importAccount m).on r = _ from WalletRun.refused _ ready]
    exact ⟨_, .refused ready⟩

/-- A connection goes one of the ways of `Told`. -/
lemma told_connect (r : WalletRun δ) (app : Url) :
    ∃ es, Told r (.connect app) es ((serve (.connect app)).on r).1
      ((serve (.connect app)).on r).2 := by
  rw [serve, bind_apply]
  by_cases ready : r.Ready .connect
  · rw [connect_ready ready]
    cases asked : WalletAutomation.connect app r.limit r.automation with
    | mk outcome a =>
      have ask : (WalletCall.connect app).ask r.limit r.automation = (.connect app outcome, a) := by
        rw [WalletCall.ask, asked]
        rfl
      cases outcome with
      | done address =>
        by_cases same : address = r.address.getD ""
        · subst same
          simp only [if_pos]
          exact ⟨_, .connected ready ask⟩
        · simp only [if_neg same]
          exact ⟨_, .misconnected ready ask same⟩
      | failed cause => exact ⟨_, .failed ready trivial ask rfl⟩
      | expired => exact ⟨_, .expired ready trivial ask rfl⟩
  · rw [show (connect app).on r = _ from WalletRun.refused _ ready]
    exact ⟨_, .refused ready⟩

/-- Every call goes one of these ways. -/
lemma told (r : WalletRun δ) (c : WalletCall) :
    ∃ es, Told r c es ((serve c.request).on r).1 ((serve c.request).on r).2 := by
  cases c with
  | install version => exact told_install r version
  | unlock password => exact told_unlock r password
  | importAccount m => exact told_importAccount r m
  | connect app => exact told_connect r app

/-- A call that succeeds takes its step. -/
lemma Told.of_ok {r r' : WalletRun δ} {c es x} (h : Told r c es (.ok x) r') :
    r.Ready c.step ∧ r'.state = c.step.target := by
  cases h with
  | installed ready _ | unlocked ready _ | imported ready _ _ | connected ready _ =>
    exact ⟨ready, rfl⟩

/-- A call that fails names its step and the state, which it leaves alone. -/
lemma Told.of_error {r r' : WalletRun δ} {c es e} (h : Told r c es (.error e) r') :
    e.step = c.step ∧ e.lastState = r.state ∧ r'.state = r.state ∧ r'.failed = true := by
  cases h with
  | refused _ | underived _ _ | failed _ _ _ _ | expired _ _ _ _ | rejected _ _
  | misimported _ _ _ _ | misconnected _ _ _ => exact ⟨rfl, rfl, rfl, rfl⟩

/-- For a call the automation is asked for its work, if it is asked for anything. -/
lemma Told.asked {r r' : WalletRun δ} {c es x} (h : Told r c es x r') :
    (es = [] ∧ r'.automation = r.automation) ∨
      ∃ event, es = [event] ∧ c.ask r.limit r.automation = (event, r'.automation) := by
  cases h with
  | refused _ | underived _ _ => exact .inl ⟨rfl, rfl⟩
  | failed _ _ ask _ | expired _ _ ask _ | rejected _ ask | misimported _ _ ask _
  | misconnected _ ask _ | installed _ ask | unlocked _ ask | imported _ _ ask
  | connected _ ask => exact .inr ⟨_, rfl, ask⟩

/-- For a call in turn that nothing is in the way of, the automation is asked. -/
lemma Told.asks {r r' : WalletRun δ} {c es x} (h : Told r c es x r') (ready : r.Ready c.step)
    (prepared : c.Prepared r.deriver) :
    ∃ event, es = [event] ∧ c.ask r.limit r.automation = (event, r'.automation) := by
  cases h with
  | refused turned => exact absurd ready turned
  | underived _ failing =>
    obtain ⟨keys, derived⟩ := prepared
    rw [derived] at failing
    cases failing
  | failed _ _ ask _ | expired _ _ ask _ | rejected _ ask | misimported _ _ ask _
  | misconnected _ ask _ | installed _ ask | unlocked _ ask | imported _ _ ask
  | connected _ ask => exact ⟨_, rfl, ask⟩

/-- Makes calls in their order until one fails: the answers to those that were made, and the run
behind them. -/
def callAll (cs : List WalletCall) (r : WalletRun δ) : List WalletAnswer × WalletRun δ :=
  match cs with
  | [] => ([], r)
  | c :: cs =>
    match (serve c.request).on r with
    | (.ok x, r') => (.ok x :: (callAll cs r').1, (callAll cs r').2)
    | (.error e, r') => ([.error e], r')

/-- Behind a call that succeeds the others are made. -/
lemma callAll_of_ok {r r' : WalletRun δ} {c x} (cs : List WalletCall)
    (h : (serve c.request).on r = (.ok x, r')) :
    callAll (c :: cs) r = (.ok x :: (callAll cs r').1, (callAll cs r').2) := by
  rw [callAll, h]

/-- Behind a call that fails no other is made. -/
lemma callAll_of_error {r r' : WalletRun δ} {c e} (cs : List WalletCall)
    (h : (serve c.request).on r = (.error e, r')) :
    callAll (c :: cs) r = ([.error e], r') := by
  rw [callAll, h]

/-- Calls make up something to do in a run: they leave the same run, and the last one made gives the
answer. -/
def MakeUp {α : Type} (cs : List WalletCall) (act : RunStep δ α) (give : α → Option String) :
    Prop :=
  ∀ r, (callAll cs r).1.getLast? = some ((act.on r).1.map give) ∧ (callAll cs r).2 = (act.on r).2

/-- A step is made up of its call. -/
lemma MakeUp.single {α : Type} {c : WalletCall} {act : RunStep δ α} {give}
    (h : serve c.request = act >>= fun a => pure (give a)) : MakeUp [c] act give := by
  intro r
  have made := given_apply act give r
  rw [← h] at made
  cases answer : (act.on r).1 with
  | ok a =>
    rw [answer] at made
    rw [callAll_of_ok [] made]
    exact ⟨rfl, rfl⟩
  | error e =>
    rw [answer] at made
    rw [callAll_of_error [] made]
    exact ⟨rfl, rfl⟩

/-- A call and others behind it make up a step and what is done behind it. -/
lemma MakeUp.cons {α β : Type} {c : WalletCall} {cs} {act : RunStep δ α} {next : α → RunStep δ β}
    {give₁ : α → Option String} {give} (first : serve c.request = act >>= fun a => pure (give₁ a))
    (others : ∀ a, MakeUp cs (next a) give) : MakeUp (c :: cs) (act >>= next) give := by
  intro r
  have made := given_apply act give₁ r
  rw [← first] at made
  rw [bind_apply]
  cases done : act.on r with
  | mk x r' =>
    rw [done] at made
    cases x with
    | ok a =>
      obtain ⟨last, behind⟩ := others a r'
      rw [callAll_of_ok cs made]
      refine ⟨?_, behind⟩
      rw [List.getLast?_cons, last, Option.getD_some]
    | error e =>
      rw [callAll_of_error cs made]
      exact ⟨rfl, rfl⟩

/-- Turning the value into an answer asks for no call. -/
lemma MakeUp.given {α : Type} {cs} {act : RunStep δ α} {give} (h : MakeUp cs act give) :
    MakeUp cs (act >>= fun a => pure (give a)) id := by
  intro r
  obtain ⟨last, behind⟩ := h r
  rw [given_apply]
  refine ⟨?_, behind⟩
  rw [last]
  cases (act.on r).1 <;> rfl

/-- A request is made up of its calls. -/
lemma makeUp_serve (q : WalletRequest) : MakeUp q.calls (serve q : RunStep δ _) id := by
  cases q with
  | install version => exact (MakeUp.single (c := .install version) rfl).given
  | unlock password => exact (MakeUp.single (c := .unlock password) rfl).given
  | importAccount m => exact (MakeUp.single (c := .importAccount m) rfl).given
  | connect app => exact (MakeUp.single (c := .connect app) rfl).given
  | toConnected inputs =>
    refine MakeUp.given ?_
    refine .cons (c := .install inputs.extensionVersion) rfl fun _ => ?_
    refine .cons (c := .unlock inputs.password) rfl fun _ => ?_
    refine .cons (c := .importAccount inputs.mnemonic) rfl fun _ => ?_
    exact .single (c := .connect inputs.appUrl) rfl

/-- A request that fails does so by its first call that fails. -/
lemma exists_first_error {cs : List WalletCall} {r : WalletRun δ} {e}
    (last : (callAll cs r).1.getLast? = some (.error e)) :
    ∃ done c rest, cs = done ++ c :: rest ∧ (∀ x ∈ (callAll done r).1, x.isOk) ∧
      (serve c.request).on (callAll done r).2 = (.error e, (callAll cs r).2) := by
  induction cs generalizing r with
  | nil => cases last
  | cons c cs ih =>
    cases made : (serve c.request).on r with
    | mk x r' =>
      cases x with
      | error e' =>
        rw [callAll_of_error cs made] at last ⊢
        cases last
        refine ⟨[], c, cs, rfl, ?_, made⟩
        intro x found
        cases found
      | ok x =>
        rw [callAll_of_ok cs made] at last ⊢
        rw [List.getLast?_cons] at last
        -- an answer that is an error is not the one to the call that succeeded
        have last' : (callAll cs r').1.getLast? = some (.error e) := by
          cases others : (callAll cs r').1.getLast? with
          | none =>
            rw [others] at last
            cases last
          | some y =>
            rw [others] at last
            cases last
            rfl
        obtain ⟨done, c', rest, rfl, succeed, fails⟩ := ih last'
        refine ⟨c :: done, c', rest, rfl, ?_, ?_⟩
        · rw [callAll_of_ok done made]
          intro y found
          cases found with
          | head => rfl
          | tail _ found => exact succeed y found
        · rw [callAll_of_ok done made]
          exact fails

section Kept

variable {I : WalletRun δ → Prop} {A : WalletAnswer → Prop}

/-- What every call keeps, and what is true of every answer, are so for calls in a row. -/
lemma kept_callAll {cs : List WalletCall}
    (step : ∀ c ∈ cs, ∀ r, I r → I ((serve c.request).on r).2 ∧ A ((serve c.request).on r).1)
    {r : WalletRun δ} (h : I r) :
    I (callAll cs r).2 ∧ ∀ x ∈ (callAll cs r).1, A x := by
  induction cs generalizing r with
  | nil => exact ⟨h, fun _ mem => absurd mem List.not_mem_nil⟩
  | cons c cs ih =>
    obtain ⟨first, others⟩ := List.forall_mem_cons.1 step
    obtain ⟨kept, said⟩ := first r h
    cases made : (serve c.request).on r with
    | mk x r' =>
      rw [made] at kept said
      cases x with
      | ok x =>
        obtain ⟨kept', said'⟩ := ih others kept
        rw [callAll_of_ok cs made]
        exact ⟨kept', List.forall_mem_cons.2 ⟨said, said'⟩⟩
      | error e =>
        rw [callAll_of_error cs made]
        exact ⟨kept, List.forall_mem_singleton.2 said⟩

/-- What every call keeps is kept by a request, and all that it is answered. -/
lemma kept_serve
    (step : ∀ (c : WalletCall) r, I r → I ((serve c.request).on r).2 ∧ A ((serve c.request).on r).1)
    (q : WalletRequest) {r : WalletRun δ} (h : I r) :
    I ((serve q).on r).2 ∧ A ((serve q).on r).1 := by
  obtain ⟨last, behind⟩ := makeUp_serve q r
  obtain ⟨kept, said⟩ := kept_callAll (fun c (_ : c ∈ q.calls) => step c) h
  refine ⟨behind ▸ kept, ?_⟩
  have given := said _ (List.mem_of_getLast? last)
  cases answer : ((serve q).on r).1 with
  | ok x | error e =>
    rw [answer] at given
    exact given

/-- What every call keeps is kept by all requests, and by all that they are answered. -/
lemma kept_serveAll
    (step : ∀ (c : WalletCall) r, I r → I ((serve c.request).on r).2 ∧ A ((serve c.request).on r).1)
    (qs : List WalletRequest) {r : WalletRun δ} (h : I r) :
    I (serveAll qs r).2 ∧ ∀ x ∈ (serveAll qs r).1, A x.2 := by
  induction qs generalizing r with
  | nil => exact ⟨h, fun _ mem => absurd mem List.not_mem_nil⟩
  | cons q qs ih =>
    obtain ⟨kept, said⟩ := kept_serve step q h
    obtain ⟨kept', others⟩ := ih kept
    rw [serveAll]
    exact ⟨kept', List.forall_mem_cons.2 ⟨said, others⟩⟩

end Kept

end WalletRun

end SeedVault
