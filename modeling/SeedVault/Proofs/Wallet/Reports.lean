import SeedVault.Proofs.Wallet.Agreement
import SeedVault.Proofs.Wallet.Calls

/-!
# What failing calls report

A call of a recorded run that fails names its step and the state the run was in before, which is the
state it is in afterwards, and the fault tells what happened: what the automation was asked and
answered, or why it was not asked at all (`Truthful`). The state of a run is the number of calls
that succeeded (`reports_truthfully`).
-/

namespace SeedVault

/-- How many steps lead to a state. -/
def WalletState.level (s : WalletState) : Nat := s.behind.length

/-- A step leads up one level. -/
lemma WalletStep.level_target (s : WalletStep) : s.target.level = s.source.level + 1 := by
  cases s <;> rfl

/-- The address that the extension has to report in a call: for an import the one derived for the
account, for a connection the one that it reported at the import of an account. -/
inductive WalletCall.Expects (d : AccountDeriver) (es : List WalletEvent) :
    WalletCall → String → Prop where
  | importAccount {m keys} :
    d.derive m = .ok keys →
    Expects d es (.importAccount m) keys.address
  | connect {m keys app} :
    d.derive m = .ok keys →
    .importAccount m (.done keys.address) ∈ es →
    Expects d es (.connect app) keys.address

/-- For an import, the address that is derived is the one that the extension has to report. -/
lemma WalletCall.expects_importAccount_iff {d : AccountDeriver} {es m keys b}
    (derived : d.derive m = .ok keys) : Expects d es (.importAccount m) b ↔ b = keys.address := by
  constructor
  · intro expects
    cases expects with
    | importAccount derived' =>
      rw [derived] at derived'
      cases derived'
      rfl
  · rintro rfl
    exact .importAccount derived

/-- Behind the import of an account, its address is the one that the extension has to report. -/
lemma Progress.expects_iff {d : AccountDeriver} {a es} (h : Progress d .imported (some a) es)
    {app b} : WalletCall.Expects d es (.connect app) b ↔ b = a := by
  cases h with
  | @imported _ es m keys earlier derived =>
    constructor
    · intro expects
      cases expects with
      | connect _ reported =>
        obtain reported | reported := List.mem_append.1 reported
        -- the events before the import are not about one
        · have step : WalletStep.importAccount ∈ WalletEvent.steps es :=
            List.mem_map.2 ⟨_, reported, rfl⟩
          rw [earlier.steps] at step
          simp [WalletState.behind] at step
        · obtain ⟨_, same⟩ := WalletEvent.importAccount.inj (List.mem_singleton.1 reported)
          exact Outcome.done.inj same
    · rintro rfl
      exact .connect derived (List.mem_append_right _ (List.mem_singleton.2 rfl))

namespace WalletRun

/-- For a connection in turn, it is the one that the run has kept of the import. -/
lemma InOrder.expects_connect_iff {δ : Type} {d : AccountDeriver}
    {r : WalletRun (Recorded δ)} (inOrder : InOrder d r) (ready : r.Ready .connect) {app b} :
    (WalletCall.connect app).Expects d r.automation.events b ↔ b = r.address.getD "" := by
  have progress := inOrder.ready ready
  obtain ⟨a, held⟩ := progress.address
  rw [held] at progress ⊢
  exact progress.expects_iff

section Levels

variable {δ : Type} [WalletAutomation δ]

/-- The answers to all calls that requests are made of, as far as they are made. -/
def answers (qs : List WalletRequest) (r : WalletRun δ) : List WalletAnswer :=
  match qs with
  | [] => []
  | q :: qs => (callAll q.calls r).1 ++ answers qs ((serve q).on r).2

/-- A call that succeeds takes the run one level up, and one that fails leaves it where it is. -/
lemma Told.level {r r' : WalletRun δ} {c es x} (h : Told r c es x r') :
    r'.state.level = r.state.level + x.isOk.toNat := by
  cases x with
  | ok x =>
    obtain ⟨⟨_, before⟩, behind⟩ := h.of_ok
    rw [behind, before, c.step.level_target]
    rfl
  | error e =>
    obtain ⟨_, _, same, _⟩ := h.of_error
    rw [same]
    rfl

/-- A run has failed behind a call if the call failed or the run had failed before. -/
lemma Told.failed_iff {r r' : WalletRun δ} {c es x} (h : Told r c es x r') :
    r'.failed = true ↔ r.failed = true ∨ x.isOk = false := by
  cases x with
  | ok x =>
    have notFailed := h.of_ok.1.1
    have same : r'.failed = r.failed := by
      cases h <;> rfl
    rw [same, notFailed]
    simp [Except.isOk, Except.toBool]
  | error e => exact iff_of_true h.of_error.2.2.2 (.inr rfl)

/-- Calls take a run up by the number of those that succeed. -/
lemma level_callAll (cs : List WalletCall) (r : WalletRun δ) :
    (callAll cs r).2.state.level = r.state.level + (callAll cs r).1.countP (·.isOk) := by
  induction cs generalizing r with
  | nil => rfl
  | cons c cs ih =>
    obtain ⟨_, way⟩ := told r c
    have up := way.level
    cases made : (serve c.request).on r with
    | mk x r' =>
      rw [made] at up
      cases x with
      | ok x =>
        rw [callAll_of_ok cs made, ih, up, List.countP_cons_of_pos rfl]
        simp only [Except.isOk, Except.toBool, Bool.toNat_true]
        omega
      | error e =>
        rw [callAll_of_error cs made]
        exact up

/-- A run has failed behind calls if one of them failed or the run had failed before. -/
lemma failed_callAll (cs : List WalletCall) (r : WalletRun δ) :
    (callAll cs r).2.failed = true ↔
      r.failed = true ∨ ∃ x ∈ (callAll cs r).1, x.isOk = false := by
  induction cs generalizing r with
  | nil => simp [callAll]
  | cons c cs ih =>
    obtain ⟨_, way⟩ := told r c
    have failing := way.failed_iff
    cases made : (serve c.request).on r with
    | mk x r' =>
      rw [made] at failing
      cases x with
      | ok x =>
        rw [callAll_of_ok cs made, ih, failing]
        simp only [List.mem_cons, exists_eq_or_imp, or_assoc]
      | error e =>
        rw [callAll_of_error cs made, failing]
        simp only [List.mem_singleton, exists_eq_left]

/-- The level of a run has risen by the number of calls that succeeded. -/
lemma level_serveAll (qs : List WalletRequest) (r : WalletRun δ) :
    (serveAll qs r).2.state.level = r.state.level + (answers qs r).countP (·.isOk) := by
  induction qs generalizing r with
  | nil => rfl
  | cons q qs ih =>
    rw [serveAll, ih, answers, List.countP_append, ← Nat.add_assoc, ← level_callAll,
      (makeUp_serve q r).2]

/-- A run has failed if it had before or a call has. -/
lemma failed_serveAll (qs : List WalletRequest) (r : WalletRun δ) :
    (serveAll qs r).2.failed = true ↔ r.failed = true ∨ ∃ x ∈ answers qs r, x.isOk = false := by
  induction qs generalizing r with
  | nil => simp [serveAll, answers]
  | cons q qs ih =>
    rw [serveAll, ih, answers, ← (makeUp_serve q r).2, failed_callAll]
    simp only [List.mem_append, or_and_right, exists_or, or_assoc]

end Levels

variable {δ : Type} [WalletAutomation δ]

/-- What a call of a run gives. -/
def answer (c : WalletCall) (r : WalletRun δ) : WalletAnswer := ((serve c.request).on r).1

/-- The run behind a call. -/
def behind (c : WalletCall) (r : WalletRun δ) : WalletRun δ := ((serve c.request).on r).2

/-- What the automation is asked for a call, with its answer. -/
def asked (c : WalletCall) (r : WalletRun (Recorded δ)) : List WalletEvent :=
  (behind c r).automation.events.drop r.automation.events.length

/-- A call fails with a fault and its cause. -/
def FailsFor (c : WalletCall) (r : WalletRun δ) (fault : StepFault) (cause : Report) : Prop :=
  ∃ e, answer c r = .error e ∧ e.fault = fault ∧ e.cause = cause

/-- A call fails with a fault. -/
def FailsWith (c : WalletCall) (r : WalletRun δ) (fault : StepFault) : Prop :=
  ∃ cause, FailsFor c r fault cause

/-- The automation is asked what the call is for, and that is recorded. -/
lemma events_ask {c : WalletCall} {limit : Nat} {a a' : Recorded δ} {event}
    (h : c.ask limit a = (event, a')) : a'.events = a.events ++ [event] := by
  cases c with
  | install _ | unlock _ | importAccount _ | connect _ =>
    cases h
    rfl

/-- The automation has recorded what it was asked for a call. -/
lemma Told.events_eq {r r' : WalletRun (Recorded δ)} {c es x} (h : Told r c es x r') :
    r'.automation.events = r.automation.events ++ es := by
  obtain ⟨rfl, same⟩ | ⟨_, rfl, ask⟩ := h.asked
  · rw [same, List.append_nil]
  · exact events_ask ask

section Faults

variable {r r' : WalletRun δ} {c : WalletCall} {es : List WalletEvent} {x : WalletAnswer}

/-- An unlocking is rejected if the automation says so. -/
lemma Told.rejected_iff (h : Told r c es x r') :
    (∃ e, x = .error e ∧ e.fault = .rejectedPassword) ↔
      ∃ password, es = [.unlock password (.done false)] := by
  cases h with
  | rejected _ _ => exact iff_of_true ⟨_, rfl, rfl⟩ ⟨_, rfl⟩
  | failed _ _ _ ending | expired _ _ _ ending =>
    refine iff_of_false (by simp [errorAt]) ?_
    rintro ⟨password, same⟩
    cases same
    cases ending
  | _ => simp [errorAt]

/-- A step is out of time if the automation did not end in time. -/
lemma Told.timeout_iff (h : Told r c es x r') {limit : Nat} :
    (∃ e, x = .error e ∧ e.fault = .timeout limit) ↔
      limit = r.limit ∧ ∃ event, es = [event] ∧ event.ending = .expired := by
  cases h with
  | failed _ _ _ ending | expired _ _ _ ending => simp [errorAt, ending, eq_comm]
  | _ => simp [errorAt, WalletEvent.ending, Outcome.ending]

/-- A call fails by the driver if the automation's work did, and for its cause. -/
lemma Told.driver_iff (h : Told r c es x r') {cause : Report} :
    (∃ e, x = .error e ∧ e.fault = .driver ∧ e.cause = cause) ↔
      ∃ event, es = [event] ∧ event.ending = .failed cause := by
  cases h with
  | failed _ _ _ ending | expired _ _ _ ending => simp [errorAt, ending, eq_comm]
  | _ => simp [errorAt, WalletEvent.ending, Outcome.ending]

/-- A call is refused if its step is not in turn. -/
lemma Told.invalid_iff (h : Told r c es x r') :
    (∃ e, x = .error e ∧ e.fault = .invalidTransition) ↔ ¬ r.Ready c.step := by
  cases h with
  | refused turned => exact iff_of_true ⟨_, rfl, rfl⟩ turned
  | underived ready _ | failed ready _ _ _ | expired ready _ _ _ | rejected ready _
  | misimported ready _ _ _ | misconnected ready _ _ | installed ready _ | unlocked ready _
  | imported ready _ _ | connected ready _ =>
    exact iff_of_false (by simp [errorAt]) (not_not.2 ready)

/-- A call fails by the derivation if it is an import in turn whose phrase gives no keys. -/
lemma Told.derivation_iff (h : Told r c es x r') {cause : Report} :
    (∃ e, x = .error e ∧ e.fault = .derivation ∧ e.cause = cause) ↔
      r.Ready .importAccount ∧
        ∃ m e, c = .importAccount m ∧ r.deriver.derive m = .error e ∧ cause = .ofDerive e := by
  cases h with
  | underived ready failing =>
    simp [errorAt, ready, failing, eq_comm]
  | refused turned =>
    refine iff_of_false (by simp [errorAt]) ?_
    rintro ⟨ready, m, e, rfl, _⟩
    exact turned ready
  | failed _ prepared _ _ | expired _ prepared _ _ =>
    refine iff_of_false (by simp [errorAt]) ?_
    rintro ⟨_, m, e, rfl, failing, _⟩
    obtain ⟨keys, derived⟩ := prepared
    rw [derived] at failing
    cases failing
  | misimported _ derived _ _ | imported _ derived _ => simp [errorAt, derived]
  | _ => simp [errorAt]

/-- The automation is not asked if a step is out of turn or no address can be derived. -/
lemma Told.uncalled (h : Told r c es x r') {e} (failed : x = .error e)
    (fault : e.fault = .invalidTransition ∨ e.fault = .derivation) : es = [] := by
  cases h with
  | refused _ | underived _ _ => rfl
  | failed _ _ _ _ | expired _ _ _ _ | rejected _ _ | misimported _ _ _ _ | misconnected _ _ _ =>
    cases failed
    simp [errorAt] at fault
  | _ => cases failed

end Faults

/-- Another address than the expected one is told together with that one. -/
lemma Told.mismatch_iff {d : AccountDeriver} {r r' : WalletRun (Recorded δ)} {c es x}
    (inOrder : InOrder d r) (h : Told r c es x r') {expected actual : String} :
    (∃ e, x = .error e ∧ e.fault = .addressMismatch expected actual) ↔
      c.Expects d r.automation.events expected ∧ actual ≠ expected ∧
        ∃ event, es = [event] ∧ event.Reported actual := by
  -- only an import and a connection compare: one with the derived, one with the imported address
  cases h with
  | misimported _ derived _ differ =>
    rw [inOrder.deriver] at derived
    rw [WalletCall.expects_importAccount_iff derived]
    simp only [errorAt, Except.error.injEq, exists_eq_left', StepFault.addressMismatch.injEq,
      List.cons.injEq, and_true, WalletEvent.reported_importAccount, Outcome.done.injEq]
    constructor
    · rintro ⟨rfl, rfl⟩
      exact ⟨rfl, differ, rfl⟩
    · rintro ⟨rfl, _, rfl⟩
      exact ⟨rfl, rfl⟩
  | misconnected ready _ differ =>
    rw [inOrder.expects_connect_iff ready]
    simp only [errorAt, Except.error.injEq, exists_eq_left', StepFault.addressMismatch.injEq,
      List.cons.injEq, and_true, WalletEvent.reported_connect, Outcome.done.injEq]
    constructor
    · rintro ⟨rfl, rfl⟩
      exact ⟨rfl, differ, rfl⟩
    · rintro ⟨rfl, _, rfl⟩
      exact ⟨rfl, rfl⟩
  | imported _ derived _ =>
    rw [inOrder.deriver] at derived
    rw [WalletCall.expects_importAccount_iff derived]
    refine iff_of_false (by simp) ?_
    rintro ⟨rfl, differ, _, same, reported⟩
    cases same
    exact differ (Outcome.done.inj (WalletEvent.reported_importAccount.1 reported)).symm
  | connected ready _ =>
    rw [inOrder.expects_connect_iff ready]
    refine iff_of_false (by simp) ?_
    rintro ⟨rfl, differ, _, same, reported⟩
    cases same
    exact differ (Outcome.done.inj (WalletEvent.reported_connect.1 reported)).symm
  | failed _ _ _ ending | expired _ _ _ ending =>
    refine iff_of_false (by simp [errorAt]) ?_
    rintro ⟨_, _, _, same, reported⟩
    cases same
    rw [reported.done] at ending
    cases ending
  | refused _ | underived _ _ | rejected _ _ | installed _ _ | unlocked _ _ => simp [errorAt]

/-- What a call tells is what happened, in a run whose calls were answered with `earlier` before. -/
structure Truthful (earlier : List WalletAnswer) (c : WalletCall) (r : WalletRun (Recorded δ)) :
    Prop where
  /-- A call that succeeds takes its step. -/
  success {x} : answer c r = .ok x → r.state = c.step.source ∧ (behind c r).state = c.step.target
  /-- A call that fails names its step and the state, which stays. -/
  failure {e} : answer c r = .error e →
    e.step = c.step ∧ e.lastState = r.state ∧ (behind c r).state = r.state
  /-- The automation records what it is asked and nothing else. -/
  events : (behind c r).automation.events = r.automation.events ++ asked c r
  /-- In turn, and with the expected address if one is needed, the automation is asked for the work
  of the step, just once, and it is left as that work leaves it. -/
  asks : r.Ready c.step → c.Prepared r.deriver →
    asked c r = [(c.ask r.limit r.automation).1] ∧
      (behind c r).automation = (c.ask r.limit r.automation).2
  /-- A password was rejected if the automation said so. -/
  rejected : FailsWith c r .rejectedPassword ↔
    ∃ password, asked c r = [.unlock password (.done false)]
  /-- The addresses differ if the one that was reported is not the one that had to be. -/
  mismatch {expected actual} : FailsWith c r (.addressMismatch expected actual) ↔
    c.Expects r.deriver r.automation.events expected ∧ actual ≠ expected ∧
      ∃ event, asked c r = [event] ∧ event.Reported actual
  /-- The time was over if the automation did not end within the limit. -/
  timeout {limit} : FailsWith c r (.timeout limit) ↔
    limit = r.limit ∧ ∃ event, asked c r = [event] ∧ event.ending = .expired
  /-- No address was derived if an import was in turn and its phrase gives none. -/
  derivation {cause} : FailsFor c r .derivation cause ↔
    r.Ready .importAccount ∧
      ∃ m e, c = .importAccount m ∧ r.deriver.derive m = .error e ∧ cause = .ofDerive e
  /-- A step was refused if a call failed before or the state was not the one it starts in. -/
  invalid : FailsWith c r .invalidTransition ↔
    (∃ x ∈ earlier, x.isOk = false) ∨ r.state ≠ c.step.source
  /-- The automation was not asked if there was no address or the step was refused. -/
  uncalled : FailsWith c r .derivation ∨ FailsWith c r .invalidTransition → asked c r = []
  /-- Any other failure is the automation's, with its cause. -/
  driver {cause} : FailsFor c r .driver cause ↔
    ∃ event, asked c r = [event] ∧ event.ending = .failed cause

/-- Every call of a run in order is truthful. -/
lemma InOrder.truthful {d : AccountDeriver} {r : WalletRun (Recorded δ)} (inOrder : InOrder d r)
    {earlier : List WalletAnswer} (failed : r.failed = true ↔ ∃ x ∈ earlier, x.isOk = false)
    (c : WalletCall) : Truthful earlier c r := by
  obtain ⟨es, way⟩ := told r c
  change Told r c es (answer c r) (behind c r) at way
  have asked_eq : asked c r = es := by
    rw [asked, way.events_eq, List.drop_left]
  -- the kind of a fault does not depend on its cause
  have fails_iff {fault} : FailsWith c r fault ↔ ∃ e, answer c r = .error e ∧ e.fault = fault := by
    simp only [FailsWith, FailsFor]
    constructor
    · rintro ⟨_, e, told, fault, _⟩
      exact ⟨e, told, fault⟩
    · rintro ⟨e, told, fault⟩
      exact ⟨e.cause, e, told, fault, rfl⟩
  constructor
  case success =>
    intro x told
    rw [told] at way
    obtain ⟨⟨_, source⟩, target⟩ := way.of_ok
    exact ⟨source, target⟩
  case failure =>
    intro e told
    rw [told] at way
    obtain ⟨step, lastState, same, _⟩ := way.of_error
    exact ⟨step, lastState, same⟩
  case events => rw [asked_eq, way.events_eq]
  case asks =>
    intro ready prepared
    obtain ⟨event, rfl, ask⟩ := way.asks ready prepared
    rw [asked_eq, ask]
    exact ⟨rfl, rfl⟩
  case rejected => rw [asked_eq, fails_iff, way.rejected_iff]
  case mismatch =>
    intro expected actual
    rw [asked_eq, fails_iff, way.mismatch_iff inOrder, inOrder.deriver]
  case timeout =>
    intro limit
    rw [asked_eq, fails_iff, way.timeout_iff]
  case derivation =>
    intro cause
    exact way.derivation_iff
  case invalid =>
    rw [fails_iff, way.invalid_iff, ← failed, Ready, not_and_or, Bool.not_eq_false]
  case uncalled =>
    rw [asked_eq, fails_iff, fails_iff]
    rintro (⟨e, told, fault⟩ | ⟨e, told, fault⟩)
    · exact way.uncalled told (.inr fault)
    · exact way.uncalled told (.inl fault)
  case driver =>
    intro cause
    rw [asked_eq]
    exact way.driver_iff

/-- Whatever a run has been asked before and whatever its automation answers: a call that fails
names its step and the state that the run was in before and is in afterwards, and its fault is what
happened. A call that succeeds takes its step, so the state never goes back, and it is the number of
the calls that succeeded. All steps together fail as the first call of them that fails. -/
theorem reports_truthfully (a : δ) (d : AccountDeriver) (limit : Nat)
    (before after : List WalletRequest) :
    let begun : WalletRun (Recorded δ) := fresh { automation := a } d limit
    let r := (serveAll before begun).2
    (∀ c, Truthful (answers before begun) c r) ∧
      r.state.level = (answers before begun).countP (·.isOk) ∧
      r.state.level ≤ (serveAll after r).2.state.level ∧
      ∀ inputs e, ((toConnected inputs).on r).1 = .error e →
        ∃ done c rest, (WalletRequest.toConnected inputs).calls = done ++ c :: rest ∧
          (∀ x ∈ (callAll done r).1, x.isOk) ∧
          answer c (callAll done r).2 = .error e ∧
          behind c (callAll done r).2 = ((toConnected inputs).on r).2 ∧
          e.step = c.step ∧ e.lastState = (callAll done r).2.state := by
  intro begun r
  have inOrder : InOrder d r := (InOrder.fresh a d limit).serveAll before
  refine ⟨?_, ?_, ?_, ?_⟩
  · intro c
    refine inOrder.truthful ?_ c
    rw [failed_serveAll]
    simp [begun, fresh]
  · rw [level_serveAll]
    exact Nat.zero_add _
  · rw [level_serveAll after r]
    exact Nat.le_add_right _ _
  · intro inputs e failed
    -- all steps together are calls in a row, and the first that fails is the last of them
    have made := serve_toConnected_apply inputs r
    obtain ⟨last, same⟩ := makeUp_serve (.toConnected inputs) r
    rw [made, failed] at last
    obtain ⟨done, c, rest, cut, succeed, fails⟩ := exists_first_error last
    rw [same, made] at fails
    obtain ⟨es, way⟩ := told (callAll done r).2 c
    rw [fails] at way
    obtain ⟨step, lastState, _, _⟩ := way.of_error
    refine ⟨done, c, rest, cut, succeed, ?_, ?_, step, lastState⟩
    · rw [answer, fails]
    · rw [behind, fails]

end WalletRun

end SeedVault
