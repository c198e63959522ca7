import SeedVault.Proofs.Attempt
import SeedVault.Wallet.Request

/-!
# What one step of a wallet's run does

A step is refused (`refused`) unless the run is `Ready` for it. If it is, the step asks the
automation at most once, and `install_ready`, `unlock_ready`, `importAccount_ready` and
`connect_ready` give its result and the run behind it for each answer. Whatever goes wrong, what is
left is the run as it was, with its automation as it is then and the mark of a failure (`broken`).
-/

namespace SeedVault.WalletRun

variable {δ α β : Type}

/-- May the run take a step? -/
def Ready (r : WalletRun δ) (s : WalletStep) : Prop := r.failed = false ∧ r.state = s.source

/-- The run after a step's work. -/
def advanced (r : WalletRun δ) (s : WalletStep) (d : δ) : WalletRun δ :=
  { r with automation := d, state := s.target }

/-- The run after a failure. -/
def broken (r : WalletRun δ) (d : δ) : WalletRun δ := { r with automation := d, failed := true }

/-- The error of a step that fails. -/
def errorAt (r : WalletRun δ) (s : WalletStep) (fault : StepFault) (cause : Report := []) :
    StepError :=
  { step := s, lastState := r.state, fault, cause }

/-- A run that failed is ready for nothing. -/
lemma not_ready_of_failed {r : WalletRun δ} {s} (h : r.failed = true) : ¬ r.Ready s := by
  rintro ⟨hf, _⟩
  rw [h] at hf
  cases hf

/-- The second of two things to do happens if the first one succeeds. -/
lemma bind_apply (act : RunStep δ α) (next : α → RunStep δ β) (r : WalletRun δ) :
    RunStep.on (act >>= next) r =
      match act.on r with
      | (.ok a, r') => (next a).on r'
      | (.error e, r') => (.error e, r') := by
  unfold RunStep.on
  cases h : act r with
  | mk res r' =>
    cases res with
    | ok a => exact Attempt.bind_of_ok h
    | error e => exact Attempt.bind_of_error h

/-- Two things to do succeed if each of them does. -/
lemma bind_ok_iff {act : RunStep δ α} {next : α → RunStep δ β} {r r'' : WalletRun δ} {b} :
    RunStep.on (act >>= next) r = (.ok b, r'') ↔
      ∃ a r', act.on r = (.ok a, r') ∧ (next a).on r' = (.ok b, r'') := by
  unfold RunStep.on
  exact Attempt.bind_ok_iff

/-- Reading the run gives the run. -/
lemma get_apply (r : WalletRun δ) : (get : RunStep δ (WalletRun δ)).on r = (.ok r, r) := rfl

/-- A guard refuses unless the run is ready. -/
lemma guardStep_refused {r : WalletRun δ} {s} (h : ¬ r.Ready s) :
    (guardStep s : RunStep δ Unit).on r =
      (.error (r.errorAt s .invalidTransition), r.broken r.automation) := by
  have h' : r.failed = true ∨ r.state ≠ s.source := by
    cases hf : r.failed with
    | true => exact .inl rfl
    | false => exact .inr fun hs => h ⟨hf, hs⟩
  change (if r.failed = true ∨ r.state ≠ s.source then giveUp s .invalidTransition []
    else pure () : RunStep δ Unit).on r = _
  rw [if_pos h']
  rfl

/-- A guard lets a run pass that is ready. -/
lemma guardStep_ready {r : WalletRun δ} {s} (h : r.Ready s) :
    (guardStep s : RunStep δ Unit).on r = (.ok (), r) := by
  obtain ⟨hf, hs⟩ := h
  change (if r.failed = true ∨ r.state ≠ s.source then giveUp s .invalidTransition []
    else pure () : RunStep δ Unit).on r = _
  rw [if_neg (by simp [hf, hs])]
  rfl

/-- What a guard refuses is not begun. -/
lemma refused {r : WalletRun δ} {s} (next : Unit → RunStep δ α) (h : ¬ r.Ready s) :
    RunStep.on (guardStep s >>= next) r =
      (.error (r.errorAt s .invalidTransition), r.broken r.automation) := by
  rw [bind_apply, guardStep_refused h]

/-- What a guard lets pass begins with the same run. -/
lemma guarded {r : WalletRun δ} {s} (next : Unit → RunStep δ α) (h : r.Ready s) :
    RunStep.on (guardStep s >>= next) r = (next ()).on r := by
  rw [bind_apply, guardStep_ready h]

/-- The automation is asked once, and its answer decides. -/
lemma perform_apply (s : WalletStep) (op : Nat → δ → Outcome Report α × δ) (r : WalletRun δ) :
    (perform s op).on r =
      match op r.limit r.automation with
      | (.done a, d) => (.ok a, r.advanced s d)
      | (.failed cause, d) => (.error (r.errorAt s .driver cause), r.broken d)
      | (.expired, d) => (.error (r.errorAt s (.timeout r.limit)), r.broken d) := by
  unfold perform
  rw [bind_apply, get_apply]
  simp only
  cases h : op r.limit r.automation with
  | mk outcome d => cases outcome <;> rfl

/-- What is taken back after a step's work leaves the run as it was before. -/
lemma takeBack_advanced {r : WalletRun δ} {s} (h : r.Ready s) (d : δ) (fault : StepFault) :
    (takeBack s fault : RunStep δ α).on (r.advanced s d) =
      (.error (r.errorAt s fault), r.broken d) := by
  obtain ⟨_, hs⟩ := h
  unfold errorAt broken
  rw [hs]
  rfl

/-- A comparison of addresses after a step's work. -/
lemma compareAddress_advanced {r : WalletRun δ} {s} (h : r.Ready s) (d : δ)
    (expected actual : String) :
    (compareAddress s expected actual : RunStep δ Unit).on (r.advanced s d) =
      if actual = expected then (.ok (), r.advanced s d)
      else (.error (r.errorAt s (.addressMismatch expected actual)), r.broken d) := by
  unfold compareAddress
  split
  · rfl
  · exact takeBack_advanced h d _

variable [WalletAutomation δ]

/-- An installation in turn. -/
lemma install_ready {r : WalletRun δ} (h : r.Ready .install) (version : String) :
    (install version).on r =
      match WalletAutomation.install version r.limit r.automation with
      | (.done u, d) => (.ok u, r.advanced .install d)
      | (.failed cause, d) => (.error (r.errorAt .install .driver cause), r.broken d)
      | (.expired, d) => (.error (r.errorAt .install (.timeout r.limit)), r.broken d) := by
  unfold install
  rw [guarded _ h, perform_apply]
  cases WalletAutomation.install version r.limit r.automation with
  | mk outcome d => cases outcome <;> rfl

/-- An unlocking in turn. -/
lemma unlock_ready {r : WalletRun δ} (h : r.Ready .unlock) (password : String) :
    (unlock password).on r =
      match WalletAutomation.unlock password r.limit r.automation with
      | (.done true, d) => (.ok (), r.advanced .unlock d)
      | (.done false, d) => (.error (r.errorAt .unlock .rejectedPassword), r.broken d)
      | (.failed cause, d) => (.error (r.errorAt .unlock .driver cause), r.broken d)
      | (.expired, d) => (.error (r.errorAt .unlock (.timeout r.limit)), r.broken d) := by
  unfold unlock
  rw [guarded _ h, bind_apply, perform_apply]
  cases hop : WalletAutomation.unlock password r.limit r.automation with
  | mk outcome d =>
    cases outcome with
    | done unlocked =>
      cases unlocked with
      | true => rfl
      | false => exact takeBack_advanced h d _
    | failed cause => rfl
    | expired => rfl

/-- An import in turn, if an address can be derived. -/
lemma importAccount_ready {r : WalletRun δ} (h : r.Ready .importAccount) (m : Mnemonic)
    {keys} (hk : r.deriver.derive m = .ok keys) :
    (importAccount m).on r =
      match WalletAutomation.importAccount m r.limit r.automation with
      | (.done a, d) =>
        if a = keys.address then
          (.ok keys.address, { r.advanced .importAccount d with address := some keys.address })
        else (.error (r.errorAt .importAccount (.addressMismatch keys.address a)), r.broken d)
      | (.failed cause, d) => (.error (r.errorAt .importAccount .driver cause), r.broken d)
      | (.expired, d) => (.error (r.errorAt .importAccount (.timeout r.limit)), r.broken d) := by
  have hd : (deriveAddress m : RunStep δ String).on r = (.ok keys.address, r) := by
    unfold deriveAddress
    rw [bind_apply, get_apply]
    simp only [hk]
    rfl
  unfold importAccount
  rw [guarded _ h, bind_apply, hd]
  simp only
  rw [bind_apply, perform_apply]
  cases hop : WalletAutomation.importAccount m r.limit r.automation with
  | mk outcome d =>
    cases outcome with
    | done a =>
      simp only
      rw [bind_apply, compareAddress_advanced h]
      by_cases ha : a = keys.address
      · rw [if_pos ha, if_pos ha]
        rfl
      · rw [if_neg ha, if_neg ha]
    | failed cause => rfl
    | expired => rfl

/-- An import in turn, if no address can be derived. -/
lemma importAccount_underived {r : WalletRun δ} (h : r.Ready .importAccount) (m : Mnemonic)
    {e} (he : r.deriver.derive m = .error e) :
    (importAccount m).on r =
      (.error (r.errorAt .importAccount .derivation (.ofDerive e)), r.broken r.automation) := by
  have hd : (deriveAddress m : RunStep δ String).on r =
      (.error (r.errorAt .importAccount .derivation (.ofDerive e)), r.broken r.automation) := by
    unfold deriveAddress
    rw [bind_apply, get_apply]
    simp only [he]
    rfl
  unfold importAccount
  rw [guarded _ h, bind_apply, hd]

/-- A connection in turn. -/
lemma connect_ready {r : WalletRun δ} (h : r.Ready .connect) (app : Url) :
    (connect app).on r =
      match WalletAutomation.connect app r.limit r.automation with
      | (.done a, d) =>
        if a = r.address.getD "" then (.ok (r.address.getD ""), r.advanced .connect d)
        else (.error (r.errorAt .connect (.addressMismatch (r.address.getD "") a)), r.broken d)
      | (.failed cause, d) => (.error (r.errorAt .connect .driver cause), r.broken d)
      | (.expired, d) => (.error (r.errorAt .connect (.timeout r.limit)), r.broken d) := by
  unfold connect
  rw [guarded _ h, bind_apply, perform_apply]
  cases hop : WalletAutomation.connect app r.limit r.automation with
  | mk outcome d =>
    cases outcome with
    | done a =>
      simp only
      -- the address is read behind the call, which has left it alone
      rw [bind_apply, get_apply]
      simp only
      rw [bind_apply, show (r.advanced .connect d).address = r.address from rfl,
        compareAddress_advanced h]
      by_cases ha : a = r.address.getD ""
      · rw [if_pos ha, if_pos ha]
        rfl
      · rw [if_neg ha, if_neg ha]
    | failed cause => rfl
    | expired => rfl

/-- When an installation succeeds. -/
lemma install_ok_iff {r r' : WalletRun δ} {version u} :
    (install version).on r = (.ok u, r') ↔
      r.Ready .install ∧ ∃ d, WalletAutomation.install version r.limit r.automation = (.done u, d) ∧
        r' = r.advanced .install d := by
  by_cases h : r.Ready .install
  · rw [install_ready h]
    cases WalletAutomation.install version r.limit r.automation with
    | mk outcome d => cases outcome <;> simp [h, eq_comm]
  · have he : (install version).on r = _ := refused _ h
    rw [he]
    simp [h]

/-- When an unlocking succeeds. -/
lemma unlock_ok_iff {r r' : WalletRun δ} {password u} :
    (unlock password).on r = (.ok u, r') ↔
      r.Ready .unlock ∧
      ∃ d, WalletAutomation.unlock password r.limit r.automation = (.done true, d) ∧
        r' = r.advanced .unlock d := by
  by_cases h : r.Ready .unlock
  · rw [unlock_ready h]
    cases WalletAutomation.unlock password r.limit r.automation with
    | mk outcome d =>
      cases outcome with
      | done unlocked => cases unlocked <;> simp [h, eq_comm]
      | failed cause => simp
      | expired => simp
  · have he : (unlock password).on r = _ := refused _ h
    rw [he]
    simp [h]

/-- When an import succeeds. -/
lemma importAccount_ok_iff {r r' : WalletRun δ} {m a} :
    (importAccount m).on r = (.ok a, r') ↔
      r.Ready .importAccount ∧ ∃ keys d, r.deriver.derive m = .ok keys ∧ keys.address = a ∧
        WalletAutomation.importAccount m r.limit r.automation = (.done a, d) ∧
          r' = { r.advanced .importAccount d with address := some a } := by
  by_cases h : r.Ready .importAccount
  · cases hk : r.deriver.derive m with
    | error e =>
      rw [importAccount_underived h m hk]
      simp
    | ok keys =>
      rw [importAccount_ready h m hk]
      cases WalletAutomation.importAccount m r.limit r.automation with
      | mk outcome d =>
        cases outcome with
        | done b =>
          by_cases hb : b = keys.address
          · subst hb
            simp only [if_pos, Prod.mk.injEq, Except.ok.injEq, Outcome.done.injEq]
            constructor
            · rintro ⟨rfl, rfl⟩
              exact ⟨h, keys, d, rfl, rfl, ⟨rfl, rfl⟩, rfl⟩
            · rintro ⟨_, keys', d', rfl, rfl, ⟨_, rfl⟩, rfl⟩
              exact ⟨rfl, rfl⟩
          · simp only [if_neg hb]
            constructor
            · intro e
              cases e
            · rintro ⟨_, keys', d', e, rfl, e', rfl⟩
              cases e
              cases e'
              exact absurd rfl hb
        | failed cause => simp
        | expired => simp
  · have he : (importAccount m).on r = _ := refused _ h
    rw [he]
    simp [h]

/-- When a connection succeeds. -/
lemma connect_ok_iff {r r' : WalletRun δ} {app a} :
    (connect app).on r = (.ok a, r') ↔
      r.Ready .connect ∧ r.address.getD "" = a ∧
        ∃ d, WalletAutomation.connect app r.limit r.automation = (.done a, d) ∧
          r' = r.advanced .connect d := by
  by_cases h : r.Ready .connect
  · rw [connect_ready h]
    cases WalletAutomation.connect app r.limit r.automation with
    | mk outcome d =>
      cases outcome with
      | done b =>
        by_cases hb : b = r.address.getD ""
        · subst hb
          simp only [if_pos, Prod.mk.injEq, Except.ok.injEq, Outcome.done.injEq]
          constructor
          · rintro ⟨rfl, rfl⟩
            exact ⟨h, rfl, d, ⟨rfl, rfl⟩, rfl⟩
          · rintro ⟨_, rfl, d', ⟨_, rfl⟩, rfl⟩
            exact ⟨rfl, rfl⟩
        · simp only [if_neg hb]
          constructor
          · intro e
            cases e
          · rintro ⟨_, rfl, d', e', rfl⟩
            cases e'
            exact absurd rfl hb
      | failed cause => simp
      | expired => simp
  · have he : (connect app).on r = _ := refused _ h
    rw [he]
    simp [h]

end SeedVault.WalletRun
