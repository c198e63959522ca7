import SeedVault.Command.Run
import SeedVault.Proofs.Scenario.BrowserPage
import SeedVault.Proofs.Wallet.Sending

/-!
# What a trial sends on the network

A trial works on the machine, where it announces its steps, and beside it on a page or on the
wallet's extension, which have the network. Its scenarios send what their page sends
(`sends_seedPhraseTrials`), and the whole of it sends no request that ends a browser
(`sends_walletTrial`): that is left to what comes behind it.
-/

namespace SeedVault

open HasNetwork

/-- A machine has its network. -/
instance : HasNetwork Machine where
  network m := m.network
  withReply number reply delay m := { m with network := m.network.withReply number reply delay }
  network_withReply _ _ _ _ := rfl

/-- A machine with something that works on its network. The machine's own network is the one there
was before. -/
instance {π : Type} [HasNetwork π] : HasNetwork (Machine × π) where
  network s := network s.2
  withReply number reply delay s :=
    (withReply number reply delay s.1, withReply number reply delay s.2)
  network_withReply number reply delay s := network_withReply number reply delay s.2

/-- Something done with a state beside a machine. -/
def beside {π β : Type} (act : π → StateM Machine (β × π)) (s : Machine × π) :
    β × (Machine × π) :=
  ((act s.2 s.1).1.1, ((act s.2 s.1).2, (act s.2 s.1).1.2))

/-- Something done with a state while a machine is changed beside it. -/
def meanwhile {π β : Type} (f : Machine → Machine) (task : π → β × π) (s : Machine × π) :
    β × (Machine × π) :=
  ((task s.2).1, (f s.1, (task s.2).2))

/-- What is sent is what is sent for the state, if the machine is changed without a look at its
network. -/
lemma sends_meanwhile {π β : Type} [HasNetwork π] {P : Request → Prop} {f : Machine → Machine}
    (blind : ∀ number reply delay m,
      f (withReply number reply delay m) = withReply number reply delay (f m))
    {task : π → β × π} (h : Sends P task) : Sends P (meanwhile f task) where
  listens s := h.listens s.2
  sends s := h.sends s.2
  foresees s number reply delay before := by
    have same := h.foresees s.2 number reply delay before
    change ((task (withReply number reply delay s.2)).1,
      (f (withReply number reply delay s.1), (task (withReply number reply delay s.2)).2)) = _
    rw [same, blind]
    rfl

namespace Job

section Scenarios

variable {π : Type} [SeedPage π] (d : AccountDeriver) (phrase : String) (index total : Nat)

/-- The machine behind the announcement of a step. -/
def announced (index total : Nat) (what : String) (m : Machine) : Machine :=
  (announce index total what m).2

/-- The second scenario behind the first one. -/
def customTrial (generated : Except Report ScenarioResult) (s : Machine × π) :
    Except Report (List ScenarioResult) × (Machine × π) :=
  match generated with
  | .error e => (.error e, s)
  | .ok generated =>
    let done := meanwhile (announced (index + 1) total "Entering a custom seed phrase")
      (Scenario.custom d phrase : PageTask π ScenarioResult) s
    (done.1.map fun custom => [generated, custom], done.2)

/-- Both scenarios are the first one, and then what is done behind it. -/
lemma beside_seedPhraseTrials :
    beside (seedPhraseTrials d phrase index total : π → _) = fun s =>
      customTrial d phrase index total
        (meanwhile (announced index total "Using the autogenerated seed phrase")
          (Scenario.autogenerated d : PageTask π ScenarioResult) s).1
        (meanwhile (announced index total "Using the autogenerated seed phrase")
          (Scenario.autogenerated d : PageTask π ScenarioResult) s).2 := by
  funext s
  obtain ⟨m, page⟩ := s
  unfold beside seedPhraseTrials meanwhile
  simp only
  cases first : (Scenario.autogenerated d : PageTask π ScenarioResult) page with
  | mk generated page' =>
    cases generated with
    | error e => rfl
    | ok generated =>
      unfold customTrial meanwhile
      simp only
      cases second : (Scenario.custom d phrase : PageTask π ScenarioResult) page' with
      | mk custom page'' => cases custom <;> rfl

variable [HasNetwork π] {P : Request → Prop}

/-- Both scenarios send what the page sends. -/
lemma sends_seedPhraseTrials (page : Scenario.PageSends P π) :
    Sends P (beside (seedPhraseTrials d phrase index total : π → _)) := by
  rw [beside_seedPhraseTrials]
  have first := Scenario.sends_autogenerated d page
  refine (sends_meanwhile (fun _ _ _ _ => rfl) first).bind fun generated => ?_
  cases generated with
  | error e => exact .value _
  | ok generated =>
    have second := Scenario.sends_custom d page phrase
    exact (sends_meanwhile (fun _ _ _ _ => rfl) second).map _

end Scenarios

/-- The page of the application in a browser, on a network. -/
def page (config : Configuration) (inputs : RunInputs) (s : ExtensionSession) (n : Network) :
    BrowserPage :=
  { browser := s.browser, baseUrl := inputs.baseUrl, selectors := config.browser.app,
    limit := config.browser.stepTimeout, network := n }

/-- What the scenarios found together with the address that was connected. -/
def trialJson (address : String) (reports : List ScenarioResult) : Json :=
  .ofFields [("address", .string address), ("scenarios", .array (reports.map scenarioJson))]

/-- The scenarios on the page of the application, in the session there is. -/
def pagedTrial (config : Configuration) (inputs : RunInputs) (d : AccountDeriver) (address : String)
    (session : Option ExtensionSession) (s : Machine × WalletExtension) :
    Except Report Json × (Machine × WalletExtension) :=
  match session with
  | none => (.error [.note "browser is not running"], s)
  | some session =>
    let done := beside (seedPhraseTrials d inputs.walletPhrase 1 3)
      (s.1, page config inputs session s.2.network)
    (done.1.map (trialJson address), (done.2.1, { s.2 with network := done.2.2.network }))

/-- The scenarios are run on the page in the browser of the session, if there is one. -/
lemma beside_pageTrial (config : Configuration) (inputs : RunInputs) (d : AccountDeriver)
    (address : String) :
    beside (pageTrial config inputs d address) = fun s =>
      pagedTrial config inputs d address s.2.session s := by
  funext s
  obtain ⟨m, wallet⟩ := s
  unfold beside pageTrial pagedTrial
  simp only
  cases session : wallet.session with
  | none => rfl
  | some s => rfl

/-- The scenarios in a browser do not end it. -/
lemma sends_pageTrial (config : Configuration) (inputs : RunInputs) (d : AccountDeriver)
    (address : String) :
    Sends Request.KeepsBrowser (beside (pageTrial config inputs d address)) := by
  rw [beside_pageTrial]
  refine .reading (f := fun s : Machine × WalletExtension => s.2.session) (fun _ _ _ _ => rfl)
    fun session => ?_
  cases session with
  | none => exact .value _
  | some session =>
    have sends : Sends Request.KeepsBrowser
        (beside (seedPhraseTrials d inputs.walletPhrase 1 3 : BrowserPage → _)) :=
      sends_seedPhraseTrials d _ 1 3
        { setPhrase := BrowserPage.sends_setPhrase, storedText := BrowserPage.sends_storedText,
          reload := BrowserPage.sends_reload }
    have through := sends.through
      (fun s : Machine × WalletExtension => (s.1, page config inputs session s.2.network))
      (fun s t => (t.1, { s.2 with network := t.2.network }))
      (fun _ => rfl) (fun _ _ => rfl) (fun _ _ _ _ => rfl) fun _ _ _ _ _ => rfl
    exact through.map _

section Wallet

variable (choice : TrialChoice) (config : Configuration) (inputs : RunInputs) (d : AccountDeriver)

/-- The run of the wallet over an automation, before its first step. -/
def walletRun (wallet : WalletExtension) : WalletRun WalletExtension :=
  { automation := wallet, deriver := d, limit := inputs.transitionTimeout }

/-- All steps of the wallet on an automation, and the automation behind them. -/
def connectTrial (wallet : WalletExtension) : Except StepError String × WalletExtension :=
  (((WalletRun.toConnected inputs.primary).on (walletRun inputs d wallet)).1,
    ((WalletRun.toConnected inputs.primary).on (walletRun inputs d wallet)).2.automation)

/-- What comes behind the steps of the extension. -/
def behindConnect (connected : Except StepError String) (s : Machine × WalletExtension) :
    Except Report Json × (Machine × WalletExtension) :=
  match connected with
  | .error e => (.error e.report, s)
  | .ok address =>
    if choice.hasSeedPhrase then beside (pageTrial config inputs d address) s
    else (.ok (.ofFields [("address", .string address)]), s)

/-- A trial of the wallet is all its steps, and then what is done behind them. -/
lemma beside_walletTrial :
    beside (walletTrial choice config inputs d) = fun s =>
      behindConnect choice config inputs d
        (meanwhile
          (announced 0 (if choice.hasSeedPhrase then 3 else 1) "Preparing wallet extension")
          (connectTrial inputs d) s).1
        (meanwhile
          (announced 0 (if choice.hasSeedPhrase then 3 else 1) "Preparing wallet extension")
          (connectTrial inputs d) s).2 := by
  funext s
  obtain ⟨m, wallet⟩ := s
  unfold beside walletTrial meanwhile connectTrial walletRun RunStep.on
  simp only
  cases (WalletRun.toConnected inputs.primary : RunStep WalletExtension String)
    { automation := wallet, deriver := d, limit := inputs.transitionTimeout } with
  | mk connected run =>
    cases connected with
    | error e => rfl
    | ok address =>
      unfold behindConnect
      simp only
      cases choice.hasSeedPhrase <;> rfl

/-- A trial ends no browser before its end. -/
lemma sends_walletTrial :
    Sends Request.KeepsBrowser (beside (walletTrial choice config inputs d)) := by
  have connecting : Sends Request.KeepsBrowser (connectTrial inputs d) :=
    (WalletRun.sends_toConnected inputs.primary).through (walletRun inputs d)
      (fun _ run => run.automation)
      (fun _ => rfl) (fun _ _ => rfl) (fun _ _ _ _ => rfl) fun _ _ _ _ _ => rfl
  rw [beside_walletTrial]
  refine (sends_meanwhile (fun _ _ _ _ => rfl) connecting).bind fun connected => ?_
  cases connected with
  | error e => exact .value _
  | ok address =>
    unfold behindConnect
    cases choice.hasSeedPhrase with
    | true => exact sends_pageTrial config inputs d address
    | false => exact .value _

/-- The scenarios on the page leave the session as it is. -/
lemma session_pageTrial (address : String) (s : Machine × WalletExtension) :
    (beside (pageTrial config inputs d address) s).2.2.session = s.2.session := by
  rw [beside_pageTrial]
  unfold pagedTrial
  simp only
  split <;> rfl

/-- A trial leaves the session as the installation left it. -/
lemma session_walletTrial (s : Machine × WalletExtension) :
    (beside (walletTrial choice config inputs d) s).2.2.session =
      (s.2.install inputs.primary.extensionVersion (some inputs.transitionTimeout)).2.session := by
  have installed : (connectTrial inputs d s.2).2.session = _ :=
    WalletRun.session_toConnected (r := walletRun inputs d s.2) ⟨rfl, rfl⟩ inputs.primary
  refine Eq.trans ?_ installed
  rw [beside_walletTrial]
  unfold meanwhile
  simp only
  cases (connectTrial inputs d s.2).1 with
  | error e => rfl
  | ok address =>
    unfold behindConnect
    cases choice.hasSeedPhrase with
    | true => exact session_pageTrial config inputs d address _
    | false => rfl

end Wallet

end Job

end SeedVault
