import Mathlib
import SeedVault.Proofs.Command.Steps
import SeedVault.Proofs.Command.Trial
import SeedVault.Proofs.Config.Environment

/-!
# The browser of a trial is ended

A trial in a browser that has begun a session ends its browser, whatever comes of the steps and the
scenarios in between: the last request of the run is the one by which that session's browser is
ended, and no other request of the run ends one (`Machine.ends_browser`). The run says what the
trial came to, so that nothing depends on the reply to that last request.
-/

namespace SeedVault

open HasNetwork

/-- What a trial in a browser is run with. -/
structure TrialSetup where
  config : Configuration
  deriver : AccountDeriver
  inputs : RunInputs

namespace TrialSetup

/-- What a trial is run with comes from the configuration and the environment; a second wallet has
to agree with it. -/
def read (l : Layout) (m : Machine) : Except Report TrialSetup := do
  let config ← (Configuration.ofFileOrDefault
    (m.files.readFile (pathFrom m.current l.appConfig))).mapError Report.ofConfig
  let deriver ← noting ("invalid config (" ++ l.appConfig ++ ")") Report.ofDerive config.deriver
  let inputs ← RunInputs.ofLookup m.environment
  inputs.checkSecondary deriver
  return { config, deriver, inputs }

variable (t : TrialSetup) (l : Layout) (choice : TrialChoice) (m : Machine)

/-- The automation of the extension, before its first step. -/
def automation : WalletExtension := Job.extension l t.config t.inputs t.deriver m

/-- What the installation of the extension comes to, and the automation behind it. -/
def installation : Outcome Report Unit × WalletExtension :=
  (t.automation l m).install t.inputs.primary.extensionVersion (some t.inputs.transitionTimeout)

/-- What the steps of the extension and the scenarios come to, with the machine and the automation
behind them. The browser is not ended yet. -/
def tried : Except Report Json × (Machine × WalletExtension) :=
  beside (Job.walletTrial choice t.config t.inputs t.deriver) (m, t.automation l m)

end TrialSetup

namespace Job

/-- The machine behind a trial, when its browser has been ended. -/
def ended (s : Machine × WalletExtension) : Machine := { s.1 with network := s.2.close.2.network }

/-- Behind a trial the network is the one that the end of the browser leaves. -/
lemma network_ended (s : Machine × WalletExtension) :
    (ended s).network = s.2.close.2.network := rfl

section Prepared

variable {l : Layout} {m : Machine} {t : TrialSetup} {config : Configuration} {d : AccountDeriver}
  {r : Report}

/-- A trial needs its inputs. -/
lemma browserTrial_of_error (choice : TrialChoice)
    (h : (RunInputs.ofLookup m.environment >>= fun inputs => inputs.checkSecondary d) = .error r) :
    browserTrial l choice config d m = (.error r, m) := by
  unfold browserTrial
  rw [Attempt.bind_of_ok (get_apply m)]
  obtain missing | ⟨inputs, found, unlike⟩ := Attempt.error_bind_iff.1 h
  · exact Attempt.bind_of_error (ofExcept_apply m missing)
  · rw [Attempt.bind_of_ok (ofExcept_apply m found)]
    exact Attempt.bind_of_error (ofExcept_apply m unlike)

/-- A trial that has its inputs is run, and its browser ended. -/
lemma browserTrial_of_ok (choice : TrialChoice)
    (found : RunInputs.ofLookup m.environment = .ok t.inputs)
    (checked : t.inputs.checkSecondary t.deriver = .ok ()) :
    browserTrial l choice t.config t.deriver m =
      ((t.tried l choice m).1, ended (t.tried l choice m).2) := by
  unfold browserTrial
  rw [Attempt.bind_of_ok (get_apply m), Attempt.bind_of_ok (ofExcept_apply m found),
    Attempt.bind_of_ok (ofExcept_apply m checked)]
  unfold TrialSetup.tried TrialSetup.automation beside
  simp only
  cases ran : walletTrial choice t.config t.inputs t.deriver
      (extension l t.config t.inputs t.deriver m) m with
  | mk trial m' =>
    rw [Attempt.bind_of_ok (lift_apply m ran)]
    obtain ⟨result, wallet⟩ := trial
    rfl

/-- A trial that cannot be set up comes to what is missing. -/
lemma tryOut_of_error (choice : TrialChoice) (h : TrialSetup.read l m = .error r) :
    tryOut l choice false m = conclude (.error r) m := by
  refine Eq.trans ?_ (Attempt.bind_of_error (ofExcept_apply m rfl)).symm
  -- what is missing first ends the job, at one of the four steps of the set-up
  unfold tryOut
  unfold TrialSetup.read at h
  obtain unread | ⟨config, configured, h⟩ := Attempt.error_bind_iff.1 h
  · exact Attempt.bind_of_error ((configuration_apply m l).trans (by rw [unread]))
  rw [Attempt.bind_of_ok ((configuration_apply m l).trans (by rw [configured]))]
  obtain underived | ⟨d, derived, h⟩ := Attempt.error_bind_iff.1 h
  · exact Attempt.bind_of_error ((deriver_apply m l config).trans (by rw [underived]))
  rw [Attempt.bind_of_ok ((deriver_apply m l config).trans (by rw [derived]))]
  refine Attempt.bind_of_error (browserTrial_of_error choice ?_)
  obtain missing | ⟨inputs, found, h⟩ := Attempt.error_bind_iff.1 h
  · rw [missing]
    rfl
  obtain unlike | ⟨_, _, h⟩ := Attempt.error_bind_iff.1 h
  · rw [found]
    exact unlike
  · cases h

/-- A trial that is set up is run, its browser is ended, and its result is written. -/
lemma tryOut_of_ok (choice : TrialChoice) (h : TrialSetup.read l m = .ok t) :
    tryOut l choice false m =
      conclude (t.tried l choice m).1 (ended (t.tried l choice m).2) := by
  unfold TrialSetup.read at h
  obtain ⟨config, configured, h⟩ := Attempt.ok_bind_iff.1 h
  obtain ⟨d, derived, h⟩ := Attempt.ok_bind_iff.1 h
  obtain ⟨inputs, found, h⟩ := Attempt.ok_bind_iff.1 h
  obtain ⟨⟨⟩, checked, h⟩ := Attempt.ok_bind_iff.1 h
  obtain rfl := Except.ok.inj h
  have tried := browserTrial_of_ok (l := l) (t := ⟨config, d, inputs⟩) choice found checked
  unfold tryOut
  rw [Attempt.bind_of_ok ((configuration_apply m l).trans (by rw [configured])),
    Attempt.bind_of_ok ((deriver_apply m l config).trans (by rw [derived]))]
  generalize TrialSetup.tried _ l choice m = trial at tried ⊢
  obtain ⟨result, s⟩ := trial
  cases result with
  | ok v => exact (Attempt.bind_of_ok tried).trans (Attempt.bind_of_ok (ofExcept_apply _ rfl)).symm
  | error r =>
    exact (Attempt.bind_of_error tried).trans (Attempt.bind_of_error (ofExcept_apply _ rfl)).symm

end Prepared

end Job

namespace Machine

section Runs

variable {l : Layout} {m : Machine} {t : TrialSetup} {r : Report} {root : Option String}

/-- A run whose trial cannot be set up says what is missing. -/
lemma perform_of_error (choice : TrialChoice) (h : TrialSetup.read (m.layout root) m = .error r) :
    m.perform root (.tryOut choice false) = concluded (.error r) m :=
  perform_of_job (Job.tryOut_of_error choice h)

/-- A run whose trial is set up says what the trial came to. -/
lemma perform_of_ok (choice : TrialChoice) (h : TrialSetup.read (m.layout root) m = .ok t) :
    m.perform root (.tryOut choice false) =
      concluded (t.tried (m.layout root) choice m).1
        (Job.ended (t.tried (m.layout root) choice m).2) :=
  perform_of_job (Job.tryOut_of_ok choice h)

/-- The paths do not depend on the replies. -/
lemma layout_withReply (number : Nat) (reply : Reply) (delay : Nat) :
    (withReply number reply delay m).layout root = m.layout root := rfl

/-- What a trial is run with does not depend on the replies. -/
lemma read_withReply (number : Nat) (reply : Reply) (delay : Nat) :
    TrialSetup.read l (withReply number reply delay m) = TrialSetup.read l m := rfl

end Runs

end Machine

namespace TrialSetup

variable {l : Layout} {m : Machine} {t : TrialSetup}

/-- During a trial, the network is that of the extension's automation. -/
lemma network_trial (s : Machine × WalletExtension) : network s = s.2.network := rfl

/-- A trial sends no request that ends a browser. -/
lemma sends_tried (t : TrialSetup) (l : Layout) (choice : TrialChoice) (m : Machine) :
    ∃ sent, (t.tried l choice m).2.2.network.requests = m.network.requests ++ sent ∧
      ∀ q ∈ sent, q.KeepsBrowser := by
  have sends := (Job.sends_walletTrial choice t.config t.inputs t.deriver).sends
    (m, t.automation l m)
  rw [network_trial, network_trial] at sends
  unfold tried
  exact sends

/-- A trial heeds no replies but those to its own requests. -/
lemma tried_withReply (choice : TrialChoice) {number : Nat}
    (later : (t.tried l choice m).2.2.network.requests.length ≤ number) (reply : Reply)
    (delay : Nat) :
    t.tried l choice (withReply number reply delay m) =
      ((t.tried l choice m).1, withReply number reply delay (t.tried l choice m).2) := by
  have foresees := (Job.sends_walletTrial choice t.config t.inputs t.deriver).foresees
    (m, t.automation l m) number reply delay
  rw [network_trial] at foresees
  unfold tried at later ⊢
  exact foresees later

/-- The session behind a trial is the one that the installation has begun. -/
lemma session_tried (choice : TrialChoice) :
    (t.tried l choice m).2.2.session = (t.installation l m).2.session := by
  unfold tried installation
  exact Job.session_walletTrial choice t.config t.inputs t.deriver (m, t.automation l m)

/-- Behind a trial the same servers listen. -/
lemma listens_tried (choice : TrialChoice) :
    (t.tried l choice m).2.2.network.listens = m.network.listens := by
  have kept := (Job.sends_walletTrial choice t.config t.inputs t.deriver).listens
    (m, t.automation l m)
  rw [network_trial, network_trial] at kept
  unfold tried
  exact kept

/-- Without an installation that succeeded, there is no session behind a trial. -/
lemma session_uninstalled (undone : (t.installation l m).1 ≠ .done ()) (choice : TrialChoice) :
    (t.tried l choice m).2.2.session = none := by
  rw [session_tried]
  unfold installation at undone ⊢
  exact WalletExtension.session_install undone

/-- Behind an installation that succeeded, the end of the browser is one request to the address of
its session, whatever the replies are by then. -/
lemma exists_end (installed : (t.installation l m).1 = .done ()) (choice : TrialChoice) :
    ∃ s u, (t.installation l m).2.session = some s ∧ Browser.target s.browser.address = .ok u ∧
      ∀ w : WalletExtension, w.session = (t.tried l choice m).2.2.session →
        w.network.listens = (t.tried l choice m).2.2.network.listens →
        w.close.2.network.requests =
          w.network.requests ++ [⟨.delete, Browser.pathAndQuery u, none⟩] := by
  obtain ⟨s, u, begun, found, listening⟩ := WalletExtension.listens_install installed
  refine ⟨s, u, begun, found, fun w present listens => ?_⟩
  have present := present.trans ((session_tried choice).trans begun)
  refine WalletExtension.requests_close present found ?_
  rw [listens, listens_tried]
  exact listening

/-- With another reply to the end of its browser a trial is concluded alike. -/
lemma alike_withReply (installed : (t.installation l m).1 = .done ()) (choice : TrialChoice)
    {number : Nat} (later : (t.tried l choice m).2.2.network.requests.length ≤ number)
    (reply : Reply) (delay : Nat) :
    Machine.Alike
      (Machine.concluded (t.tried l choice (withReply number reply delay m)).1
        (Job.ended (t.tried l choice (withReply number reply delay m)).2))
      (Machine.concluded (t.tried l choice m).1 (Job.ended (t.tried l choice m).2)) := by
  obtain ⟨_, _, _, _, ending⟩ := exists_end installed choice
  rw [tried_withReply choice later]
  generalize t.tried l choice m = trial at ending ⊢
  -- the reply is in the network behind the end, of which the requests count alone
  refine Machine.alike_concluded trial.1 rfl rfl ?_
  rw [Job.network_ended, Job.network_ended]
  exact (ending (withReply number reply delay trial.2.2) rfl rfl).trans (ending _ rfl rfl).symm

end TrialSetup

/-- What a run of a trial in a browser does with the browser. -/
structure EndsBrowser (l : Layout) (choice : TrialChoice) (m : Machine)
    (run : Machine → Bool × Machine) : Prop where
  /-- Nothing is sent if the trial cannot be set up. -/
  unread : ∀ r, TrialSetup.read l m = .error r →
    run m = Machine.concluded (.error r) m ∧ (run m).2.network.requests = m.network.requests
  /-- No browser is ended if the extension was not installed. -/
  uninstalled : ∀ t, TrialSetup.read l m = .ok t → (t.installation l m).1 ≠ .done () →
    ∃ sent, (run m).2.network.requests = m.network.requests ++ sent ∧ ∀ q ∈ sent, q.KeepsBrowser
  /-- If it was, then there is a session, the last request ends its browser, no other one ends any,
  and with another reply to that request the run would have been alike. -/
  installed : ∀ t, TrialSetup.read l m = .ok t → (t.installation l m).1 = .done () →
    ∃ s u sent, (t.installation l m).2.session = some s ∧
      Browser.target s.browser.address = .ok u ∧
      (run m).2.network.requests =
        m.network.requests ++ sent ++ [⟨.delete, Browser.pathAndQuery u, none⟩] ∧
      (∀ q ∈ sent, q.KeepsBrowser) ∧
      ∀ reply delay,
        Machine.Alike (run (withReply (m.network.requests ++ sent).length reply delay m)) (run m)
  /-- The run says what the steps of the extension and the scenarios came to. -/
  concludes : ∀ t, TrialSetup.read l m = .ok t →
    ∃ n, run m =
      Machine.concluded (t.tried l choice m).1 { (t.tried l choice m).2.1 with network := n }

namespace Machine

section Prepared

variable (others : Nat → Reply)

/-- The phrase of the wallet on the prepared machine. -/
def preparedPhrase : Mnemonic :=
  ⟨Phrase.join (List.replicate 11 "abandon" ++ ["about"]), List.replicate 16 0⟩

/-- The variables of the prepared machine. -/
def preparedVariables (name : String) : Option String :=
  [("SEEDKEEPER_ROOT", "/root"), ("TEST_BASE_URL", "web://localhost:3000"),
    ("TEST_KEPLR_EXTENSION_VERSION", "0.12.20"), ("TEST_WALLET_MNEMONIC", preparedPhrase.phrase),
    ("TEST_WALLET_PASSWORD", "password"), ("TEST_WEBDRIVER_URL", "http://[::1]:9515")].lookup name

/-- The files of the prepared machine: the bundle of the extension and nothing else. -/
def preparedFiles : Directory :=
  let manifest := Node.file 0o644 (Bytes.ofString "\x7b\"version\": \"0.12.20\"\x7d")
  let bundle := Node.folder 0o755 [("manifest.json", manifest)]
  let extensions := Node.folder 0o755 [("keplr-0.12.20", bundle)]
  ⟨0o755, [("root", .folder 0o755 [("extensions", extensions)])]⟩

/-- The answer of a server that starts a browser. -/
def begunAnswer : String := "\x7b\"value\": \x7b\"sessionId\": \"1\"\x7d\x7d"

/-- A machine that is prepared for a trial in a browser. A server listens; it starts the browser,
and its further replies are any `others`. -/
def preparedMachine : Machine where
  files := preparedFiles
  current := []
  environment := preparedVariables
  input := .ok ""
  entropy := { supply := fun _ => 0 }
  network :=
    { listens := fun _ => true
      replies := fun n => if n = 0 then .answer 200 begunAnswer else others n }

/-- The root of the prepared machine is the one that its variable names. -/
lemma layout_preparedMachine : (preparedMachine others).layout none = .ofRoot "/root" := rfl

/-- What a trial is run with on the prepared machine. -/
def preparedTrial : TrialSetup where
  config := {}
  deriver := { path := default, chain := "pion-1", hrp := "neutron" }
  inputs :=
    { baseUrl :=
        { scheme := "web"
          authority := some { host := some (.domain "localhost"), port := some 3000 }
          path := .segments [] }
      extensionVersion := "0.12.20"
      walletMnemonic := preparedPhrase
      walletPhrase := preparedPhrase.phrase
      walletPassword := "password"
      secondaryMnemonic := none
      secondaryAddress := none
      webdriverUrl :=
        { scheme := "http"
          authority := some
            { host := some (.address6 [0, 0, 0, 0, 0, 0, 0, 1]), port := some 9515 }
          path := .segments [""] }
      transitionTimeout := RunInputs.defaultTransitionTimeout }

/-- The variables of the prepared machine give the inputs of its trial. -/
lemma reads_preparedVariables : RunInputs.Reads preparedVariables preparedTrial.inputs := by
  constructor
  case baseUrl => exact ⟨_, .of_visible rfl (by decide), by decide +kernel⟩
  case extensionVersion => exact ⟨_, .of_visible rfl (by decide), by decide⟩
  case walletPhrase => exact .of_visible rfl (by decide)
  case walletMnemonic => exact Mnemonic.made_zeros.faithful.accepted.2
  case walletPassword => exact .of_visible rfl (by decide)
  case secondaryMnemonic => exact .unset (RunInputs.not_isSet_of_none rfl)
  case secondaryAddress => exact .unset (RunInputs.not_isSet_of_none rfl)
  case webdriverUrl => exact ⟨_, .set (.of_visible rfl (by decide)) (by decide +kernel), rfl⟩
  case transitionTimeout => exact ⟨_, .unset (RunInputs.not_isSet_of_none rfl), rfl⟩

/-- On the prepared machine a trial can be set up. -/
lemma read_preparedMachine :
    TrialSetup.read (.ofRoot "/root") (preparedMachine others) = .ok preparedTrial := by
  have configured : Configuration.ofFileOrDefault
      (preparedFiles.readFile (pathFrom [] (Layout.ofRoot "/root").appConfig)) = .ok {} := by
    decide +kernel
  have found : RunInputs.ofLookup preparedVariables = .ok preparedTrial.inputs :=
    RunInputs.ofLookup_ok_iff.2 reads_preparedVariables
  unfold TrialSetup.read
  refine Attempt.ok_bind_iff.2 ⟨{}, ?_, Attempt.ok_bind_iff.2 ⟨preparedTrial.deriver, rfl,
    Attempt.ok_bind_iff.2 ⟨_, found, Attempt.ok_bind_iff.2 ⟨(), rfl, rfl⟩⟩⟩⟩
  exact Attempt.ok_mapError_iff.2 configured

/-- On the prepared machine the extension is installed, in the session that the server names. -/
lemma installation_preparedMachine :
    (preparedTrial.installation (.ofRoot "/root") (preparedMachine others)).1 = .done () ∧
      ∃ extensionId,
        (preparedTrial.installation (.ofRoot "/root") (preparedMachine others)).2.session =
          some ⟨⟨"http://[::1]:9515/session/1"⟩, extensionId⟩ := by
  let d := preparedTrial.automation (.ofRoot "/root") (preparedMachine others)
  let bundle : UnpackedExtension := ⟨"/root/extensions/keplr-0.12.20", "0.12.20", none⟩
  have located : UnpackedExtension.locate preparedFiles [] (Layout.ofRoot "/root").extensionsDir
      WalletExtension.extensionName "0.12.20" = .ok bundle := by decide +kernel
  obtain ⟨extensionId, identified⟩ : ∃ extensionId, bundle.id = .ok extensionId := ⟨_, rfl⟩
  have server : Browser.serverAddress d.settings.server = "http://[::1]:9515" := by
    change Browser.serverAddress preparedTrial.inputs.webdriverUrl = _
    decide +kernel
  have found : Browser.target (Browser.serverAddress d.settings.server ++ "/session") = .ok
      { preparedTrial.inputs.webdriverUrl with path := .segments ["session"] } := by
    rw [server]
    decide +kernel
  have begun : ((Browser.readAnswer (.record "NewSession" [("sessionId", .text, true)]) 200
      begunAnswer).toOption.bind (Browser.textField? · "sessionId")) = some "1" := by
    decide +kernel
  obtain ⟨v, read, named⟩ := Option.bind_eq_some_iff.1 begun
  have soon : (some RunInputs.defaultTransitionTimeout).all (d.network.delays 0 ≤ ·) := rfl
  have installed := d.install_of_session located identified found rfl rfl soon
    (Attempt.toOption_eq_some_iff.1 read) named
  rw [server] at installed
  exact ⟨installed.1, extensionId, installed.2⟩

end Prepared

/-- A trial in a browser ends the browser it has started by its last request and ends none before,
for all replies and delays, and whatever goes wrong in between. -/
theorem ends_browser {args : List String} {choice : TrialChoice} {g : Given}
    (told : Action.command.parse args = .ok (.tryOut choice false, g)) (m : Machine) :
    EndsBrowser (m.layout (g.value? "root")) choice m (run args) := by
  have same := run_of_parse told
  constructor
  case unread =>
    intro r unread
    rw [same, perform_of_error choice unread, network_concluded]
    exact ⟨rfl, rfl⟩
  case uninstalled =>
    intro t setup undone
    obtain ⟨sent, grown, each⟩ := t.sends_tried (m.layout (g.value? "root")) choice m
    refine ⟨sent, ?_, each⟩
    rw [same, perform_of_ok choice setup, network_concluded, ← grown, Job.network_ended,
      WalletExtension.close_of_none (TrialSetup.session_uninstalled undone choice)]
  case installed =>
    intro t setup done
    obtain ⟨s, u, begun, found, ending⟩ := TrialSetup.exists_end done choice
    obtain ⟨sent, grown, each⟩ := t.sends_tried (m.layout (g.value? "root")) choice m
    refine ⟨s, u, sent, begun, found, ?_, each, ?_⟩
    · rw [same, perform_of_ok choice setup, network_concluded, ← grown, Job.network_ended]
      exact ending _ rfl rfl
    · intro reply delay
      -- nothing that is read or sent in front of the last request depends on its reply
      have setup' := (read_withReply (m.network.requests ++ sent).length reply delay).trans setup
      rw [← layout_withReply (m.network.requests ++ sent).length reply delay] at setup'
      rw [same, same, perform_of_ok choice setup, perform_of_ok choice setup', layout_withReply]
      exact TrialSetup.alike_withReply done choice (Nat.le_of_eq (congrArg _ grown)) reply delay
  case concludes =>
    intro t setup
    rw [same, perform_of_ok choice setup]
    exact ⟨_, rfl⟩

/-- On a machine with the bundle, the variables and a server that starts browsers, the installation
succeeds; whatever the other replies are, the run ends the browser that it has started by its last
request. -/
theorem ends_browser_of_all_scenarios :
    (∃ g, Action.command.parse ["harness", "run"] = .ok (.tryOut .all false, g) ∧
      ∀ m : Machine, EndsBrowser (m.layout (g.value? "root")) .all m (run ["harness", "run"])) ∧
    ∀ (others : Nat → Reply),
      let m := preparedMachine others
      TrialSetup.read (m.layout none) m = .ok preparedTrial ∧
      (preparedTrial.installation (m.layout none) m).1 = .done () ∧
      ∃ sent, (m.run ["harness", "run"]).2.network.requests =
        sent ++ [⟨.delete, "/session/1", none⟩] ∧ ∀ q ∈ sent, q.KeepsBrowser := by
  have told : Action.command.parse ["harness", "run"] = .ok (.tryOut .all false, {}) := by cbv
  refine ⟨⟨{}, told, ends_browser told⟩, fun others => ?_⟩
  intro m
  have setup := read_preparedMachine others
  obtain ⟨installed, extensionId, begun⟩ := installation_preparedMachine others
  rw [← layout_preparedMachine others] at setup installed begun
  refine ⟨setup, installed, ?_⟩
  obtain ⟨s, u, sent, begun', found, requests, keep, _⟩ :=
    (ends_browser told m).installed preparedTrial setup installed
  refine ⟨sent, ?_, keep⟩
  cases begun.symm.trans begun'
  have address : Browser.target "http://[::1]:9515/session/1" = .ok
      { scheme := "http", path := .segments ["session", "1"]
        authority := some { host := some (.address6 [0, 0, 0, 0, 0, 0, 0, 1]),
                            port := some 9515 } } := by decide +kernel
  cases found.symm.trans address
  exact requests

end Machine

end SeedVault
