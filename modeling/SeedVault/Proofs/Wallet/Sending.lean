import SeedVault.Proofs.Wallet.Calls
import SeedVault.Proofs.Wallet.Extension

/-!
# What a run sends on the network

All steps of a run together send what its automation sends (`sends_toConnected`). The wallet's
extension sends no request that ends a browser, whatever it is asked for.
-/

namespace SeedVault

open HasNetwork

namespace WalletExtension

/-- The network of the extension is that of its browser. -/
instance : HasNetwork WalletExtension where
  network d := d.network
  withReply number reply delay d := { d with network := d.network.withReply number reply delay }
  network_withReply _ _ _ _ := rfl

/-- Work on the extension sends what its task sends, if the task does not look at the network. -/
lemma sends_work {α : Type} {P : Request → Prop} {task : WalletExtension → WebTask Report α}
    (blind : ∀ number reply delay d, task (withReply number reply delay d) = task d)
    (h : ∀ d, WebTask.Sends P Browser.AnyError (task d)) (limit : Option Nat) :
    Sends P fun d => work (task d) limit d where
  listens d := ((h d).acts _).listens d.network
  sends d := ((h d).acts _).sends d.network
  foresees d number reply delay before := by
    have same :=
      ((h d).acts (limit.map (d.network.now + ·))).foresees d.network number reply delay before
    rw [blind]
    -- the work begins at the time of the network, which is the same
    change
      (((task d).on (limit.map (d.network.now + ·)) (withReply number reply delay d.network)).1,
      { d with network :=
        ((task d).on (limit.map (d.network.now + ·))
          (withReply number reply delay d.network)).2 }) = _
    rw [same]
    rfl

/-- A command to the extension's browser does not end it. -/
lemma Commands.keepsBrowser {d : WalletExtension} {q} (h : d.Commands q) : q.KeepsBrowser := by
  obtain ⟨_, _, command⟩ := h
  exact command.method

/-- How an installation goes on behind its work. -/
def installed (ended : Outcome Report ExtensionSession) (d : WalletExtension) :
    Outcome Report Unit × WalletExtension :=
  match ended with
  | .done session => (.done (), { d with session := some session })
  | .failed e => (.failed e, d)
  | .expired => (.expired, d)

/-- An installation makes of its work what that comes to. -/
lemma install_eq (version : String) (limit : Option Nat) :
    install version limit = fun d =>
      installed (work (d.installing version) limit d).1
        (work (d.installing version) limit d).2 := by
  funext d
  unfold install
  cases work (d.installing version) limit d with
  | mk ended d' => cases ended <;> rfl

/-- An installation ends no browser. -/
lemma sends_install (version : String) (limit : Option Nat) :
    Sends Request.KeepsBrowser (install version limit) := by
  rw [install_eq]
  refine Sends.bind (sends_work (fun _ _ _ _ => rfl) (fun d => ?_) limit) fun ended => ?_
  · exact (d.sends_installing version).mono (fun _ isStart => isStart.method) fun _ _ => trivial
  · cases ended with
    | done session => exact .still (fun _ => rfl) (fun _ => rfl) fun _ _ _ _ => rfl
    | failed e | expired => exact .value _

/-- An installation that succeeds begins a session with a browser where a server listens. -/
lemma listens_install {version : String} {limit : Option Nat} {d : WalletExtension}
    (done : (install version limit d).1 = .done ()) :
    ∃ s u, (install version limit d).2.session = some s ∧
      Browser.target s.browser.address = .ok u ∧ d.network.listens u.site = true := by
  have started := d.started_installing version (limit.map (d.network.now + ·)) d.network
  rw [install_eq] at done ⊢
  simp only [work_apply] at done ⊢
  generalize (d.installing version).on _ d.network = ended at done started ⊢
  obtain ⟨s | e | _, n⟩ := ended
  · obtain ⟨u, found, listening⟩ := started.listens
    exact ⟨s, u, rfl, found, listening⟩
  · cases done
  · cases done

/-- An installation that does not succeed begins none. -/
lemma session_install {version : String} {limit : Option Nat} {d : WalletExtension}
    (undone : (install version limit d).1 ≠ .done ()) :
    (install version limit d).2.session = d.session := by
  rw [install_eq] at undone ⊢
  simp only [work_apply] at undone ⊢
  generalize (d.installing version).on _ d.network = ended at undone ⊢
  obtain ⟨s | e | _, n⟩ := ended
  · exact absurd rfl undone
  · rfl
  · rfl

/-- An installation succeeds if the bundle is there and has an id, and the server names a session in
time. -/
lemma install_of_session {version : String} {limit : Option Nat} {d : WalletExtension}
    {bundle extensionId u status text v id}
    (located : UnpackedExtension.locate d.files d.current d.settings.bundlesDir extensionName
      version = .ok bundle)
    (named : bundle.id = .ok extensionId)
    (found : Browser.target (Browser.serverAddress d.settings.server ++ "/session") = .ok u)
    (listening : d.network.listens u.site = true)
    (answer : d.network.replies d.network.requests.length = .answer status text)
    (soon : limit.all (d.network.delays d.network.requests.length ≤ ·))
    (read : Browser.readAnswer (.record "NewSession" [("sessionId", .text, true)]) status text =
      .ok v)
    (begun : Browser.textField? v "sessionId" = some id) :
    (install version limit d).1 = .done () ∧
      (install version limit d).2.session =
        some ⟨⟨Browser.serverAddress d.settings.server ++ "/session/" ++ id⟩, extensionId⟩ := by
  have soon' : (limit.map (d.network.now + ·)).all
      (d.network.now + d.network.delays d.network.requests.length ≤ ·) := by
    cases limit with
    | none => rfl
    | some t => simpa using soon
  have started := Browser.done_start d.settings.server
    (capabilities d.settings.headless bundle) found listening answer soon' read begun
  have done : ((d.installing version).on (limit.map (d.network.now + ·)) d.network).1 = .done
      ⟨⟨Browser.serverAddress d.settings.server ++ "/session/" ++ id⟩, extensionId⟩ := by
    unfold installing
    rw [located, WebTask.ofExcept_ok_bind, named, WebTask.ofExcept_ok_bind, WebTask.on_bind,
      WebTask.on_mapError, started]
    rfl
  rw [install_eq]
  simp only [work_apply, done]
  exact ⟨rfl, rfl⟩

/-- Without a session there is nothing to end. -/
lemma close_of_none {d : WalletExtension} (absent : d.session = none) :
    d.close = (.done (), d) := by
  unfold close
  rw [absent]

/-- The end of a session sends one request, by which its browser is ended. -/
lemma requests_close {d : WalletExtension} {s : ExtensionSession} {u : Url}
    (present : d.session = some s) (found : Browser.target s.browser.address = .ok u)
    (listening : d.network.listens u.site = true) :
    d.close.2.network.requests =
      d.network.requests ++ [⟨.delete, Browser.pathAndQuery u, none⟩] := by
  unfold close
  rw [present]
  simp only [work_apply]
  rw [WebTask.reporting, WebTask.on_mapError]
  exact Browser.requests_quit found listening

/-- How an unlocking goes on behind its work. -/
def unlocked (password : String) (ended : Outcome Report Unlocking) (d : WalletExtension) :
    Outcome Report Bool × WalletExtension :=
  match ended with
  | .done .accepted => (.done true, d)
  | .done .rejected => (.done false, d)
  | .done .fresh => (.done true, { d with password := some password })
  | .failed e => (.failed e, d)
  | .expired => (.expired, d)

/-- An unlocking makes of its work what that comes to. -/
lemma unlock_eq (password : String) (limit : Option Nat) :
    unlock password limit = fun d =>
      unlocked password (work (d.unlocking password) limit d).1
        (work (d.unlocking password) limit d).2 := by
  funext d
  unfold unlock
  cases work (d.unlocking password) limit d with
  | mk ended d' =>
    cases ended with
    | done u => cases u <;> rfl
    | failed e | expired => rfl

/-- An unlocking ends no browser. -/
lemma sends_unlock (password : String) (limit : Option Nat) :
    Sends Request.KeepsBrowser (unlock password limit) := by
  rw [unlock_eq]
  refine Sends.bind (sends_work (fun _ _ _ _ => rfl) (fun d => ?_) limit) fun ended => ?_
  · exact (d.sends_unlocking password).mono (fun _ => Commands.keepsBrowser) fun _ _ => trivial
  · cases ended with
    | done u =>
      cases u with
      | fresh => exact .still (fun _ => rfl) (fun _ => rfl) fun _ _ _ _ => rfl
      | accepted | rejected => exact .value _
    | failed e | expired => exact .value _

/-- An import ends no browser. -/
lemma sends_importAccount (m : Mnemonic) (limit : Option Nat) :
    Sends Request.KeepsBrowser (importAccount m limit) :=
  sends_work (fun _ _ _ _ => rfl)
    (fun d => (d.sends_importing m).mono (fun _ => Commands.keepsBrowser) fun _ _ => trivial) limit

/-- A connection ends no browser. -/
lemma sends_connect (app : Url) (limit : Option Nat) :
    Sends Request.KeepsBrowser (connect app limit) :=
  sends_work (fun _ _ _ _ => rfl)
    (fun d => (d.sends_connecting app).mono (fun _ => Commands.keepsBrowser) fun _ _ => trivial)
    limit

/-- Only an installation changes the session. -/
lemma session_ask {c : WalletCall} (other : c.step ≠ .install) (limit : Nat) (d : WalletExtension) :
    (c.ask limit d).2.session = d.session := by
  cases c with
  | install version => exact absurd rfl other
  | unlock password =>
    change (unlock password (some limit) d).2.session = _
    rw [unlock_eq]
    simp only [work_apply]
    generalize (d.unlocking password).on _ d.network = ended
    obtain ⟨u | e | _, n⟩ := ended
    · cases u <;> rfl
    · rfl
    · rfl
  | importAccount m => rfl
  | connect app => rfl

end WalletExtension

namespace WalletRun

variable {δ α β : Type} {P : Request → Prop}

/-- The automation is asked within a limit. -/
def asking (op : Nat → δ → Outcome Report α × δ) (limit : Nat) (r : WalletRun δ) :
    Outcome Report α × WalletRun δ :=
  ((op limit r.automation).1, { r with automation := (op limit r.automation).2 })

/-- How a step goes on behind the work of the automation. -/
def performed (s : WalletStep) (ended : Outcome Report α) (r : WalletRun δ) :
    Except StepError α × WalletRun δ :=
  match ended with
  | .done a => (.ok a, { r with state := s.target })
  | .failed cause => (.error (r.errorAt s .driver cause), { r with failed := true })
  | .expired => (.error (r.errorAt s (.timeout r.limit)), { r with failed := true })

/-- A step asks the automation and goes on by how that ends. -/
lemma perform_eq (s : WalletStep) (op : Nat → δ → Outcome Report α × δ) :
    (perform s op).on = fun r => performed s (asking op r.limit r).1 (asking op r.limit r).2 := by
  funext r
  rw [perform_apply]
  unfold asking
  cases op r.limit r.automation with
  | mk ended a => cases ended <;> rfl

/-- What the derivation of an address with a deriver comes to. -/
def derived (m : Mnemonic) (d : AccountDeriver) (r : WalletRun δ) :
    Except StepError String × WalletRun δ :=
  match d.derive m with
  | .ok keys => (.ok keys.address, r)
  | .error e =>
    (.error (r.errorAt .importAccount .derivation (.ofDerive e)), { r with failed := true })

/-- The derivation of an address depends on the deriver alone. -/
lemma deriveAddress_eq (m : Mnemonic) :
    (deriveAddress m : RunStep δ String).on = fun r => derived m r.deriver r := by
  funext r
  unfold deriveAddress derived
  rw [bind_apply, get_apply]
  simp only
  cases r.deriver.derive m <;> rfl

/-- How a connection ends if an address was imported. -/
def matched (actual : String) (address : Option String) (r : WalletRun δ) :
    Except StepError String × WalletRun δ :=
  (compareAddress .connect (address.getD "") actual >>= fun _ => pure (address.getD "") :
    RunStep δ String).on r

variable [HasNetwork δ]

/-- The network of a run is that of its automation. -/
instance : HasNetwork (WalletRun δ) where
  network r := network r.automation
  withReply number reply delay r :=
    { r with automation := withReply number reply delay r.automation }
  network_withReply number reply delay r := network_withReply number reply delay r.automation

/-- Two parts of a step send what each of them sends. -/
lemma sends_bind {act : RunStep δ α} {next : α → RunStep δ β} (first : Sends P act.on)
    (others : ∀ a, Sends P (next a).on) : Sends P (RunStep.on (act >>= next)) :=
  Sends.andThen first others

/-- The test that a step is in turn sends nothing. -/
lemma sends_guardStep (s : WalletStep) : Sends P (guardStep s : RunStep δ Unit).on := by
  refine .still ?_ ?_ ?_
  · intro r
    by_cases ready : r.Ready s
    · rw [guardStep_ready ready]
    · rw [guardStep_refused ready]
      rfl
  · intro r
    by_cases ready : r.Ready s
    · rw [guardStep_ready ready]
    · rw [guardStep_refused ready]
      rfl
  · intro number reply delay r
    by_cases ready : r.Ready s
    · have ready' : (withReply number reply delay r).Ready s := ready
      rw [guardStep_ready ready, guardStep_ready ready']
    · have ready' : ¬ (withReply number reply delay r).Ready s := ready
      rw [guardStep_refused ready, guardStep_refused ready']
      rfl

/-- A step's work sends what the automation sends. -/
lemma sends_perform (s : WalletStep) {op : Nat → δ → Outcome Report α × δ}
    (h : ∀ limit, Sends P (op limit)) : Sends P (perform s op).on := by
  have asked : Sends P fun r => asking op r.limit r :=
    .reading (f := WalletRun.limit) (fun _ _ _ _ => rfl) fun limit =>
      (h limit).through WalletRun.automation (fun r automation => { r with automation })
        (fun _ => rfl) (fun _ _ => rfl) (fun _ _ _ _ => rfl) fun _ _ _ _ _ => rfl
  rw [perform_eq]
  refine asked.bind fun ended => ?_
  cases ended with
  | done a | failed cause | expired =>
    exact .still (fun _ => rfl) (fun _ => rfl) fun _ _ _ _ => rfl

/-- The comparison of addresses sends nothing. -/
lemma sends_compareAddress (s : WalletStep) (expected actual : String) :
    Sends P (compareAddress s expected actual : RunStep δ Unit).on := by
  unfold compareAddress
  split
  · exact .value _
  · exact .still (fun _ => rfl) (fun _ => rfl) fun _ _ _ _ => rfl

/-- The derivation of an address sends nothing. -/
lemma sends_deriveAddress (m : Mnemonic) :
    Sends P (deriveAddress m : RunStep δ String).on := by
  rw [deriveAddress_eq]
  refine .reading (f := WalletRun.deriver) (fun _ _ _ _ => rfl) fun d => ?_
  unfold derived
  cases d.derive m with
  | ok keys => exact .value _
  | error e => exact .still (fun _ => rfl) (fun _ => rfl) fun _ _ _ _ => rfl

/-- All steps of a run over the wallet's extension together end no browser. -/
lemma sends_toConnected (inputs : WalletInputs) :
    Sends Request.KeepsBrowser (toConnected inputs : RunStep WalletExtension String).on := by
  refine sends_bind (sends_bind (sends_guardStep _) fun _ => ?_) fun _ => ?_
  · exact sends_perform _ fun limit => WalletExtension.sends_install _ (some limit)
  refine sends_bind (sends_bind (sends_guardStep _) fun _ => ?_) fun _ => ?_
  · refine sends_bind (sends_perform _ fun limit => ?_) fun accepted => ?_
    · exact WalletExtension.sends_unlock _ (some limit)
    · cases accepted with
      | true => exact .value _
      | false => exact .still (fun _ => rfl) (fun _ => rfl) fun _ _ _ _ => rfl
  refine sends_bind (sends_bind (sends_guardStep _) fun _ => ?_) fun _ => ?_
  · refine sends_bind (sends_deriveAddress _) fun expected => ?_
    refine sends_bind (sends_perform _ fun limit => ?_) fun actual => ?_
    · exact WalletExtension.sends_importAccount _ (some limit)
    refine sends_bind (sends_compareAddress _ _ _) fun _ => ?_
    exact .still (fun _ => rfl) (fun _ => rfl) fun _ _ _ _ => rfl
  refine sends_bind (sends_guardStep _) fun _ => ?_
  refine sends_bind (sends_perform _ fun limit => ?_) fun actual => ?_
  · exact WalletExtension.sends_connect _ (some limit)
  -- the address that is compared with is read off the run
  change Sends _ fun r => matched actual r.address r
  refine .reading (f := WalletRun.address) (fun _ _ _ _ => rfl) fun address => ?_
  exact sends_bind (sends_compareAddress _ _ _) fun _ => .value _

/-- A call that asks for no installation leaves the session as it is. -/
lemma Told.session {r r' : WalletRun WalletExtension} {c es x} (other : c.step ≠ .install)
    (h : Told r c es x r') : r'.automation.session = r.automation.session := by
  obtain ⟨_, same⟩ | ⟨_, _, ask⟩ := h.asked
  · rw [same]
  · have kept := WalletExtension.session_ask other r.limit r.automation
    rw [ask] at kept
    exact kept

/-- An installation in turn leaves what the automation comes to by it. -/
lemma Told.installed_automation {δ : Type} [WalletAutomation δ] {r r' : WalletRun δ}
    {version es x} (ready : r.Ready .install) (h : Told r (.install version) es x r') :
    r'.automation = (WalletAutomation.install version r.limit r.automation).2 := by
  cases h with
  | refused turned => exact absurd ready turned
  | failed _ _ ask _ | expired _ _ ask _ | installed _ ask => exact (congrArg Prod.snd ask).symm

/-- All steps together leave the session as the installation left it. -/
lemma session_toConnected {r : WalletRun WalletExtension} (ready : r.Ready .install)
    (inputs : WalletInputs) :
    ((toConnected inputs).on r).2.automation.session =
      (WalletExtension.install inputs.extensionVersion (some r.limit) r.automation).2.session := by
  obtain ⟨_, behind⟩ := makeUp_serve (.toConnected inputs) r
  rw [serve_toConnected_apply] at behind
  simp only at behind
  rw [← behind]
  obtain ⟨es, way⟩ := told r (.install inputs.extensionVersion)
  have first := way.installed_automation ready
  unfold WalletRequest.calls
  cases answered : (serve (WalletCall.install inputs.extensionVersion).request).on r with
  | mk x r' =>
    rw [answered] at first
    change r'.automation = (WalletExtension.install _ (some r.limit) r.automation).2 at first
    cases x with
    | error e => rw [callAll_of_error _ answered, first]
    | ok x =>
      rw [callAll_of_ok _ answered, ← first]
      -- none of the other calls is an installation
      refine (kept_callAll (I := fun r : WalletRun WalletExtension =>
        r.automation.session = r'.automation.session)
        (A := fun _ => True) ?_ rfl).1
      intro c mem r same
      obtain ⟨es, way⟩ := told r c
      refine ⟨(way.session ?_).trans same, trivial⟩
      simp only [List.mem_cons, List.not_mem_nil, or_false] at mem
      obtain rfl | rfl | rfl := mem <;> exact nofun

end WalletRun

end SeedVault
