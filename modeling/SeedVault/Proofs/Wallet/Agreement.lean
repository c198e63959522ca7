import SeedVault.Proofs.Wallet.Order

/-!
# Agreement on the address

A run connects to the address that it derived for the imported account, and to no other: the
automation has reported that address at the import and again at the connection
(`connects_to_imported`). All steps together succeed exactly if the automation does its part and
reports it twice (`toConnected_ok_iff`).
-/

namespace SeedVault.WalletRun

variable {δ α : Type}

/-- Giving a value succeeds with it and leaves the run alone. -/
lemma pure_ok_iff {r r' : WalletRun δ} {a b : α} :
    (pure a : RunStep δ α).on r = (.ok b, r') ↔ a = b ∧ r = r' := by
  change (Except.ok a, r) = (Except.ok b, r') ↔ _
  simp

variable [WalletAutomation δ]

/-- All steps succeed if the automation does its part in turn and reports the derived address at
the import and at the connection. -/
lemma toConnected_ok_iff {r r' : WalletRun δ} {inputs a} :
    (toConnected inputs).on r = (.ok a, r') ↔
      r.Ready .install ∧ ∃ keys d₁ d₂ d₃ d₄,
        WalletAutomation.install inputs.extensionVersion r.limit r.automation = (.done (), d₁) ∧
        WalletAutomation.unlock inputs.password r.limit d₁ = (.done true, d₂) ∧
        r.deriver.derive inputs.mnemonic = .ok keys ∧ keys.address = a ∧
        WalletAutomation.importAccount inputs.mnemonic r.limit d₂ = (.done a, d₃) ∧
        WalletAutomation.connect inputs.appUrl r.limit d₃ = (.done a, d₄) ∧
        r' = { r with automation := d₄, state := .connected, address := some a } := by
  unfold toConnected
  simp only [bind_ok_iff, install_ok_iff, unlock_ok_iff, importAccount_ok_iff, connect_ok_iff]
  constructor
  · rintro ⟨_, _, ⟨hr, d₁, h₁, rfl⟩, _, _, ⟨_, d₂, h₂, rfl⟩, b, _,
      ⟨_, keys, d₃, hk, rfl, h₃, rfl⟩, _, rfl, d₄, h₄, rfl⟩
    exact ⟨hr, keys, d₁, d₂, d₃, d₄, h₁, h₂, hk, rfl, h₃, h₄, rfl⟩
  · rintro ⟨hr, keys, d₁, d₂, d₃, d₄, h₁, h₂, hk, rfl, h₃, h₄, rfl⟩
    have hf : r.failed = false := hr.1
    refine ⟨(), r.advanced .install d₁, ⟨hr, d₁, h₁, rfl⟩, ?_⟩
    refine ⟨(), (r.advanced .install d₁).advanced .unlock d₂, ⟨⟨hf, rfl⟩, d₂, h₂, rfl⟩, ?_⟩
    refine ⟨keys.address, _, ⟨⟨hf, rfl⟩, keys, d₃, hk, rfl, h₃, rfl⟩, ?_⟩
    exact ⟨⟨hf, rfl⟩, rfl, d₄, h₄, rfl⟩

/-- The log of some requests and of others behind them. -/
lemma serveAll_append (xs ys : List WalletRequest) (r : WalletRun δ) :
    serveAll (xs ++ ys) r =
      ((serveAll xs r).1 ++ (serveAll ys (serveAll xs r).2).1,
        (serveAll ys (serveAll xs r).2).2) := by
  induction xs generalizing r with
  | nil => rfl
  | cons q xs ih =>
    rw [List.cons_append, serveAll, ih]
    rfl

/-- What a run that is ready to connect has behind it: the import of an account, in its log and
with its automation, and the address that was derived for it. -/
def Accounted (d : AccountDeriver) (log : List (WalletRequest × WalletAnswer))
    (r : WalletRun (Recorded δ)) : Prop :=
  ∃ m keys, d.derive m = .ok keys ∧ r.address = some keys.address ∧
    (.importAccount m, .ok (some keys.address)) ∈ log ∧
    .importAccount m (.done keys.address) ∈ r.automation.events

/-- Only an import leaves a run ready to connect. -/
lemma ready_connect_of_serve {r : WalletRun δ} {q} (hok : ∃ x r', (serve q).on r = (.ok x, r'))
    (h : ((serve q).on r).2.Ready .connect) : ∃ m, q = .importAccount m := by
  obtain ⟨x, r', hq⟩ := hok
  rw [hq] at h
  obtain ⟨_, hs⟩ := h
  cases q with
  | install version =>
    obtain ⟨_, r₁, h₁, h₂⟩ := bind_ok_iff.1 hq
    obtain ⟨_, d, _, rfl⟩ := install_ok_iff.1 h₁
    obtain ⟨_, rfl⟩ := pure_ok_iff.1 h₂
    cases hs
  | unlock password =>
    obtain ⟨_, r₁, h₁, h₂⟩ := bind_ok_iff.1 hq
    obtain ⟨_, d, _, rfl⟩ := unlock_ok_iff.1 h₁
    obtain ⟨_, rfl⟩ := pure_ok_iff.1 h₂
    cases hs
  | importAccount m => exact ⟨m, rfl⟩
  | connect app =>
    obtain ⟨_, r₁, h₁, h₂⟩ := bind_ok_iff.1 hq
    obtain ⟨_, _, d, _, rfl⟩ := connect_ok_iff.1 h₁
    obtain ⟨_, rfl⟩ := pure_ok_iff.1 h₂
    cases hs
  | toConnected inputs =>
    obtain ⟨_, r₁, h₁, h₂⟩ := bind_ok_iff.1 hq
    obtain ⟨_, _, _, _, _, _, _, _, _, _, _, _, rfl⟩ := toConnected_ok_iff.1 h₁
    obtain ⟨_, rfl⟩ := pure_ok_iff.1 h₂
    cases hs

/-- A run that is ready to connect is accounted for. -/
lemma accounted_of_ready (a : δ) (d : AccountDeriver) (limit : Nat) (qs : List WalletRequest)
    (h : (serveAll qs (fresh { automation := a : Recorded δ } d limit)).2.Ready .connect) :
    Accounted d (serveAll qs (fresh { automation := a : Recorded δ } d limit)).1
      (serveAll qs (fresh { automation := a : Recorded δ } d limit)).2 := by
  -- from the last request on: only that one can have made the run ready
  induction qs using List.reverseRecOn with
  | nil => cases h.2
  | append_singleton qs q _ =>
    have hr := (InOrder.fresh a d limit).serveAll qs
    generalize hprev : serveAll qs (fresh { automation := a : Recorded δ } d limit) = prev at hr
    rw [serveAll_append, hprev] at h ⊢
    change ((serve q).on prev.2).2.Ready .connect at h
    obtain ⟨_, hfail⟩ := orderly_serve d q prev.2 hr
    cases hq : (serve q).on prev.2 with
    | mk answer r =>
      cases answer with
      -- a request that fails leaves a run that is ready for nothing
      | error e =>
        rw [hq] at h hfail
        exact absurd h (not_ready_of_failed (hfail e rfl))
      | ok x =>
        obtain ⟨m, rfl⟩ := ready_connect_of_serve ⟨x, r, hq⟩ h
        obtain ⟨b, r₁, h₁, h₂⟩ := bind_ok_iff.1 hq
        obtain ⟨_, keys, d', hk, rfl, hop, rfl⟩ := importAccount_ok_iff.1 h₁
        obtain ⟨rfl, rfl⟩ := pure_ok_iff.1 h₂
        rw [hr.deriver] at hk
        refine ⟨m, keys, hk, ?_, ?_, ?_⟩
        · simp only [serveAll, hq]
        · simp only [serveAll, hq]
          exact List.mem_append_right _ (List.mem_singleton.2 rfl)
        · simp only [serveAll, hq]
          have he : d'.events = prev.2.automation.events ++ _ := pass_events hop
          change _ ∈ d'.events
          rw [he]
          exact List.mem_append_right _ (List.mem_singleton.2 rfl)

/-- A run connects to an address only if it has imported an account before, at the same address:
the one derived for that account, which the automation reported at the import and now again. There
is always such an address to compare with. All steps of a fresh run succeed exactly if the
automation does its part and reports the derived address twice. -/
theorem connects_to_imported (a : δ) (d : AccountDeriver) (limit : Nat) :
    (∀ before app b,
      let served : List (WalletRequest × WalletAnswer) × WalletRun (Recorded δ) :=
        serveAll before (fresh { automation := a } d limit)
      let connected := (serve (.connect app)).on served.2
      connected.1 = .ok (some b) →
        ∃ m keys, d.derive m = .ok keys ∧ keys.address = b ∧
          (.importAccount m, .ok (some b)) ∈ served.1 ∧
          .importAccount m (.done b) ∈ served.2.automation.events ∧
          connected.2.automation.events =
            served.2.automation.events ++ [.connect app (.done b)]) ∧
    (∀ before,
      let r : WalletRun (Recorded δ) := (serveAll before (fresh { automation := a } d limit)).2
      r.Ready .connect → ∃ b, r.address = some b) ∧
    (∀ (r r' : WalletRun δ) m b, (importAccount m).on r = (.ok b, r') → r'.address = some b) ∧
    ∀ inputs b,
      ((toConnected inputs).on (fresh a d limit)).1 = .ok b ↔
        ∃ keys a₁ a₂ a₃ a₄,
          WalletAutomation.install inputs.extensionVersion limit a = (.done (), a₁) ∧
          WalletAutomation.unlock inputs.password limit a₁ = (.done true, a₂) ∧
          d.derive inputs.mnemonic = .ok keys ∧ keys.address = b ∧
          WalletAutomation.importAccount inputs.mnemonic limit a₂ = (.done b, a₃) ∧
          WalletAutomation.connect inputs.appUrl limit a₃ = (.done b, a₄) := by
  refine ⟨?_, ?_, ?_, ?_⟩
  · intro before app b served connected hc
    have hq : (serve (.connect app)).on served.2 = (.ok (some b), connected.2) := by
      rw [← hc]
    obtain ⟨b', r', h₁, h₂⟩ := bind_ok_iff.1 hq
    obtain ⟨hb, hr'⟩ := pure_ok_iff.1 h₂
    cases hb
    obtain ⟨hr, he, d', hop, hr₁⟩ := connect_ok_iff.1 h₁
    -- a run that can connect has an import behind it, and has kept its address
    obtain ⟨m, keys, hk, ha, hlog, hev⟩ := accounted_of_ready a d limit before hr
    rw [ha, Option.getD_some] at he
    subst he
    refine ⟨m, keys, hk, rfl, hlog, hev, ?_⟩
    rw [← hr', hr₁]
    exact pass_events hop
  · intro before r hr
    obtain ⟨m, keys, _, ha, _⟩ := accounted_of_ready a d limit before hr
    exact ⟨keys.address, ha⟩
  · intro r r' m b h
    obtain ⟨_, _, d', _, _, _, rfl⟩ := importAccount_ok_iff.1 h
    rfl
  · intro inputs b
    constructor
    · intro h
      have hq : (toConnected inputs).on (fresh a d limit) =
          (.ok b, ((toConnected inputs).on (fresh a d limit)).2) := by
        rw [← h]
      obtain ⟨_, keys, a₁, a₂, a₃, a₄, h₁, h₂, hk, hb, h₃, h₄, _⟩ := toConnected_ok_iff.1 hq
      exact ⟨keys, a₁, a₂, a₃, a₄, h₁, h₂, hk, hb, h₃, h₄⟩
    · rintro ⟨keys, a₁, a₂, a₃, a₄, h₁, h₂, hk, hb, h₃, h₄⟩
      have hr : (fresh a d limit).Ready .install := ⟨rfl, rfl⟩
      rw [toConnected_ok_iff.2 ⟨hr, keys, a₁, a₂, a₃, a₄, h₁, h₂, hk, hb, h₃, h₄, rfl⟩]

end SeedVault.WalletRun
