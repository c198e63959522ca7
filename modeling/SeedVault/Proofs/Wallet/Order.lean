import Mathlib.Data.List.Induction
import SeedVault.Proofs.Wallet.Steps

/-!
# The order of a wallet's steps

`Progress` says what a recorded run that has not failed can have behind it, state by state: which
calls the automation got and what it answered. Every request keeps it (`InOrder.serve`). So the
automation is called step by step, each step at most once and none left out, and not at all after
the first failure (`serves_in_order`).
-/

namespace SeedVault

/-- The steps in their order. -/
def WalletStep.order : List WalletStep := [install, unlock, importAccount, connect]

/-- The steps that lead to a state. -/
def WalletState.behind : WalletState → List WalletStep
  | uninstalled => []
  | installed => [.install]
  | unlocked => [.install, .unlock]
  | imported => [.install, .unlock, .importAccount]
  | connected => [.install, .unlock, .importAccount, .connect]

/-- What a run has behind it that has not failed: the address it holds and the events of its
automation. -/
inductive Progress (d : AccountDeriver) :
    WalletState → Option String → List WalletEvent → Prop where
  | uninstalled :
    Progress d .uninstalled none []
  | installed {a es} (version) :
    Progress d .uninstalled a es →
    Progress d .installed a (es ++ [.install version (.done ())])
  | unlocked {a es} (password) :
    Progress d .installed a es →
    Progress d .unlocked a (es ++ [.unlock password (.done true)])
  | imported {a es m keys} :
    Progress d .unlocked a es →
    d.derive m = .ok keys →
    Progress d .imported (some keys.address) (es ++ [.importAccount m (.done keys.address)])
  | connected {a es} (app) :
    Progress d .imported (some a) es →
    Progress d .connected (some a) (es ++ [.connect app (.done a)])

/-- The steps that events are about. -/
def WalletEvent.steps (es : List WalletEvent) : List WalletStep := es.map fun e => e.call.step

/-- The events of a run that has not failed are about the steps that lead to its state. -/
lemma Progress.steps {d s a es} (h : Progress d s a es) : WalletEvent.steps es = s.behind := by
  induction h with
  | uninstalled => rfl
  | installed _ _ ih | unlocked _ _ ih | imported _ _ ih | connected _ _ ih =>
    unfold WalletEvent.steps at ih ⊢
    rw [List.map_append, ih]
    rfl

/-- Progress up to the import has left an address. -/
lemma Progress.address {d a es} (h : Progress d .imported a es) : ∃ b, a = some b := by
  cases h with
  | imported => exact ⟨_, rfl⟩

/-- A step comes right behind those that lead to its source. -/
lemma WalletStep.behind_source (s : WalletStep) : s.source.behind ++ [s] <+: order := by
  cases s <;> decide

namespace WalletRun

variable {δ α β : Type}

/-- A recorded run in order: the calls of its automation are the first steps, and if it has not
failed there is `Progress`. -/
structure InOrder (d : AccountDeriver) (r : WalletRun (Recorded δ)) : Prop where
  deriver : r.deriver = d
  steps : WalletEvent.steps r.automation.events <+: WalletStep.order
  progress : r.failed = false → Progress d r.state r.address r.automation.events

/-- A run begins in order. -/
lemma InOrder.fresh (a : δ) (d : AccountDeriver) (limit : Nat) :
    InOrder d (fresh { automation := a : Recorded δ } d limit) :=
  { deriver := rfl, steps := List.nil_prefix, progress := fun _ => .uninstalled }

/-- Something to do that keeps a run in order, and marks it as failed if it fails. -/
def Orderly (d : AccountDeriver) (act : RunStep (Recorded δ) α) : Prop :=
  ∀ r, InOrder d r →
    InOrder d (act.on r).2 ∧ ∀ e, (act.on r).1 = .error e → (act.on r).2.failed = true

/-- Giving a value is orderly. -/
lemma Orderly.pure {d} (a : α) : Orderly d (pure a : RunStep (Recorded δ) α) :=
  fun _ h => ⟨h, nofun⟩

/-- One orderly thing after another is orderly. -/
lemma Orderly.bind {d} {act : RunStep (Recorded δ) α} {next : α → RunStep (Recorded δ) β}
    (h : Orderly d act) (hn : ∀ a, Orderly d (next a)) : Orderly d (act >>= next) := by
  intro r hr
  obtain ⟨ho, he⟩ := h r hr
  rw [bind_apply]
  cases hact : act.on r with
  | mk res r' =>
    rw [hact] at ho he
    cases res with
    | ok a => exact hn a r' ho
    | error e => exact ⟨ho, fun _ _ => he e rfl⟩

/-- A step that fails without a call leaves the run in order. -/
lemma InOrder.uncalled {d} {r : WalletRun (Recorded δ)} (h : InOrder d r) :
    InOrder d (r.broken r.automation) :=
  { deriver := h.deriver, steps := h.steps, progress := nofun }

/-- There is progress behind a run that is ready for a step. -/
lemma InOrder.ready {d} {r : WalletRun (Recorded δ)} {s} (h : InOrder d r) (hr : r.Ready s) :
    Progress d s.source r.address r.automation.events := by
  obtain ⟨hf, hs⟩ := hr
  rw [← hs]
  exact h.progress hf

/-- The calls stay in order with one for a step in turn. -/
lemma InOrder.called {d} {r : WalletRun (Recorded δ)} {s} (h : InOrder d r) (hr : r.Ready s)
    {e : WalletEvent} (he : e.call.step = s) :
    WalletEvent.steps (r.automation.events ++ [e]) <+: WalletStep.order := by
  have hb := (h.ready hr).steps
  unfold WalletEvent.steps at hb ⊢
  rw [List.map_append, hb, List.map_singleton, he]
  exact s.behind_source

/-- A step in turn that fails after its call leaves the run in order. -/
lemma InOrder.broken {d} {r : WalletRun (Recorded δ)} {s} (h : InOrder d r) (hr : r.Ready s)
    (e : WalletEvent) (he : e.call.step = s) (a : δ) :
    InOrder d (r.broken { automation := a, events := r.automation.events ++ [e] }) :=
  { deriver := h.deriver, steps := h.called hr he, progress := nofun }

/-- A recorded call. -/
lemma pass_apply {event : Outcome Report α → WalletEvent} {op : δ → Outcome Report α × δ}
    {r : Recorded δ} {outcome a} (h : op r.automation = (outcome, a)) :
    Recorded.pass event op r =
      (outcome, { automation := a, events := r.events ++ [event outcome] }) := by
  unfold Recorded.pass
  rw [h]

/-- The event of a recorded call. -/
lemma pass_events {event : Outcome Report α → WalletEvent} {op : δ → Outcome Report α × δ}
    {r r' : Recorded δ} {outcome} (h : Recorded.pass event op r = (outcome, r')) :
    r'.events = r.events ++ [event outcome] := by
  cases h
  rfl

variable [WalletAutomation δ]

/-- An installation is orderly. -/
lemma orderly_install (d : AccountDeriver) (version : String) :
    Orderly d (install version : RunStep (Recorded δ) Unit) := by
  intro r h
  by_cases hr : r.Ready .install
  · rw [install_ready hr]
    cases hop : WalletAutomation.install version r.limit r.automation.automation with
    | mk outcome a =>
      rw [show WalletAutomation.install version r.limit r.automation = _ from pass_apply hop]
      cases outcome with
      | done u =>
        refine ⟨?_, nofun⟩
        exact { deriver := h.deriver, steps := h.called hr rfl,
                progress := fun _ => .installed version (h.ready hr) }
      | failed cause => exact ⟨h.broken hr _ rfl a, fun _ _ => rfl⟩
      | expired => exact ⟨h.broken hr _ rfl a, fun _ _ => rfl⟩
  -- a step out of turn: no call is made
  · rw [show (install version).on r = _ from refused _ hr]
    exact ⟨h.uncalled, fun _ _ => rfl⟩

/-- An unlocking is orderly. -/
lemma orderly_unlock (d : AccountDeriver) (password : String) :
    Orderly d (unlock password : RunStep (Recorded δ) Unit) := by
  intro r h
  by_cases hr : r.Ready .unlock
  · rw [unlock_ready hr]
    cases hop : WalletAutomation.unlock password r.limit r.automation.automation with
    | mk outcome a =>
      rw [show WalletAutomation.unlock password r.limit r.automation = _ from pass_apply hop]
      cases outcome with
      | done unlocked =>
        cases unlocked with
        | true =>
          refine ⟨?_, nofun⟩
          exact { deriver := h.deriver, steps := h.called hr rfl,
                  progress := fun _ => .unlocked password (h.ready hr) }
        -- the state is set back, but the call has been made
        | false => exact ⟨h.broken hr _ rfl a, fun _ _ => rfl⟩
      | failed cause => exact ⟨h.broken hr _ rfl a, fun _ _ => rfl⟩
      | expired => exact ⟨h.broken hr _ rfl a, fun _ _ => rfl⟩
  · rw [show (unlock password).on r = _ from refused _ hr]
    exact ⟨h.uncalled, fun _ _ => rfl⟩

/-- An import is orderly. -/
lemma orderly_importAccount (d : AccountDeriver) (m : Mnemonic) :
    Orderly d (importAccount m : RunStep (Recorded δ) String) := by
  intro r h
  by_cases hr : r.Ready .importAccount
  · cases hk : r.deriver.derive m with
    -- without an address to compare with no call is made
    | error e =>
      rw [importAccount_underived hr m hk]
      exact ⟨h.uncalled, fun _ _ => rfl⟩
    | ok keys =>
      rw [importAccount_ready hr m hk]
      cases hop : WalletAutomation.importAccount m r.limit r.automation.automation with
      | mk outcome a =>
        rw [show WalletAutomation.importAccount m r.limit r.automation = _ from pass_apply hop]
        cases outcome with
        | done b =>
          by_cases hb : b = keys.address
          · subst hb
            rw [h.deriver] at hk
            simp only [if_pos]
            refine ⟨?_, nofun⟩
            exact { deriver := h.deriver, steps := h.called hr rfl,
                    progress := fun _ => .imported (h.ready hr) hk }
          · simp only [if_neg hb]
            exact ⟨h.broken hr _ rfl a, fun _ _ => rfl⟩
        | failed cause => exact ⟨h.broken hr _ rfl a, fun _ _ => rfl⟩
        | expired => exact ⟨h.broken hr _ rfl a, fun _ _ => rfl⟩
  · rw [show (importAccount m).on r = _ from refused _ hr]
    exact ⟨h.uncalled, fun _ _ => rfl⟩

/-- A connection is orderly. -/
lemma orderly_connect (d : AccountDeriver) (app : Url) :
    Orderly d (connect app : RunStep (Recorded δ) String) := by
  intro r h
  by_cases hr : r.Ready .connect
  · rw [connect_ready hr]
    cases hop : WalletAutomation.connect app r.limit r.automation.automation with
    | mk outcome a =>
      rw [show WalletAutomation.connect app r.limit r.automation = _ from pass_apply hop]
      have hp := h.ready hr
      -- the address held since the import, so the default is not reached
      obtain ⟨expected, he⟩ := hp.address
      rw [he] at hp ⊢
      cases outcome with
      | done b =>
        by_cases hb : b = expected
        · subst hb
          simp only [Option.getD_some, if_pos]
          refine ⟨?_, nofun⟩
          exact { deriver := h.deriver, steps := h.called hr rfl,
                  progress := fun _ => he ▸ .connected app hp }
        · simp only [Option.getD_some, if_neg hb]
          exact ⟨h.broken hr _ rfl a, fun _ _ => rfl⟩
      | failed cause => exact ⟨h.broken hr _ rfl a, fun _ _ => rfl⟩
      | expired => exact ⟨h.broken hr _ rfl a, fun _ _ => rfl⟩
  · rw [show (connect app).on r = _ from refused _ hr]
    exact ⟨h.uncalled, fun _ _ => rfl⟩

/-- Every request is served in an orderly way. -/
lemma orderly_serve (d : AccountDeriver) (q : WalletRequest) :
    Orderly d (serve q : RunStep (Recorded δ) (Option String)) := by
  cases q with
  | install version => exact (orderly_install d version).bind fun _ => .pure _
  | unlock password => exact (orderly_unlock d password).bind fun _ => .pure _
  | importAccount m => exact (orderly_importAccount d m).bind fun _ => .pure _
  | connect app => exact (orderly_connect d app).bind fun _ => .pure _
  | toConnected inputs =>
    refine Orderly.bind ?_ fun _ => .pure _
    refine (orderly_install d inputs.extensionVersion).bind fun _ => ?_
    refine (orderly_unlock d inputs.password).bind fun _ => ?_
    refine (orderly_importAccount d inputs.mnemonic).bind fun _ => ?_
    exact orderly_connect d inputs.appUrl

/-- Requests leave a run in order. -/
lemma InOrder.serveAll {d} (qs : List WalletRequest) {r : WalletRun (Recorded δ)}
    (h : InOrder d r) : InOrder d (serveAll qs r).2 := by
  induction qs generalizing r with
  | nil => exact h
  | cons q qs ih => exact ih (orderly_serve d q r h).1

/-- A run that has failed refuses every request and stays as it is. -/
lemma serve_failed {r : WalletRun δ} (h : r.failed = true) (q : WalletRequest) :
    ∃ e, (serve q).on r = (.error e, r) ∧ e.fault = .invalidTransition := by
  have hb : r.broken r.automation = r := by
    unfold broken
    rw [← h]
  have hn : ∀ s, ¬ r.Ready s := fun _ => not_ready_of_failed h
  cases q with
  | install version =>
    refine ⟨r.errorAt .install .invalidTransition, ?_, rfl⟩
    rw [serve, bind_apply, show (install version).on r = _ from refused _ (hn _), hb]
  | unlock password =>
    refine ⟨r.errorAt .unlock .invalidTransition, ?_, rfl⟩
    rw [serve, bind_apply, show (unlock password).on r = _ from refused _ (hn _), hb]
  | importAccount m =>
    refine ⟨r.errorAt .importAccount .invalidTransition, ?_, rfl⟩
    rw [serve, bind_apply, show (importAccount m).on r = _ from refused _ (hn _), hb]
  | connect app =>
    refine ⟨r.errorAt .connect .invalidTransition, ?_, rfl⟩
    rw [serve, bind_apply, show (connect app).on r = _ from refused _ (hn _), hb]
  | toConnected inputs =>
    refine ⟨r.errorAt .install .invalidTransition, ?_, rfl⟩
    rw [serve, bind_apply, toConnected, bind_apply,
      show (install inputs.extensionVersion).on r = _ from refused _ (hn _), hb]

/-- A run that has failed refuses all requests and stays as it is. -/
lemma serveAll_failed (qs : List WalletRequest) {r : WalletRun δ} (h : r.failed = true) :
    (serveAll qs r).2 = r ∧
      ∀ x ∈ (serveAll qs r).1, ∃ e, x.2 = .error e ∧ e.fault = .invalidTransition := by
  induction qs with
  | nil =>
    rw [serveAll]
    exact ⟨rfl, fun _ hx => absurd hx List.not_mem_nil⟩
  | cons q qs ih =>
    obtain ⟨e, he, hf⟩ := serve_failed h q
    obtain ⟨hr, hlog⟩ := ih
    unfold serveAll
    rw [he]
    refine ⟨hr, ?_⟩
    intro x hx
    cases hx with
    | head => exact ⟨e, rfl, hf⟩
    | tail _ hx => exact hlog x hx

/-- Whatever is asked of a run and whatever its automation answers, the automation is called step
by step, each step at most once and none left out. After the first request that fails it is not
called again, the state does not change, and every request is refused. -/
theorem serves_in_order (a : δ) (d : AccountDeriver) (limit : Nat)
    (before after : List WalletRequest) (q : WalletRequest) :
    let r : WalletRun (Recorded δ) := (serveAll before (fresh { automation := a } d limit)).2
    let r₁ := ((serve q).on r).2
    let r₂ := (serveAll after r₁).2
    r₂.automation.calls.map WalletCall.step <+: [.install, .unlock, .importAccount, .connect] ∧
      ∀ e, ((serve q).on r).1 = .error e →
        r₂.automation = r₁.automation ∧ r₂.state = r₁.state ∧
          ∀ x ∈ (serveAll after r₁).1, ∃ e, x.2 = .error e ∧ e.fault = .invalidTransition := by
  intro r r₁ r₂
  have hr : InOrder d r := (InOrder.fresh a d limit).serveAll before
  obtain ⟨h₁, hfail⟩ := orderly_serve d q r hr
  have h₂ : InOrder d r₂ := h₁.serveAll after
  refine ⟨?_, ?_⟩
  · have hs := h₂.steps
    unfold WalletEvent.steps at hs
    unfold Recorded.calls
    rw [List.map_map]
    exact hs
  · intro e he
    obtain ⟨hsame, hlog⟩ := serveAll_failed after (hfail e he)
    have hsame : r₂ = r₁ := hsame
    rw [hsame]
    exact ⟨rfl, rfl, hlog⟩

end WalletRun

end SeedVault
