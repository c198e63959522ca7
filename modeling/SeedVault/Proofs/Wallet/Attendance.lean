import SeedVault.Proofs.Wallet.Agreement
import SeedVault.Proofs.Wallet.Calls
import SeedVault.Proofs.Wallet.Extension

/-!
# The extension is only worked on in a session

A run asks the wallet's extension for nothing but its installation before it is in a session with a
browser (`asks_only_in_session`): `Secured` says what a run knows of the session by its state, and
every call keeps it (`Secured.kept`).
-/

namespace SeedVault

/-- An automation with the calls it got, each with the state it was found in. -/
structure Attended (δ : Type) where
  automation : δ
  found : List (WalletCall × δ) := []

namespace Attended

variable {δ : Type} [WalletAutomation δ]

/-- Notes a call and passes it on. -/
def attend {α : Type} (c : WalletCall) (op : δ → Outcome Report α × δ) (a : Attended δ) :
    Outcome Report α × Attended δ :=
  ((op a.automation).1,
    { automation := (op a.automation).2, found := a.found ++ [(c, a.automation)] })

/-- Each call is noted. -/
instance : WalletAutomation (Attended δ) where
  install version limit := attend (.install version) (WalletAutomation.install version limit)
  unlock password limit := attend (.unlock password) (WalletAutomation.unlock password limit)
  importAccount m limit := attend (.importAccount m) (WalletAutomation.importAccount m limit)
  connect app limit := attend (.connect app) (WalletAutomation.connect app limit)

/-- The automation is asked as it would be alone. -/
lemma ask_eq (c : WalletCall) (limit : Nat) (a : Attended δ) :
    c.ask limit a =
      ((c.ask limit a.automation).1,
        { automation := (c.ask limit a.automation).2
          found := a.found ++ [(c, a.automation)] }) := by
  cases c <;> rfl

end Attended

/-- Every step but the installation starts behind it. -/
lemma WalletStep.source_ne_uninstalled (s : WalletStep) (other : s ≠ .install) :
    s.source ≠ .uninstalled := by
  cases s with
  | install => exact absurd rfl other
  | unlock | importAccount | connect => exact nofun

/-- Behind every step the extension is installed. -/
lemma WalletStep.target_ne_uninstalled (s : WalletStep) : s.target ≠ .uninstalled := by
  cases s <;> exact nofun

namespace WalletExtension

open Browser

/-- In a session of its own, behind requests that were sent before: one request has started the
browser, and all others are commands to it. -/
structure InSession (before : List Request) (d : WalletExtension) : Prop where
  exists_session : ∃ s start rest, d.session = some s ∧
    d.network.requests = before ++ start :: rest ∧ IsStart start ∧ ∀ q ∈ rest, s.browser.IsCommand q

/-- Without a session: at most the request for a browser was sent. -/
structure Unstarted (before : List Request) (d : WalletExtension) : Prop where
  session : d.session = none
  requests : d.network.requests = before ∨
    ∃ start, d.network.requests = before ++ [start] ∧ IsStart start

variable {before : List Request} {d d' : WalletExtension} {limit : Nat} {event : WalletEvent}

/-- An installation begins a session, or it fails. -/
lemma ask_install {version : String} (absent : d.session = none)
    (unsent : d.network.requests = before)
    (asked : (WalletCall.install version).ask limit d = (event, d')) :
    (event.ending = .done () ∧ InSession before d') ∨
      (event.ending ≠ .done () ∧ Unstarted before d' ∧
        ∀ cause, event.ending = .failed cause → cause.OfInstalled) := by
  have started := d.started_installing version (some (d.network.now + limit)) d.network
  have said (e : Report)
      (failed :
        ((d.installing version).on (some (d.network.now + limit)) d.network).1 = .failed e) :
      e.OfInstalled := (d.sends_installing version).errors failed
  change (WalletEvent.install version (install version (some limit) d).1,
    (install version (some limit) d).2) = (event, d') at asked
  unfold install at asked
  rw [work_apply, Option.map_some] at asked
  generalize (d.installing version).on _ d.network = ended at asked started said
  obtain ⟨s | e | _, n⟩ := ended <;> cases asked
  · cases started with
    | asked isStart _ _ sent _ =>
      refine .inl ⟨rfl, ⟨s, _, [], rfl, ?_, isStart, nofun⟩⟩
      exact sent.trans (by rw [unsent])
  · refine .inr ⟨nofun, { session := absent, requests := unsent ▸ started.requests }, ?_⟩
    rintro cause ⟨⟩
    exact said e rfl
  · exact .inr ⟨nofun, { session := absent, requests := unsent ▸ started.requests }, nofun⟩

/-- In a session, a task sends commands to its browser and does not miss the extension. -/
lemma InSession.work {α : Type} {t : WebTask Report α} (h : InSession before d)
    (sends : WebTask.Sends d.Commands d.Complaint t) (deadline : Option Nat) :
    InSession before { d with network := (t.on deadline d.network).2 } ∧
      ∀ cause, (t.on deadline d.network).1 = .failed cause → cause.OfInstalled := by
  obtain ⟨s, start, rest, present, requests, isStart, commands⟩ := h.exists_session
  obtain ⟨qs, grown, each⟩ := (sends.acts deadline).sends d.network
  change _ = d.network.requests ++ qs at grown
  refine ⟨⟨s, start, rest ++ qs, present, ?_, isStart, ?_⟩, ?_⟩
  · exact grown.trans (by rw [requests, List.append_assoc, List.cons_append])
  · intro q mem
    obtain mem | mem := List.mem_append.1 mem
    · exact commands q mem
    · obtain ⟨s', present', command⟩ := each q mem
      rw [present] at present'
      cases present'
      exact command
  · intro cause failed
    refine sends.errors failed ?_
    rw [present]
    rfl

/-- In a session every other step is worked on there. -/
lemma InSession.ask {c : WalletCall} (other : c.step ≠ .install) (h : InSession before d)
    (asked : c.ask limit d = (event, d')) :
    InSession before d' ∧ ∀ cause, event.ending = .failed cause → cause.OfInstalled := by
  cases c with
  | install version => exact absurd rfl other
  | unlock password =>
    obtain ⟨kept, said⟩ := h.work (d.sends_unlocking password) (some (d.network.now + limit))
    change (WalletEvent.unlock password (unlock password (some limit) d).1,
      (unlock password (some limit) d).2) = (event, d') at asked
    unfold unlock at asked
    rw [work_apply, Option.map_some] at asked
    generalize (d.unlocking password).on _ d.network = ended at asked kept said
    obtain ⟨u | e | _, n⟩ := ended
    · cases u with
      | accepted | rejected =>
        cases asked
        exact ⟨kept, nofun⟩
      | fresh =>
        cases asked
        exact ⟨⟨kept.exists_session⟩, nofun⟩
    · cases asked
      exact ⟨kept, fun cause failed => said cause (Outcome.ending_eq_failed.1 failed)⟩
    · cases asked
      exact ⟨kept, nofun⟩
  | importAccount m =>
    obtain ⟨kept, said⟩ := h.work (d.sends_importing m) (some (d.network.now + limit))
    cases asked
    exact ⟨kept, fun cause failed => said cause (Outcome.ending_eq_failed.1 failed)⟩
  | connect app =>
    obtain ⟨kept, said⟩ := h.work (d.sends_connecting app) (some (d.network.now + limit))
    cases asked
    exact ⟨kept, fun cause failed => said cause (Outcome.ending_eq_failed.1 failed)⟩

end WalletExtension

namespace WalletRun

open Browser WalletExtension

/-- A report of a step does not miss the extension if its cause does not. -/
lemma ofInstalled_report {e : StepError} (h : e.cause.OfInstalled) : e.report.OfInstalled := by
  refine Report.ofInstalled_cons (by simp) ?_
  split
  · exact h
  · exact Report.ofInstalled_cons (by simp) h

/-- An error of the derivation does not miss the extension. -/
lemma ofInstalled_ofDerive (e : DeriveError) : (Report.ofDerive e).OfInstalled := by
  unfold Report.OfInstalled Report.ofDerive
  split <;> simp

/-- What a run knows of the session: nothing has been sent before the installation, there is a
session behind it while the run has not failed, and no other step was begun without one. -/
structure Secured (before : List Request) (r : WalletRun (Attended WalletExtension)) : Prop where
  found : ∀ x ∈ r.automation.found, x.1.step ≠ .install → x.2.session.isSome
  untouched : r.failed = false → r.state = .uninstalled →
    r.automation.automation.session = none ∧ r.automation.automation.network.requests = before
  inSession : r.failed = false → r.state ≠ .uninstalled → InSession before r.automation.automation
  sessions : Unstarted before r.automation.automation ∨ InSession before r.automation.automation

/-- An answer does not miss the extension. -/
def Uncomplaining (x : WalletAnswer) : Prop := ∀ e, x = .error e → e.report.OfInstalled

/-- What a run knows of the session behind the work of one step. -/
structure Asked (before : List Request) (event : WalletEvent) (a : Attended WalletExtension) :
    Prop where
  found : ∀ x ∈ a.found, x.1.step ≠ .install → x.2.session.isSome
  done : event.ending = .done () → InSession before a.automation
  sessions : Unstarted before a.automation ∨ InSession before a.automation
  failed : ∀ cause, event.ending = .failed cause → cause.OfInstalled

section Steps

variable {before : List Request} {r r' : WalletRun (Attended WalletExtension)} {c : WalletCall}

/-- A run begins with an extension that has sent nothing. -/
lemma Secured.fresh {d : WalletExtension} (absent : d.session = none) (deriver : AccountDeriver)
    (limit : Nat) :
    Secured d.network.requests
      (fresh { automation := d : Attended WalletExtension } deriver limit) where
  found _ mem := absurd mem List.not_mem_nil
  untouched _ _ := ⟨absent, rfl⟩
  inSession _ begun := absurd rfl begun
  sessions := .inl { session := absent, requests := .inl rfl }

/-- One more call that was found in a session, or installs, is like those before. -/
lemma found_append {found : List (WalletCall × WalletExtension)} {d : WalletExtension}
    (h : ∀ x ∈ found, x.1.step ≠ .install → x.2.session.isSome)
    (now : c.step ≠ .install → d.session.isSome) :
    ∀ x ∈ found ++ [(c, d)], x.1.step ≠ .install → x.2.session.isSome := by
  intro x mem other
  obtain mem | mem := List.mem_append.1 mem
  · exact h x mem other
  · cases List.mem_singleton.1 mem
    exact now other

/-- A step in turn is begun in a session, unless it is the installation, which begins one. -/
lemma Secured.asked (h : Secured before r) (ready : r.Ready c.step) {event a}
    (ask : c.ask r.limit r.automation = (event, a)) : Asked before event a := by
  obtain ⟨running, state⟩ := ready
  rw [Attended.ask_eq] at ask
  cases alone : c.ask r.limit r.automation.automation with
  | mk event' d =>
    rw [alone] at ask
    cases ask
    by_cases first : c.step = .install
    -- nothing has been sent before an installation in turn, whatever came before
    · have found :=
        found_append (d := r.automation.automation) h.found fun other => absurd first other
      rw [first] at state
      obtain ⟨absent, unsent⟩ := h.untouched running state
      cases c with
      | install version =>
        obtain ⟨done, inSession⟩ | ⟨undone, unstarted, said⟩ := ask_install absent unsent alone
        · exact { found, done := fun _ => inSession, sessions := .inr inSession,
                  failed := fun cause failed => by rw [done] at failed; cases failed }
        · exact { found, done := fun done => absurd done undone, sessions := .inl unstarted,
                  failed := said }
      | unlock _ | importAccount _ | connect _ => cases first
    · have inSession := h.inSession running (state ▸ c.step.source_ne_uninstalled first)
      obtain ⟨s, _, _, present, _⟩ := inSession.exists_session
      obtain ⟨kept, said⟩ := inSession.ask first alone
      exact { found := found_append h.found fun _ => by rw [present]; rfl
              done := fun _ => kept, sessions := .inr kept, failed := said }

/-- A run that fails knows of the session what its automation knows. -/
lemma Secured.broken {a : Attended WalletExtension}
    (found : ∀ x ∈ a.found, x.1.step ≠ .install → x.2.session.isSome)
    (sessions : Unstarted before a.automation ∨ InSession before a.automation) :
    Secured before (r.broken a) where
  found := found
  untouched running := by cases running
  inSession running := by cases running
  sessions := sessions

/-- A step that has done its work has a session behind it. -/
lemma Secured.advanced {event} {a : Attended WalletExtension} (h : Asked before event a)
    (done : event.ending = .done ()) (s : WalletStep) (address : Option String) :
    Secured before { r.advanced s a with address } where
  found := h.found
  untouched _ uninstalled := absurd uninstalled s.target_ne_uninstalled
  inSession _ _ := h.done done
  sessions := h.sessions

/-- An answer whose error has no cause does not miss the extension. -/
lemma uncomplaining_error {e : StepError} (h : e.cause.OfInstalled) :
    Uncomplaining (.error e) := by
  rintro _ ⟨⟩
  exact ofInstalled_report h

/-- Every call keeps what a run knows of the session, and does not miss the extension. -/
lemma Secured.kept (h : Secured before r) {es x} (way : Told r c es x r') :
    Secured before r' ∧ Uncomplaining x := by
  cases way with
  | refused _ =>
    exact ⟨.broken h.found h.sessions, uncomplaining_error Report.ofInstalled_nil⟩
  | underived _ _ =>
    exact ⟨.broken h.found h.sessions, uncomplaining_error (ofInstalled_ofDerive _)⟩
  | failed ready _ ask ending =>
    have behind := h.asked ready ask
    exact ⟨.broken behind.found behind.sessions, uncomplaining_error (behind.failed _ ending)⟩
  | expired ready _ ask _ =>
    have behind := h.asked ready ask
    exact ⟨.broken behind.found behind.sessions, uncomplaining_error Report.ofInstalled_nil⟩
  | rejected ready ask =>
    have behind := h.asked (c := .unlock _) ready ask
    exact ⟨.broken behind.found behind.sessions, uncomplaining_error Report.ofInstalled_nil⟩
  | misimported ready _ ask _ =>
    have behind := h.asked (c := .importAccount _) ready ask
    exact ⟨.broken behind.found behind.sessions, uncomplaining_error Report.ofInstalled_nil⟩
  | misconnected ready ask _ =>
    have behind := h.asked (c := .connect _) ready ask
    exact ⟨.broken behind.found behind.sessions, uncomplaining_error Report.ofInstalled_nil⟩
  | installed ready ask =>
    exact ⟨.advanced (h.asked (c := .install _) ready ask) rfl .install r.address, nofun⟩
  | unlocked ready ask =>
    exact ⟨.advanced (h.asked (c := .unlock _) ready ask) rfl .unlock r.address, nofun⟩
  | imported ready _ ask =>
    exact ⟨.advanced (h.asked (c := .importAccount _) ready ask) rfl .importAccount _, nofun⟩
  | connected ready ask =>
    exact ⟨.advanced (h.asked (c := .connect _) ready ask) rfl .connect r.address, nofun⟩

/-- What has been sent is the request for a browser, if anything, and commands to it. -/
lemma Secured.exists_sent (h : Secured before r) :
    ∃ sent, r.automation.automation.network.requests = before ++ sent ∧
      ∀ q ∈ sent.head?, IsStart q ∧ ∀ q' ∈ sent.tail, ¬ q'.StartsBrowser ∧
        ∃ s, r.automation.automation.session = some s ∧ s.browser.IsCommand q' := by
  obtain unstarted | inSession := h.sessions
  · obtain unsent | ⟨start, sent, isStart⟩ := unstarted.requests
    · exact ⟨[], unsent.trans (List.append_nil _).symm, nofun⟩
    · refine ⟨[start], sent, ?_⟩
      rintro q ⟨⟩
      exact ⟨isStart, nofun⟩
  · obtain ⟨s, start, rest, present, sent, isStart, commands⟩ := inSession.exists_session
    refine ⟨start :: rest, sent, ?_⟩
    rintro q ⟨⟩
    exact ⟨isStart, fun q mem => ⟨(commands q mem).body, s, present, commands q mem⟩⟩

/-- Single calls keep what a run knows of the session. -/
lemma Secured.kept_request (c : WalletCall) (r : WalletRun (Attended WalletExtension))
    (h : Secured before r) :
    Secured before ((serve c.request).on r).2 ∧ Uncomplaining ((serve c.request).on r).1 := by
  obtain ⟨es, way⟩ := told r c
  exact h.kept way

/-- Behind all steps together there is a session. -/
lemma Secured.isSome_session {inputs : WalletInputs} {address : String} (h : Secured before r)
    (connected : ((toConnected inputs).on r).1 = .ok address) :
    ((toConnected inputs).on r).2.automation.automation.session.isSome := by
  obtain ⟨behind, _⟩ := kept_serve kept_request (.toConnected inputs) h
  rw [serve_toConnected_apply] at behind
  have all : (toConnected inputs).on r = (.ok address, ((toConnected inputs).on r).2) := by
    rw [← connected]
  obtain ⟨ready, _, _, _, _, d₄, _, _, _, _, _, _, same⟩ := toConnected_ok_iff.1 all
  rw [same] at behind ⊢
  obtain ⟨s, _, _, present, _⟩ := (behind.inSession ready.1 nofun).exists_session
  exact Option.isSome_iff_exists.2 ⟨s, present⟩

end Steps

/-- A run never works on an extension that is not there: whatever is asked of a run over an
extension that has just been set up, and whatever its network answers, every step but the
installation finds the extension in a session, and no error misses it. The first request that is
sent is the one that starts the browser, no other one starts any, and all others are commands to
that browser. Behind all steps together there is a session. -/
theorem asks_only_in_session (settings : ExtensionSettings) (files : Directory)
    (current : List String) (network : Network) (d : AccountDeriver) (limit : Nat)
    (qs : List WalletRequest) :
    let extension : WalletExtension := { settings, files, current, network }
    let served := serveAll qs (fresh { automation := extension : Attended WalletExtension } d limit)
    let used := served.2.automation.automation
    (∀ x ∈ served.2.automation.found, x.1.step ≠ .install → x.2.session.isSome) ∧
      (∀ x ∈ served.1, ∀ e, x.2 = .error e →
        .note "extension is not installed" ∉ e.report) ∧
      (∃ sent, used.network.requests = network.requests ++ sent ∧
        ∀ q ∈ sent.head?, IsStart q ∧ ∀ q' ∈ sent.tail, ¬ q'.StartsBrowser ∧
          ∃ s, used.session = some s ∧ s.browser.IsCommand q') ∧
      ∀ inputs address, ((toConnected inputs).on served.2).1 = .ok address →
        ((toConnected inputs).on served.2).2.automation.automation.session.isSome := by
  intro extension served used
  have begun : Secured network.requests (fresh { automation := extension } d limit) :=
    Secured.fresh (d := extension) rfl d limit
  obtain ⟨secured, said⟩ := kept_serveAll Secured.kept_request qs begun
  exact ⟨secured.found, said, secured.exists_sent, fun _ _ => secured.isSome_session⟩

end WalletRun

end SeedVault
