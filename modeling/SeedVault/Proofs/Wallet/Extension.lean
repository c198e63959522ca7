import SeedVault.Proofs.Browser.Client
import SeedVault.Wallet.Extension

/-!
# What the wallet's extension is sent

The steps of the extension after its installation send commands to the browser it is in, and nothing
else (`WalletExtension.Commands`); they never complain of a missing extension while there is that
browser (`Complaint`). The installation sends the one request that starts the browser.
-/

namespace SeedVault

/-- The report does not say that the extension is missing. -/
def Report.OfInstalled (r : Report) : Prop := .note "extension is not installed" ∉ r

namespace Report

/-- An empty report is no complaint. -/
lemma ofInstalled_nil : OfInstalled [] := List.not_mem_nil

/-- A report is no complaint if neither its first cause nor the others are. -/
lemma ofInstalled_cons {cause : Cause} {r : Report}
    (first : cause ≠ .note "extension is not installed")
    (others : r.OfInstalled) : OfInstalled (cause :: r) :=
  List.not_mem_cons_of_ne_of_not_mem first.symm others

/-- A text that starts with another one is not the complaint if that one is no start of it. -/
lemma note_ne {start rest : String} (h : ¬ start.toList <+: "extension is not installed".toList) :
    Cause.note (start ++ rest) ≠ .note "extension is not installed" := by
  intro same
  refine h ?_
  rw [← Cause.note.inj same, String.toList_append]
  exact List.prefix_append _ _

/-- A failing command says nothing of the extension. -/
lemma ofInstalled_ofWeb (e : WebError) : (ofWeb e).OfInstalled := by
  unfold OfInstalled
  cases e <;> simp [ofWeb]

/-- A note on what was being done is no complaint. -/
lemma ofInstalled_noting {ε α : Type} {note : String} {report : ε → Report} {x : Except ε α}
    {r : Report} (first : Cause.note note ≠ .note "extension is not installed")
    (others : ∀ e, (report e).OfInstalled) (failed : noting note report x = .error r) :
    r.OfInstalled := by
  obtain ⟨e, _, rfl⟩ := Attempt.error_mapError_iff.1 failed
  exact ofInstalled_cons first (others e)

end Report

/-- A task of the browser, with its errors as reports. -/
lemma Browser.sends_reporting {P : Request → Prop} {α : Type} {t : WebTask WebError α}
    (h : WebTask.Sends P AnyError t) : WebTask.Sends P Report.OfInstalled t.reporting :=
  h.mapError fun e _ => Report.ofInstalled_ofWeb e

namespace ExtensionSession

open Browser

variable (s : ExtensionSession)

/-- A wait for an element sends commands. -/
lemma sends_wait (limit : Nat) (selector : String) :
    WebTask.Sends s.browser.IsCommand Report.OfInstalled (s.wait limit selector) :=
  sends_reporting (s.browser.sends_await _ limit)

/-- A click sends commands. -/
lemma sends_click (limit : Nat) (selector : String) :
    WebTask.Sends s.browser.IsCommand Report.OfInstalled (s.click limit selector) :=
  (s.sends_wait limit selector).bind fun e => sends_reporting (s.browser.sends_click e)

/-- Filling in a field sends commands. -/
lemma sends_fillIn (limit : Nat) (selector text : String) :
    WebTask.Sends s.browser.IsCommand Report.OfInstalled (s.fillIn limit selector text) :=
  (s.sends_wait limit selector).bind fun e => sends_reporting (s.browser.sends_sendKeys e text)

/-- The search for one of several elements sends commands. -/
lemma sends_findAny (selectors : List String) (index : Nat) :
    WebTask.Sends s.browser.IsCommand AnyError (s.findAny index selectors) := by
  induction selectors generalizing index with
  | nil => exact .done _
  | cons selector others ih =>
    refine WebTask.Sends.bind (s.browser.sends_find? _) fun found => ?_
    cases found with
    | some e => exact .done _
    | none => exact ih (index + 1)

/-- The wait for one of several elements sends commands. -/
lemma sends_awaitAny (limit : Nat) (selectors : List String) :
    WebTask.Sends s.browser.IsCommand Report.OfInstalled (s.awaitAny limit selectors) := by
  refine WebTask.Sends.bind (sends_reporting ((s.sends_findAny selectors 0).poll limit))
    fun found => ?_
  cases found with
  | some index => exact .done _
  | none =>
    refine .fail (Report.ofInstalled_cons ?_ Report.ofInstalled_nil)
    rw [String.append_assoc]
    exact Report.note_ne (by decide)

/-- Typing words sends commands. -/
lemma sends_typeWords (words : List (Element × String)) :
    WebTask.Sends s.browser.IsCommand Report.OfInstalled (s.typeWords words) := by
  induction words with
  | nil => exact .done _
  | cons word others ih =>
    exact WebTask.Sends.bind (sends_reporting (s.browser.sends_sendKeys word.1 word.2)) fun _ => ih

/-- Setting a password sends commands. -/
lemma sends_setPassword (limit : Nat) (sel : WalletSelectors) (password : String) :
    WebTask.Sends s.browser.IsCommand Report.OfInstalled (s.setPassword limit sel password) :=
  (s.sends_fillIn limit _ _).bind fun _ => (s.sends_fillIn limit _ _).bind fun _ =>
    s.sends_fillIn limit _ _

end ExtensionSession

namespace UnpackedExtension

/-- A manifest that cannot be read is no complaint of a missing extension. -/
lemma ofInstalled_readManifest {content : Except IoError String} {r : Report}
    (failed : readManifest content = .error r) : r.OfInstalled := by
  cases content with
  | error e =>
    cases failed
    simp [Report.OfInstalled]
  | ok text =>
    unfold readManifest at failed
    simp only at failed
    split at failed
    · cases failed
      simp [Report.OfInstalled]
    · cases failed

/-- A version that is not found is no complaint of a missing extension. -/
lemma ofInstalled_locate {tree : Directory} {current directory name version} {r : Report}
    (failed : locate tree current directory name version = .error r) : r.OfInstalled := by
  unfold locate at failed
  simp only [Attempt.error_bind_iff] at failed
  obtain missing | ⟨_, _, unopened | ⟨_, _, unread | ⟨_, _, other⟩⟩⟩ := failed
  · exact Report.ofInstalled_noting (Report.note_ne (by decide)) (by simp [Report.OfInstalled])
      missing
  · obtain ⟨e, _, rfl⟩ := Attempt.error_mapError_iff.1 unopened
    simp [Report.OfInstalled]
  · exact ofInstalled_readManifest unread
  · split at other
    · cases other
    · cases other
      refine Report.ofInstalled_cons ?_ Report.ofInstalled_nil
      simp only [String.append_assoc]
      exact Report.note_ne (by decide)

/-- A name that cannot be made is no complaint of a missing extension. -/
lemma ofInstalled_id {b : UnpackedExtension} {r : Report} (failed : b.id = .error r) :
    r.OfInstalled := by
  unfold id at failed
  simp only [Attempt.error_bind_iff] at failed
  obtain unread | ⟨_, _, failed⟩ := failed
  · exact Report.ofInstalled_noting (by simp) (by simp [Report.OfInstalled]) unread
  · cases failed

end UnpackedExtension

namespace WalletExtension

open Browser

variable (d : WalletExtension)

/-- A command to the browser that the extension is in. -/
def Commands (q : Request) : Prop := ∃ s, d.session = some s ∧ s.browser.IsCommand q

/-- A report that does not miss the extension while it is there. -/
def Complaint (r : Report) : Prop := d.session.isSome → r.OfInstalled

/-- What is done in the extension's session sends commands to its browser. -/
lemma sends_needSession {α : Type} {t : ExtensionSession → WebTask Report α}
    (h : ∀ s, WebTask.Sends s.browser.IsCommand Report.OfInstalled (t s)) :
    WebTask.Sends d.Commands d.Complaint (d.needSession >>= t) := by
  unfold needSession
  cases present : d.session with
  | none =>
    refine WebTask.Sends.fail ?_
    rw [Complaint, present]
    exact nofun
  | some s =>
    refine (h s).mono (fun q command => ⟨s, present, command⟩) fun r said _ => said

/-- An unlocking sends commands to the extension's browser. -/
lemma sends_unlocking (password : String) :
    WebTask.Sends d.Commands d.Complaint (d.unlocking password) := by
  refine d.sends_needSession fun s => ?_
  refine (sends_reporting (s.browser.sends_goto _)).bind fun _ => ?_
  refine (s.sends_awaitAny _ _).bind fun shown => ?_
  split
  · refine (s.sends_fillIn _ _ _).bind fun _ => (s.sends_click _ _).bind fun _ => ?_
    refine (s.sends_awaitAny _ _).bind fun next => ?_
    split
    · exact .done _
    · exact .done _
  · exact .done _

/-- The search for the inputs of the words sends commands. -/
lemma sends_wordInputs (s : ExtensionSession) (selector : String) (m : Mnemonic) :
    WebTask.Sends s.browser.IsCommand Report.OfInstalled (wordInputs s selector m) := by
  refine (sends_reporting (s.browser.sends_findAll _)).bind fun inputs => ?_
  simp only
  split
  · exact .done _
  · refine .fail (Report.ofInstalled_cons ?_ Report.ofInstalled_nil)
    rw [String.append_assoc, String.append_assoc]
    exact Report.note_ne (by decide)

/-- The end of an import: the account is registered, and its address read off. -/
def finishing (s : ExtensionSession) : WebTask Report String := do
  s.click d.settings.stepTimeout d.settings.selectors.registerSubmit
  s.click d.settings.stepTimeout d.settings.selectors.registerFinish
  WebTask.reporting (s.browser.goto (s.page "popup.html"))
  let e ← s.wait d.settings.stepTimeout d.settings.selectors.accountAddress
  match ← WebTask.reporting (s.browser.execute ExtensionSession.addressScript [e.json]) with
  | .string address => return Text.trimmed address
  | _ => .fail [.note "extension did not report an address"]

/-- An import sends commands to the extension's browser. -/
lemma sends_importing (m : Mnemonic) :
    WebTask.Sends d.Commands d.Complaint (d.importing m) := by
  refine d.sends_needSession fun s => ?_
  refine (sends_reporting (s.browser.sends_goto _)).bind fun _ => ?_
  refine (s.sends_click _ _).bind fun _ => (s.sends_click _ _).bind fun _ => ?_
  refine (s.sends_wait _ _).bind fun _ => (sends_wordInputs s _ m).bind fun words => ?_
  refine (s.sends_typeWords words).bind fun _ => (s.sends_click _ _).bind fun _ => ?_
  have rest : WebTask.Sends s.browser.IsCommand Report.OfInstalled (finishing d s) := by
    refine (s.sends_click _ _).bind fun _ => (s.sends_click _ _).bind fun _ => ?_
    refine (sends_reporting (s.browser.sends_goto _)).bind fun _ => ?_
    refine (s.sends_wait _ _).bind fun e => ?_
    refine (sends_reporting (s.browser.sends_execute _ _)).bind fun address => ?_
    split
    · exact .done _
    · exact .fail (Report.ofInstalled_cons (by simp) Report.ofInstalled_nil)
  -- the password is only given if one has been kept
  cases d.password with
  | none => exact rest
  | some password => exact (s.sends_setPassword _ _ password).bind fun _ => rest

/-- A connection sends commands to the extension's browser. -/
lemma sends_connecting (app : Url) :
    WebTask.Sends d.Commands d.Complaint (d.connecting app) := by
  refine d.sends_needSession fun s => ?_
  refine (sends_reporting s.browser.sends_windowHandle).bind fun main => ?_
  refine (sends_reporting (s.browser.sends_goto _)).bind fun _ => ?_
  refine (sends_reporting s.browser.sends_windowHandles).bind fun known => ?_
  refine (s.sends_click _ _).bind fun _ => ?_
  refine (sends_reporting (s.browser.sends_awaitNewWindow known _)).bind fun popup => ?_
  refine (sends_reporting (s.browser.sends_switchTo popup)).bind fun _ => ?_
  refine (s.sends_click _ _).bind fun _ => ?_
  refine (sends_reporting (s.browser.sends_switchTo main)).bind fun _ => ?_
  refine (sends_reporting (s.browser.sends_executeAsync _ _)).bind fun account => ?_
  split
  · exact .done _
  · exact .fail (Report.ofInstalled_cons (by simp) Report.ofInstalled_nil)

/-- An installation sends the request that starts the browser, if anything. -/
lemma sends_installing (version : String) :
    WebTask.Sends IsStart Report.OfInstalled (d.installing version) := by
  refine WebTask.Sends.bind (.ofExcept fun _ => UnpackedExtension.ofInstalled_locate)
    fun bundle => ?_
  refine WebTask.Sends.bind (.ofExcept fun _ => UnpackedExtension.ofInstalled_id)
    fun extensionId => ?_
  refine WebTask.Sends.bind ((sends_start _ _).mapError fun e _ => ?_) fun browser => .done _
  exact Report.ofInstalled_cons (by simp) (Report.ofInstalled_ofWeb e)

/-- A browser is started by an installation, or nothing is sent and no session begun. -/
lemma started_installing (version : String) (deadline : Option Nat) (n : Network) :
    Started d.settings.server n ((d.installing version).on deadline n).2
      (((d.installing version).on deadline n).1.value?.map (·.browser)) := by
  unfold installing
  cases UnpackedExtension.locate d.files d.current d.settings.bundlesDir extensionName version with
  | error r =>
    rw [WebTask.ofExcept_error_bind]
    exact .unasked rfl
  | ok bundle =>
    rw [WebTask.ofExcept_ok_bind]
    cases bundle.id with
    | error r =>
      rw [WebTask.ofExcept_error_bind]
      exact .unasked rfl
    | ok extensionId =>
      rw [WebTask.ofExcept_ok_bind]
      simp only [WebTask.on_bind, WebTask.on_mapError]
      have starting :=
        started_start d.settings.server (capabilities d.settings.headless bundle) deadline n
      generalize (start _ _).on deadline n = ended at starting ⊢
      obtain ⟨b | e | _, n'⟩ := ended <;> exact starting

/-- Work on the extension changes nothing of it but its network. -/
lemma work_apply {α : Type} (t : WebTask Report α) (limit : Option Nat) :
    work t limit d = ((t.on (limit.map (d.network.now + ·)) d.network).1,
      { d with network := (t.on (limit.map (d.network.now + ·)) d.network).2 }) := rfl

end WalletExtension

end SeedVault
