import SeedVault.Proofs.Wallet.Acts

/-!
# What an import does

An import goes to the page with the inputs for the words, finds them, and enters the phrase; behind
its submission it fills in the fields of a password that has been kept, and registers the account.
All of that is done in order, as far as it goes (`ExtensionSession.Imported`), so what is typed is
the phrase and then the fields' texts (`ExtensionSession.Imported.typed_prefix`).
-/

namespace SeedVault

open WebTask (Says)
open Browser

namespace ExtensionSession

variable (s : ExtensionSession) (sel : WalletSelectors)

/-- The acts of an import up to the inputs for the words. -/
def toInputs : List Act :=
  [.goto (s.page "register.html"), .click sel.registerImport, .click sel.registerRecoveryPhrase,
    .await sel.mnemonicWords]

/-- The acts of an import from the inputs for the words on, with those for some fields. -/
def fromInputs (words : List (Element × String)) (fields : List Act) : List Act :=
  words.map (fun w => .typeInto w.1 w.2) ++ (.click sel.mnemonicSubmit :: (fields ++
    [.click sel.registerSubmit, .click sel.registerFinish, .goto (s.page "popup.html"),
      .read sel.accountAddress]))

/-- What is said by an import, with the acts for some fields behind the submission of the words. -/
inductive Imported (m : Mnemonic) (fields : List Act) :
    List Exchange → Outcome Report String → Prop where
  | uncounted {left opening said o} :
    Performed s.browser (s.toInputs sel) left opening →
    (∀ x ∈ said, s.browser.SeeksAll sel.mnemonicWords x.1) →
    (∀ a, o ≠ .done a) →
    Imported m fields (opening ++ said) o
  | counted {opening q r inputs left rest o} :
    Performed s.browser (s.toInputs sel) [] opening →
    s.browser.SeeksAll sel.mnemonicWords q →
    r.GivesAll inputs →
    m.wordCount.words ≤ inputs.length →
    Performed s.browser (s.fromInputs sel (inputs.zip m.words) fields) left rest →
    (∀ a, o = .done a → left = []) →
    Imported m fields (opening ++ (q, r) :: rest) o

/-- The search for all elements of a selector types nothing. -/
lemma typed_of_listing {b : Browser} {selector : String} {said : List Exchange}
    (seeks : ∀ x ∈ said, b.SeeksAll selector x.1) : typed said = [] := by
  apply List.filterMap_eq_nil_iff.2
  intro x mem
  exact keys?_of_locator (seeks x mem)

variable {s sel}

/-- What an import types is a start of the phrase, and behind it what the fields take. -/
lemma Imported.typed_prefix {m : Mnemonic} {fields : List Act} {said o}
    (h : s.Imported sel m fields said o) :
    ∃ words, words <+: m.words ∧ typed said <+: words ++ fields.filterMap Act.text? := by
  cases h with
  | @uncounted left opening said o performed seeks _ =>
    refine ⟨[], List.nil_prefix, ?_⟩
    have silent : typed opening = [] := List.prefix_nil.1 performed.typed_prefix
    rw [typed_append, silent, typed_of_listing seeks]
    exact List.nil_prefix
  | @counted opening q r inputs left rest o performed seeks _ _ performed' _ =>
    have silent : typed opening = [] := List.prefix_nil.1 performed.typed_prefix
    have asked : typed [(q, r)] = [] := typed_of_listing (by simpa using seeks)
    have texts : (s.fromInputs sel (inputs.zip m.words) fields).filterMap Act.text? =
        (inputs.zip m.words).map Prod.snd ++ fields.filterMap Act.text? := by
      have words : (Act.text? ∘ fun w : Element × String => .typeInto w.1 w.2) =
          some ∘ Prod.snd := rfl
      rw [fromInputs, List.filterMap_append, List.filterMap_map, words, List.filterMap_eq_map,
        List.filterMap_cons_none rfl, List.filterMap_append]
      exact congrArg _ (List.append_nil _)
    refine ⟨(inputs.zip m.words).map Prod.snd, ?_, ?_⟩
    · rw [List.zip_eq_zip_take_min, List.map_snd_zip (by simp)]
      exact List.take_prefix _ _
    · rw [← texts, typed_append, silent, List.nil_append, ← List.singleton_append, typed_append,
        asked]
      exact performed'.typed_prefix

/-- An import without a password types a start of the phrase. -/
lemma Imported.typed_words {m : Mnemonic} {said o} (h : s.Imported sel m [] said o) :
    typed said <+: m.words := by
  obtain ⟨words, start, texts⟩ := h.typed_prefix
  rw [List.filterMap_nil, List.append_nil] at texts
  exact texts.trans start

end ExtensionSession

namespace WalletExtension

open ExtensionSession

variable (d : WalletExtension) (s : ExtensionSession)

/-- The first part of an import: the way to the inputs for the words. -/
def reaching : WebTask Report Unit := do
  WebTask.reporting (s.browser.goto (s.page "register.html"))
  s.click d.settings.stepTimeout d.settings.selectors.registerImport
  s.click d.settings.stepTimeout d.settings.selectors.registerRecoveryPhrase
  let _ ← s.wait d.settings.stepTimeout d.settings.selectors.mnemonicWords

/-- The acts for the fields of a password that has been kept. -/
def passwordActs (sel : WalletSelectors) : Option String → List Act
  | some password =>
    [.type sel.walletName "seedkeeper", .type sel.walletPassword password,
      .type sel.walletPasswordConfirm password]
  | none => []

/-- The last part of an import, with the inputs for the words. -/
def entering (words : List (Element × String)) : WebTask Report String := do
  s.typeWords words
  s.click d.settings.stepTimeout d.settings.selectors.mnemonicSubmit
  match d.password with
  | some password => s.setPassword d.settings.stepTimeout d.settings.selectors password
  | none => pure ()
  d.finishing s

/-- The first part of an import performs the acts up to the inputs. -/
lemma performs_reaching :
    (d.reaching s).Says (Performs s.browser (s.toInputs d.settings.selectors)) :=
  performs_bind (s.performs_goto _) fun _ => performs_bind (s.performs_click _ _) fun _ =>
    performs_bind (s.performs_click _ _) fun _ =>
      performs_bind (s.performs_wait _ _) fun _ => performs_nil ()

/-- The end of an import performs its last acts. -/
lemma performs_finishing :
    (d.finishing s).Says (Performs s.browser
      [.click d.settings.selectors.registerSubmit, .click d.settings.selectors.registerFinish,
        .goto (s.page "popup.html"), .read d.settings.selectors.accountAddress]) := by
  refine performs_bind (s.performs_click _ _) fun _ => performs_bind (s.performs_click _ _) fun _ =>
    performs_bind (s.performs_goto _) fun _ => performs_act ?_
  refine s.says_orderedAt _ _ fun e => (s.browser.says_reading e).behind ?_ fun said v ordered => ?_
  · intro said o o' ordered undone undone'
    rwa [undone', ← undone]
  · cases v with
    | string address =>
      refine .done ?_
      rw [List.append_nil]
      exact ordered
    | null | bool _ | int _ | real _ | array _ | object _ =>
      refine .fail ?_
      rw [List.append_nil]
      exact ordered.forget

/-- The last part of an import performs the acts from the inputs on. -/
lemma performs_entering (words : List (Element × String)) :
    (d.entering s words).Says (Performs s.browser
      (s.fromInputs d.settings.selectors words
        (passwordActs d.settings.selectors d.password))) := by
  refine performs_bind (s.performs_typeWords words) fun _ =>
    performs_bind (s.performs_click _ _) fun _ => ?_
  cases d.password with
  | none => exact d.performs_finishing s
  | some password =>
    exact performs_bind (s.performs_setPassword _ _ password) fun _ => d.performs_finishing s

/-- The inputs of the words are asked for once, and given if there are enough. -/
lemma says_wordInputs (selector : String) (m : Mnemonic) :
    (wordInputs s selector m).Says fun said o =>
      (∀ words, o = .done words → ∃ q r inputs, said = [(q, r)] ∧ s.browser.SeeksAll selector q ∧
        r.GivesAll inputs ∧ m.wordCount.words ≤ inputs.length ∧ words = inputs.zip m.words) ∧
      ∀ x ∈ said, s.browser.SeeksAll selector x.1 := by
  have lists : (WebTask.reporting (s.browser.findAll (.ofSelector selector))).Says
      (s.browser.Listed selector) :=
    (s.browser.says_findAll selector).mapError fun _ _ => Listed.mapFault
  refine lists.behind ?_ fun said inputs listed => ?_
  · intro said o o' listed _ undone
    exact ⟨fun words done => absurd done (Outcome.ne_done undone words), listed.seeks⟩
  · cases listed with
    | @given q r _ seeks gives =>
      have all : ∀ x ∈ [(q, r)] ++ [], s.browser.SeeksAll selector x.1 := by simpa using seeks
      dsimp only
      split
      · next enough =>
        refine .done ⟨?_, all⟩
        rintro _ ⟨⟩
        exact ⟨q, r, inputs, rfl, seeks, gives, enough, rfl⟩
      · exact .fail ⟨by simp, all⟩

/-- An import reaches the inputs, asks for them and enters the words. -/
lemma importing_eq {s : ExtensionSession} (present : d.session = some s) (m : Mnemonic) :
    d.importing m = d.reaching s >>= fun _ =>
      wordInputs s d.settings.selectors.mnemonicWords m >>= d.entering s := by
  unfold importing needSession reaching entering
  rw [present]
  simp only [bind_assoc, pure_bind]
  rfl

/-- An import in a session goes one of the ways of `Imported`. -/
lemma says_importing {s : ExtensionSession} (present : d.session = some s) (m : Mnemonic) :
    (d.importing m).Says (s.Imported d.settings.selectors m
      (passwordActs d.settings.selectors d.password)) := by
  rw [d.importing_eq present]
  refine (d.performs_reaching s).behind ?_ ?_
  · rintro opening o o' ⟨left, performed, _⟩ _ undone
    rw [← List.append_nil opening]
    exact .uncounted performed (by simp) (Outcome.ne_done undone)
  · rintro opening _ ⟨left, performed, whole⟩
    obtain rfl := whole rfl
    refine (says_wordInputs s _ m).behind ?_ ?_
    · rintro said o o' ⟨_, all⟩ _ undone
      exact .uncounted performed all (Outcome.ne_done undone)
    · rintro said words ⟨counted, _⟩
      obtain ⟨q, r, inputs, rfl, seeks, gives, enough, rfl⟩ := counted words rfl
      refine (d.performs_entering s _).mono ?_
      rintro rest o ⟨left', performed', whole'⟩
      refine .counted performed seeks gives enough performed' ?_
      rintro a rfl
      exact whole' rfl

/-- Without a session nothing is sent. -/
lemma needSession_bind_of_none (absent : d.session = none) {α : Type}
    (t : ExtensionSession → WebTask Report α) :
    d.needSession >>= t = .fail [.note "extension is not installed"] := by
  rw [needSession, absent]
  rfl

/-- Without a session there is no import. -/
lemma importAccount_of_none (absent : d.session = none) (m : Mnemonic) (limit : Option Nat) :
    importAccount m limit d = (.failed [.note "extension is not installed"], d) := by
  have fails : d.importing m = .fail [.note "extension is not installed"] :=
    d.needSession_bind_of_none absent _
  rw [importAccount, work_apply, fails]
  rfl

/-- The request for an import in a session is such an import. -/
lemma imported_importAccount {s : ExtensionSession} (present : d.session = some s) (m : Mnemonic)
    (limit : Option Nat) :
    s.Imported d.settings.selectors m (passwordActs d.settings.selectors d.password)
      (d.network.conversation (importAccount m limit d).2.network)
      (importAccount m limit d).1 := by
  obtain ⟨said, carried, imported⟩ :=
    d.says_importing present m (limit.map (d.network.now + ·)) d.network
  rw [importAccount, work_apply, carried.conversation]
  exact imported

end WalletExtension

end SeedVault
