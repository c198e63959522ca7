import SeedVault.Proofs.Wallet.Import
import SeedVault.Proofs.Wallet.Sending

/-!
# Where the password goes

The extension is unlocked by the password if its page asks for one. If the page offers an import
instead, the password is kept for that import, which gives it to the new account. So either of two
steps types the password, and the first element that is found decides which
(`types_password_where_asked`).
-/

namespace SeedVault

open WebTask (Says)
open Browser

/-- An unlocking that ends without a value keeps nothing for an import. -/
lemma WalletExtension.unlocked_undone (d : WalletExtension) {o : Outcome Report Unlocking}
    (undone : o.isDone = false) (password : String) :
    (∀ right, (unlocked password o d).1 ≠ .done right) ∧ (unlocked password o d).2 = d := by
  cases o with
  | done _ => cases undone
  | failed e => exact ⟨Outcome.ne_done rfl, rfl⟩
  | expired => exact ⟨Outcome.ne_done rfl, rfl⟩

namespace ExtensionSession

variable (s : ExtensionSession) (limit : Nat) (sel : WalletSelectors)

/-- The question that an unlocking begins with: is there an element that asks for a password, or
one that offers an import? -/
def asking : WebTask Report Nat := do
  WebTask.reporting (s.browser.goto (s.page "popup.html"))
  s.awaitAny limit [sel.unlockPassword, sel.registerImport]

/-- How an unlocking goes on behind the question. -/
def answering (password : String) (shown : Nat) : WebTask Report Unlocking := do
  if shown = 0 then
    s.fillIn limit sel.unlockPassword password
    s.click limit sel.unlockSubmit
    if (← s.awaitAny limit [sel.homeMarker, sel.unlockError]) = 0 then return .accepted
    else return .rejected
  else return .fresh

/-- The question is asked until there is the element that is asked for in the `k`-th place. -/
def Shown (k : Nat) (said : List Exchange) : Prop :=
  ∃ opening found e, said = opening ++ found ∧
    (Act.goto (s.page "popup.html")).Goes s.browser true opening ∧
    s.browser.FirstReply [sel.unlockPassword, sel.registerImport] (·.Gives (.ok e)) k found

/-- What is said by an unlocking with a password, behind the question: the password is typed and
submitted, and then either of two elements tells if it was right. -/
inductive Unlocked (password : String) : List Exchange → Outcome Report Bool → Prop where
  | unanswered {left acted said o} :
    Performed s.browser [.type sel.unlockPassword password, .click sel.unlockSubmit] left acted →
    s.browser.Sought [sel.homeMarker, sel.unlockError] said →
    (∀ right, o ≠ .done right) →
    Unlocked password (acted ++ said) o
  | accepted {acted said e} :
    Performed s.browser [.type sel.unlockPassword password, .click sel.unlockSubmit] [] acted →
    s.browser.FirstReply [sel.homeMarker, sel.unlockError] (·.Gives (.ok e)) 0 said →
    Unlocked password (acted ++ said) (.done true)
  | rejected {acted said e} :
    Performed s.browser [.type sel.unlockPassword password, .click sel.unlockSubmit] [] acted →
    s.browser.FirstReply [sel.homeMarker, sel.unlockError] (·.Gives (.ok e)) 1 said →
    Unlocked password (acted ++ said) (.done false)

/-- One of two elements is shown. -/
lemma Shown.lt_two {k : Nat} {said : List Exchange} (h : s.Shown sel k said) : k < 2 := by
  obtain ⟨_, _, _, _, _, first⟩ := h
  exact first.lt_length

/-- The question types nothing. -/
lemma says_asking :
    (s.asking limit sel).Says fun said o =>
      typed said = [] ∧ ∀ k, o = .done k → s.Shown sel k said := by
  have silent {left opening} (performed : Performed s.browser [.goto (s.page "popup.html")] left
      opening) : typed opening = [] := List.prefix_nil.1 performed.typed_prefix
  refine (s.performs_goto (s.page "popup.html")).behind ?_ ?_
  · rintro opening o o' ⟨left, performed, _⟩ _ undone
    exact ⟨silent performed, fun k done => absurd done (Outcome.ne_done undone k)⟩
  · rintro opening _ ⟨left, performed, whole⟩
    obtain rfl := whole rfl
    refine (s.says_awaitAny limit _).mono fun found o awaited => ⟨?_, ?_⟩
    · rw [typed_append, silent performed, typed_of_sought awaited.sought]
      rfl
    · rintro k rfl
      cases awaited with
      | @found _ _ e first =>
        cases performed with
        | next goes rest =>
          cases rest
          rw [List.append_nil]
          exact ⟨_, found, e, rfl, goes, first⟩

/-- An extension that asks for a password is unlocked by it, and nothing is kept for an import. -/
lemma says_answering (password : String) :
    (s.answering limit sel password 0).Says fun said o => ∀ d : WalletExtension,
      s.Unlocked sel password said (WalletExtension.unlocked password o d).1 ∧
        (WalletExtension.unlocked password o d).2 = d := by
  have parted : s.answering limit sel password 0 =
      (s.fillIn limit sel.unlockPassword password >>= fun _ => s.click limit sel.unlockSubmit) >>=
        fun _ => s.awaitAny limit [sel.homeMarker, sel.unlockError] >>= fun shown =>
          if shown = 0 then pure .accepted else pure .rejected := by
    rw [answering, if_pos rfl, bind_assoc]
  have acts := performs_bind (s.performs_fillIn limit sel.unlockPassword password) fun _ =>
    s.performs_click limit sel.unlockSubmit
  rw [parted]
  refine acts.behind ?_ ?_
  · rintro acted o o' ⟨left, performed, _⟩ _ undone d
    obtain ⟨wrong, same⟩ := d.unlocked_undone undone password
    rw [← List.append_nil acted]
    exact ⟨.unanswered performed Sought.nil wrong, same⟩
  · rintro acted _ ⟨left, performed, whole⟩
    obtain rfl := whole rfl
    refine (s.says_awaitAny limit _).behind ?_ fun said k awaited => ?_
    · intro said o o' awaited _ undone d
      obtain ⟨wrong, same⟩ := d.unlocked_undone undone password
      exact ⟨.unanswered performed awaited.sought wrong, same⟩
    · cases awaited with
      | found first =>
        have two : k < 2 := first.lt_length
        obtain rfl | rfl : k = 0 ∨ k = 1 := by omega
        · refine .done fun d => ⟨?_, rfl⟩
          rw [List.append_nil]
          exact .accepted performed first
        · refine .done fun d => ⟨?_, rfl⟩
          rw [List.append_nil]
          exact .rejected performed first

variable {s sel}

/-- An unlocking types nothing but the password, and that at most once. -/
lemma Unlocked.typed_prefix {password : String} {said o} (h : s.Unlocked sel password said o) :
    typed said <+: [password] := by
  have one {left acted said}
      (performed : Performed s.browser
        [.type sel.unlockPassword password, .click sel.unlockSubmit] left acted)
      (sought : s.browser.Sought [sel.homeMarker, sel.unlockError] said) :
      typed (acted ++ said) <+: [password] := by
    rw [typed_append, typed_of_sought sought, List.append_nil]
    exact performed.typed_prefix
  cases h with
  | unanswered performed sought _ => exact one performed sought
  | accepted performed first => exact one performed first.sought
  | rejected performed first => exact one performed first.sought

end ExtensionSession

namespace WalletExtension

open ExtensionSession

variable (d : WalletExtension)

/-- An installation sets no password. -/
lemma install_keeps (version : String) (limit : Option Nat) :
    (install version limit d).2.settings = d.settings ∧
      (install version limit d).2.password = d.password := by
  rw [install_eq]
  simp only [work_apply]
  generalize (d.installing version).on _ d.network = ended
  obtain ⟨s | e | _, n⟩ := ended <;> exact ⟨rfl, rfl⟩

/-- The ways that an unlocking in a session can go, by what its question comes to: what it says, and
what it ends with. -/
inductive Opened (s : ExtensionSession) (sel : WalletSelectors) (password : String) :
    Outcome Report Nat → List Exchange → Outcome Report Bool × WalletExtension → Prop where
  | given {front rest o n} :
    typed front = [] →
    s.Shown sel 0 front →
    s.Unlocked sel password rest o →
    Opened s sel password (.done 0) (front ++ rest) (o, { d with network := n })
  | fresh {said n} :
    typed said = [] →
    s.Shown sel 1 said →
    Opened s sel password (.done 1) said
      (.done true, { d with network := n, password := some password })
  | unshown {asked said o n} :
    (∀ k, asked ≠ .done k) →
    typed said = [] →
    (∀ right, o ≠ .done right) →
    Opened s sel password asked said (o, { d with network := n })

/-- The request for an unlocking makes of its work what that comes to. -/
lemma unlock_apply (password : String) (limit : Option Nat) :
    unlock password limit d =
      unlocked password
        ((d.unlocking password).on (limit.map (d.network.now + ·)) d.network).1
        { d with network :=
          ((d.unlocking password).on (limit.map (d.network.now + ·)) d.network).2 } := by
  rw [unlock_eq]
  rfl

/-- An unlocking in a session goes one of these ways. -/
lemma opened_unlock {s : ExtensionSession} (present : d.session = some s) (password : String)
    (limit : Option Nat) :
    d.Opened s d.settings.selectors password
      (work (s.asking d.settings.stepTimeout d.settings.selectors) limit d).1
      (d.network.conversation (unlock password limit d).2.network) (unlock password limit d) := by
  have parted : d.unlocking password =
      s.asking d.settings.stepTimeout d.settings.selectors >>=
        s.answering d.settings.stepTimeout d.settings.selectors password := by
    unfold unlocking needSession asking answering
    rw [present]
    simp only [bind_assoc, pure_bind]
  obtain ⟨front, carried, silent, shown⟩ := s.says_asking d.settings.stepTimeout
    d.settings.selectors (limit.map (d.network.now + ·)) d.network
  have opens := d.unlock_apply password limit
  rw [parted, WebTask.on_bind] at opens
  rw [work_apply]
  obtain rfl := carried.conversation
  generalize (s.asking _ _).on _ d.network = asked at *
  generalize unlock password limit d = opened at *
  obtain ⟨k | e | _, n⟩ := asked
  · have first := shown k rfl
    have two := first.lt_two
    obtain rfl | rfl : k = 0 ∨ k = 1 := by omega
    · obtain ⟨rest, carried', told⟩ := s.says_answering d.settings.stepTimeout
        d.settings.selectors password (limit.map (d.network.now + ·)) n
      simp only [WebTask.proceed] at opens
      generalize (s.answering _ _ password 0).on _ n = ended at *
      obtain ⟨gives, same⟩ := told { d with network := ended.2 }
      rw [← opens] at gives same
      rw [← Prod.eta opened, same, (carried.trans carried').conversation]
      exact .given silent first gives
    · rw [opens]
      exact .fresh silent first
  · rw [opens]
    exact .unshown (by simp) silent (Outcome.ne_done rfl)
  · rw [opens]
    exact .unshown (by simp) silent (Outcome.ne_done rfl)

/-- Without a session there is no unlocking. -/
lemma unlock_of_none (absent : d.session = none) (password : String) (limit : Option Nat) :
    unlock password limit d = (.failed [.note "extension is not installed"], d) := by
  have fails : d.unlocking password = .fail [.note "extension is not installed"] :=
    d.needSession_bind_of_none absent _
  rw [unlock_apply, fails]
  rfl

/-- The unlocking of an extension that was just installed asks which of two elements there is. If
the first one is that for a password, the unlocking types the password into it, once at most, and
says what the next two elements tell of it; the import then types the words of the phrase and
nothing else. If the first one is that for an import, the unlocking types nothing and succeeds, and
behind the submission of the words the import types a name, the password and the password again,
each into its own element; it only succeeds if the browser obeyed all of that. If there is none of
the two, the unlocking types nothing and does not succeed, and no password is typed later. -/
theorem types_password_where_asked (settings : ExtensionSettings) (files : Directory)
    (current : List String) (network : Network) (version password : String) (m : Mnemonic)
    (installLimit unlockLimit importLimit : Option Nat) :
    let sel := settings.selectors
    let d := (install version installLimit { settings, files, current, network }).2
    let opened := unlock password unlockLimit d
    let imported := importAccount m importLimit opened.2
    let unlocking := d.network.conversation opened.2.network
    let importing := opened.2.network.conversation imported.2.network
    (d.session = none →
      unlocking = [] ∧ importing = [] ∧ (∀ right, opened.1 ≠ .done right) ∧
        ∀ a, imported.1 ≠ .done a) ∧
    ∀ s, d.session = some s →
      let asked := (work (s.asking settings.stepTimeout sel) unlockLimit d).1
      (asked = .done 0 ∧
        (∃ front rest, unlocking = front ++ rest ∧ s.Shown sel 0 front ∧
          s.Unlocked sel password rest opened.1) ∧
        typed unlocking <+: [password] ∧
        s.Imported sel m [] importing imported.1 ∧
        typed importing <+: m.words) ∨
      (asked = .done 1 ∧ s.Shown sel 1 unlocking ∧ typed unlocking = [] ∧ opened.1 = .done true ∧
        s.Imported sel m [.type sel.walletName "seedkeeper", .type sel.walletPassword password,
          .type sel.walletPasswordConfirm password] importing imported.1 ∧
        ∃ words, words <+: m.words ∧
          typed importing <+: words ++ ["seedkeeper", password, password]) ∨
      ((∀ k, asked ≠ .done k) ∧ typed unlocking = [] ∧ (∀ right, opened.1 ≠ .done right) ∧
        s.Imported sel m [] importing imported.1 ∧
        typed importing <+: m.words) := by
  intro sel d opened imported unlocking importing
  obtain ⟨set, unset⟩ : d.settings = settings ∧ d.password = none :=
    install_keeps { settings, files, current, network } version installLimit
  refine ⟨fun absent => ?_, fun s present => ?_⟩
  -- without a session neither step sends anything
  · have unopened : opened = (.failed [.note "extension is not installed"], d) :=
      d.unlock_of_none absent password unlockLimit
    have unimported : imported = (.failed [.note "extension is not installed"], opened.2) :=
      opened.2.importAccount_of_none (by rw [unopened]; exact absent) m importLimit
    refine ⟨?_, ?_, ?_, ?_⟩
    · show d.network.conversation opened.2.network = []
      rw [unopened]
      exact (Network.Carries.refl _).conversation
    · show opened.2.network.conversation imported.2.network = []
      rw [unimported]
      exact (Network.Carries.refl _).conversation
    · rw [unopened]
      simp
    · rw [unimported]
      simp
  · clear_value d
    subst set
    intro asked
    obtain ⟨said, talk, way⟩ : ∃ said, unlocking = said ∧
      d.Opened s sel password asked said opened :=
        ⟨unlocking, rfl, d.opened_unlock present password unlockLimit⟩
    have imports := opened.2.imported_importAccount (s := s)
    rw [talk]
    clear_value asked unlocking opened
    -- what the import fills in is up to the password that the unlocking has kept
    cases way with
    | given silent shown gives =>
      have imports : s.Imported sel m (passwordActs sel d.password) importing imported.1 :=
        imports present m importLimit
      rw [unset] at imports
      refine .inl ⟨rfl, ⟨_, _, rfl, shown, gives⟩, ?_, imports, imports.typed_words⟩
      rw [typed_append, silent]
      exact gives.typed_prefix
    | fresh silent shown =>
      have imports : s.Imported sel m (passwordActs sel (some password)) importing imported.1 :=
        imports present m importLimit
      exact .inr (.inl ⟨rfl, shown, silent, rfl, imports, imports.typed_prefix⟩)
    | unshown unasked silent undone =>
      have imports : s.Imported sel m (passwordActs sel d.password) importing imported.1 :=
        imports present m importLimit
      rw [unset] at imports
      exact .inr (.inr ⟨unasked, silent, undone, imports, imports.typed_words⟩)

end WalletExtension

end SeedVault
