import Mathlib.Logic.Function.Iterate
import SeedVault.Proofs.Phrase.Mnemonic
import SeedVault.Proofs.Scenario.Passing
import SeedVault.Proofs.Session.Steps
import SeedVault.Proofs.Storage.Lawful
import SeedVault.Scenario.InProcessApp

/-!
# Scenarios on the application without a browser

The application keeps every phrase that it is given, as it was typed, and nothing else
(`setPhrase_phrase`, `setPhrase_fault`, `setPhrase_none`). Its scenarios pass on the phrases from
which an account is derived (`autogenerated_cases`, `custom_cases`), whatever was tried on it before
(`passes_on_phrases`).
-/

namespace SeedVault

open Secret (storageKey)
open Scenario

namespace InProcessApp

variable {app : InProcessApp} {typed text address : String} {m : Mnemonic}

/-- The phrase that the application suggests next. -/
def suggestion (app : InProcessApp) : Mnemonic := (app.entropy.generate default).1

/-- The application when its suggestion was drawn. -/
def drawn (app : InProcessApp) : InProcessApp :=
  { app with entropy := (app.entropy.generate default).2 }

/-- The application when it keeps a text. -/
def keep (app : InProcessApp) (text : String) : InProcessApp :=
  { app with store := app.store.update storageKey (some text) }

/-- The application when it was loaded again. -/
def reloaded (app : InProcessApp) : InProcessApp := (PageTask.on SeedPage.reload app).2

/-- The application keeps a text, and restores the address of an account, also after it was loaded
again any number of times. -/
structure Keeps (app : InProcessApp) (text address : String) : Prop where
  stored : (SeedPage.storedText storageKey).on app = (.ok (some text), app)
  restored : ∀ n, (reloaded^[n] app).restore = some address

section Operations

/-- A session on a store in memory accepts any text. -/
lemma accept_memory (text : String) (s : SessionState MemoryStore) :
    Session.accept text s =
      (.ok (), Session.told s (s.store.update storageKey (some text))
        [.loading true, .navigate .dashboard]) := by
  obtain ⟨t, taken, done⟩ | ⟨e, t, failed, _⟩ := Session.accept_cases text s
  · cases taken
    exact done
  · cases failed

/-- What is done in a session on the application's store leaves the store that the session
leaves. -/
lemma onSession_on {ε α : Type} {act : StateM (SessionState MemoryStore) (Except ε α)}
    {report : ε → Report} {result s} (h : act { store := app.store } = (result, s)) :
    (onSession act report).on app = (result.mapError report, { app with store := s.store }) := by
  change ((act { store := app.store }).1.mapError report,
    { app with store := (act { store := app.store }).2.store }) = _
  rw [h]

/-- A phrase that is entered is kept as it was typed. -/
lemma setPhrase_phrase (parsed : Mnemonic.parse typed = .ok m) :
    (SeedPage.setPhrase (some typed)).on app = (.ok (), app.keep typed) := by
  let s : SessionState MemoryStore := { store := app.store }
  have entered : Session.enter typed s =
      (.ok m, Session.told s (app.store.update storageKey (some typed))
        [.loading true, .navigate .dashboard]) := by
    rw [Session.enter, parsed]
    simp only [Session.bind_apply, accept_memory]
    rfl
  exact PageTask.bind_of_ok (onSession_on entered)

/-- What is no phrase changes nothing when it is entered. -/
lemma setPhrase_fault {e} (fault : Mnemonic.parse typed = .error e) :
    (SeedPage.setPhrase (some typed)).on app = (.error [.phrase e], app) := by
  let s : SessionState MemoryStore := { store := app.store }
  have refused : Session.enter typed s = (.error (.phrase e), s) := by
    rw [Session.enter, fault]
    rfl
  exact PageTask.bind_of_error (onSession_on refused)

/-- The suggested phrase is kept in its normal spelling. -/
lemma setPhrase_none (app : InProcessApp) :
    (SeedPage.setPhrase none).on app = (.ok (), app.drawn.keep app.suggestion.phrase) := by
  let s : SessionState MemoryStore := { store := app.drawn.store }
  have accepted : Session.acceptFresh app.suggestion s = _ := accept_memory app.suggestion.phrase s
  exact onSession_on accepted

/-- The application shows the text that it keeps. -/
lemma storedText_keep (app : InProcessApp) (text : String) :
    (SeedPage.storedText storageKey).on (app.keep text) = (.ok (some text), app.keep text) := by
  have kept : (app.keep text).store.value? storageKey = some text := MemoryStore.value?_update_self
  change (Except.ok ((app.keep text).store.value? storageKey), app.keep text) = _
  rw [kept]

/-- Loading the application again changes nothing. -/
lemma reload_on (app : InProcessApp) : PageTask.on SeedPage.reload app = (.ok (), app) := rfl

/-- The application restores the address of the account of the text that it keeps. -/
lemma restore_keep (derives : Derives app.deriver text address) :
    (app.keep text).restore = some address := by
  have kept : (app.keep text).store.value? storageKey = some text := MemoryStore.value?_update_self
  have restored : (app.keep text).restore =
      Session.addressOf app.deriver (.ok ((app.keep text).store.value? storageKey)) :=
    congrArg Prod.fst (Session.restore_apply (s := { store := (app.keep text).store }) rfl)
  obtain ⟨m, k, parsed, derived, rfl⟩ := derives
  rw [restored, kept, Session.addressOf_eq_some_iff]
  exact ⟨text, m, k, rfl, parsed, derived, rfl⟩

/-- An application that keeps a text from which keys can be derived keeps its address, however often
it is loaded again. -/
lemma keeps_keep (derives : Derives app.deriver text address) :
    (app.keep text).Keeps text address := by
  refine ⟨storedText_keep app text, fun n => ?_⟩
  have same : reloaded^[n] (app.keep text) = app.keep text := Function.iterate_fixed rfl n
  rw [same, restore_keep derives]

/-- A suggestion is a phrase. -/
lemma parse_suggestion (app : InProcessApp) :
    Mnemonic.parse app.suggestion.phrase = .ok app.suggestion :=
  (Mnemonic.Made.generate app.entropy default).faithful.accepted.2

end Operations

section Trials

/-- The suggestion is kept in any case, and the scenario passes if an account is derived from it. -/
lemma autogenerated_cases (d : AccountDeriver) (app : InProcessApp) :
    (∃ address, Derives d app.suggestion.phrase address ∧
      (autogenerated d).on app =
        (.ok { name := "autogenerated seed phrase", address },
          app.drawn.keep app.suggestion.phrase)) ∨
    (∀ address, ¬ Derives d app.suggestion.phrase address) ∧
      ∃ e, (autogenerated d).on app = (.error e, app.drawn.keep app.suggestion.phrase) := by
  have set := setPhrase_none app
  have read := storedText_keep app.drawn app.suggestion.phrase
  by_cases derivable : ∃ address, Derives d app.suggestion.phrase address
  · obtain ⟨address, derives⟩ := derivable
    have kept := keptAddress_ok_iff.2 ⟨_, read, derives⟩
    exact .inl ⟨address, derives, (Autogenerated.passed set kept (reload_on _) kept).on_eq⟩
  · have underived := not_exists.1 derivable
    obtain ⟨e, failed⟩ := keptAddress_error (d := d) read (by
      rintro _ address ⟨⟩
      exact underived address)
    exact .inr ⟨underived, _, (Autogenerated.unkept set failed).on_eq⟩

/-- What is no phrase changes nothing. A phrase is kept, and the scenario passes if an account is
derived from it. -/
lemma custom_cases (d : AccountDeriver) (typed : String) (app : InProcessApp) :
    (∃ e, Mnemonic.parse typed = .error e ∧ (custom d typed).on app = (.error [.phrase e], app)) ∨
    (∃ address, Derives d typed address ∧
      (custom d typed).on app = (.ok { name := "custom seed phrase", address }, app.keep typed)) ∨
    ∃ m, Mnemonic.parse typed = .ok m ∧ (∀ address, ¬ Derives d typed address) ∧
      ∃ e, (custom d typed).on app = (.error e, app.keep typed) := by
  cases parsed : Mnemonic.parse typed with
  | error e => exact .inl ⟨e, rfl, (Custom.unset (setPhrase_fault parsed)).on_eq⟩
  | ok m =>
    have set : (SeedPage.setPhrase (some typed)).on app = _ := setPhrase_phrase parsed
    have read := storedText_keep app typed
    by_cases derivable : ∃ address, Derives d typed address
    · obtain ⟨address, derives⟩ := derivable
      have kept := keptAddress_ok_iff.2 ⟨_, read, derives⟩
      exact .inr (.inl ⟨address, derives, (Custom.passed set read kept).on_eq⟩)
    · have underived := not_exists.1 derivable
      obtain ⟨e, failed⟩ := keptAddress_error (d := d) read (by
        rintro _ address ⟨⟩
        exact underived address)
      exact .inr (.inr ⟨m, rfl, underived, e, (Custom.unkept set read failed).on_eq⟩)

/-- The application goes on deriving accounts as it did. -/
lemma deriver_serve (d : AccountDeriver) (q : ScenarioRequest) (app : InProcessApp) :
    ((serve d q).on app).2.deriver = app.deriver := by
  cases q with
  | autogenerated =>
    obtain ⟨_, _, e⟩ | ⟨_, _, e⟩ := autogenerated_cases d app
    · exact congrArg (·.2.deriver) e
    · exact congrArg (·.2.deriver) e
  | custom typed =>
    obtain ⟨_, _, e⟩ | ⟨_, _, e⟩ | ⟨_, _, _, _, e⟩ := custom_cases d typed app
    · exact congrArg (·.2.deriver) e
    · exact congrArg (·.2.deriver) e
    · exact congrArg (·.2.deriver) e

/-- Scenarios leave the derivation of keys as it is. -/
lemma deriver_serveAll (d : AccountDeriver) (qs : List ScenarioRequest) (app : InProcessApp) :
    (serveAll d qs app).deriver = app.deriver := by
  induction qs generalizing app with
  | nil => rfl
  | cons q qs ih => exact (ih _).trans (deriver_serve d q app)

/-- The scenario with the suggested phrase passes if an account is derived from the suggestion. -/
lemma passes_if_derived {d : AccountDeriver} {k} (derived : d.derive app.suggestion = .ok k) :
    ∃ report, ((autogenerated d).on app).1 = .ok report := by
  obtain ⟨_, _, e⟩ | ⟨underived, _⟩ := autogenerated_cases d app
  · exact ⟨_, congrArg Prod.fst e⟩
  · exact absurd ⟨_, k, app.parse_suggestion, derived, rfl⟩ (underived k.address)

/-- Behind a scenario that has passed, the application keeps the phrase that it had suggested. -/
lemma keeps_suggestion {report} (passes : ((autogenerated app.deriver).on app).1 = .ok report) :
    (∃ k, app.deriver.derive app.suggestion = .ok k ∧ k.address = report.address) ∧
      ((autogenerated app.deriver).on app).2.Keeps app.suggestion.phrase report.address := by
  obtain ⟨address, derives, e⟩ | ⟨_, _, e⟩ := autogenerated_cases app.deriver app
  · rw [e] at passes ⊢
    cases passes
    have kept : (app.drawn.keep app.suggestion.phrase).Keeps app.suggestion.phrase address :=
      keeps_keep derives
    obtain ⟨m, k, parsed, derived, h⟩ := derives
    rw [parse_suggestion] at parsed
    cases parsed
    exact ⟨⟨k, derived, h⟩, kept⟩
  · rw [e] at passes
    cases passes

/-- The scenario with an entered text passes exactly if the text is a phrase, when phrases have
accounts. -/
lemma passes_iff_phrase {d : AccountDeriver}
    (derivable : ∀ m, Mnemonic.parse typed = .ok m → ∃ k, d.derive m = .ok k) :
    ((∃ report, ((custom d typed).on app).1 = .ok report) ↔
        ∃ m, Mnemonic.parse typed = .ok m) ∧
      ∀ e, ((custom d typed).on app).1 = .error e → ((custom d typed).on app).2 = app := by
  obtain ⟨fault, unparsed, e⟩ | ⟨address, derives, e⟩ | ⟨m, parsed, underived, _⟩ :=
    custom_cases d typed app
  · rw [e]
    refine ⟨iff_of_false nofun ?_, fun _ _ => rfl⟩
    rintro ⟨m, parsed⟩
    rw [unparsed] at parsed
    cases parsed
  · obtain ⟨m, k, parsed, _⟩ := derives
    rw [e]
    exact ⟨iff_of_true ⟨_, rfl⟩ ⟨m, parsed⟩, nofun⟩
  · obtain ⟨k, derived⟩ := derivable m parsed
    exact absurd ⟨m, k, parsed, derived, rfl⟩ (underived k.address)

/-- Behind a scenario that has passed, the application keeps the text that was entered. -/
lemma keeps_entered {report} (passes : ((custom app.deriver typed).on app).1 = .ok report) :
    Derives app.deriver typed report.address ∧
      ((custom app.deriver typed).on app).2.Keeps typed report.address := by
  obtain ⟨_, _, e⟩ | ⟨address, derives, e⟩ | ⟨_, _, _, _, e⟩ := custom_cases app.deriver typed app
  · rw [e] at passes
    cases passes
  · rw [e] at passes ⊢
    cases passes
    exact ⟨derives, keeps_keep derives⟩
  · rw [e] at passes
    cases passes

/-- Whatever was tried on the application before, the scenario with the suggested phrase passes if
an account is derived from the suggestion, and if every phrase has an account, the scenario with an
entered text passes exactly if the text is a phrase, and changes nothing otherwise. A scenario that
has passed has reported the address of the phrase's account, the phrase is kept in its normal
spelling or as it was typed, and the application restores that address, however often it is loaded
again. -/
theorem passes_on_phrases (d : AccountDeriver) (source : EntropySource)
    (qs : List ScenarioRequest) :
    let app : InProcessApp := serveAll d qs { deriver := d, entropy := source }
    let suggested := (autogenerated d).on app
    ((∃ k, d.derive app.suggestion = .ok k) → ∃ report, suggested.1 = .ok report) ∧
    (∀ report, suggested.1 = .ok report →
      (∃ k, d.derive app.suggestion = .ok k ∧ k.address = report.address) ∧
      suggested.2.Keeps app.suggestion.phrase report.address) ∧
    ∀ typed,
      let entered := (custom d typed).on app
      ((∀ m, Mnemonic.parse typed = .ok m → ∃ k, d.derive m = .ok k) →
        ((∃ report, entered.1 = .ok report) ↔ ∃ m, Mnemonic.parse typed = .ok m) ∧
        ∀ e, entered.1 = .error e → entered.2 = app) ∧
      ∀ report, entered.1 = .ok report →
        (∃ m k, Mnemonic.parse typed = .ok m ∧ d.derive m = .ok k ∧ k.address = report.address) ∧
        entered.2.Keeps typed report.address := by
  intro app suggested
  have same : app.deriver = d := deriver_serveAll d qs _
  clear_value app
  subst same
  exact ⟨fun ⟨_, derived⟩ => passes_if_derived derived, fun _ => keeps_suggestion,
    fun _ => ⟨passes_iff_phrase, fun _ => keeps_entered⟩⟩

end Trials

end InProcessApp

end SeedVault
