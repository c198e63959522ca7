import SeedVault.Proofs.Scenario.Steps

/-!
# When scenarios pass

The scenario with the suggested phrase passes exactly if the page keeps the text of an account and
still keeps the text of the same account when it was loaded again (`passes_if_account_survives`).
The scenario with an entered phrase passes if the page keeps that phrase, but the account that it
reports is that of the text it reads next, whichever that is (`reports_text_read_last`).
-/

namespace SeedVault.Scenario

open Secret (storageKey)

section Pages

variable {π : Type} [SeedPage π] {d : AccountDeriver} {phrase : String} {p q : π}
  {calls : List PageCall} {result : Except Report ScenarioResult} {report : ScenarioResult}

/-- The scenario with the suggested phrase passes if all goes well on the page and both texts are
those of one account. -/
lemma autogenerated_ok_iff :
    ((autogenerated d).on p).1 = .ok report ↔
      ∃ q r s t text again,
        (SeedPage.setPhrase none).on p = (.ok (), q) ∧
        (SeedPage.storedText storageKey).on q = (.ok (some text), r) ∧
        PageTask.on SeedPage.reload r = (.ok (), s) ∧
        (SeedPage.storedText storageKey).on s = (.ok (some again), t) ∧
        Derives d text report.address ∧ Derives d again report.address ∧
        report.name = "autogenerated seed phrase" := by
  constructor
  · intro passes
    obtain ⟨calls, result, q, way⟩ := exists_autogenerated d p
    rw [way.on_eq] at passes
    cases way with
    | passed set kept loaded kept' =>
      cases passes
      obtain ⟨text, read, derives⟩ := keptAddress_ok_iff.1 kept
      obtain ⟨again, reread, derives'⟩ := keptAddress_ok_iff.1 kept'
      exact ⟨_, _, _, _, text, again, set, read, loaded, reread, derives, derives', rfl⟩
    | _ => cases passes
  · rintro ⟨q, r, s, t, text, again, set, read, loaded, reread, derives, derives', named⟩
    have kept := keptAddress_ok_iff.2 ⟨text, read, derives⟩
    have kept' := keptAddress_ok_iff.2 ⟨again, reread, derives'⟩
    rw [(Autogenerated.passed set kept loaded kept').on_eq, ← named]

/-- The calls are always made in the same order, and none is left out. -/
lemma Autogenerated.calls_prefix (h : Autogenerated d p calls result q) :
    calls <+: [.setPhrase none, .storedText storageKey, .reload, .storedText storageKey] := by
  cases h with
  | unset failed => exact ⟨_, rfl⟩
  | unkept set failed => exact ⟨_, rfl⟩
  | unloaded set kept failed => exact ⟨_, rfl⟩
  | lost set kept loaded failed => exact List.prefix_rfl
  | changed set kept loaded again ne => exact List.prefix_rfl
  | passed set kept loaded again => exact List.prefix_rfl

/-- The scenario with an entered phrase passes if the page tells of that phrase first, and then of
the text of any account. -/
lemma custom_ok_iff :
    ((custom d phrase).on p).1 = .ok report ↔
      ∃ q r s text,
        (SeedPage.setPhrase (some phrase)).on p = (.ok (), q) ∧
        (SeedPage.storedText storageKey).on q = (.ok (some phrase), r) ∧
        (SeedPage.storedText storageKey).on r = (.ok (some text), s) ∧
        Derives d text report.address ∧ report.name = "custom seed phrase" := by
  constructor
  · intro passes
    obtain ⟨result, q, way⟩ := exists_custom d phrase p
    rw [way.on_eq] at passes
    cases way with
    | passed set read kept =>
      cases passes
      obtain ⟨text, reread, derives⟩ := keptAddress_ok_iff.1 kept
      exact ⟨_, _, _, text, set, read, reread, derives, rfl⟩
    | _ => cases passes
  · rintro ⟨q, r, s, text, set, read, reread, derives, named⟩
    have kept := keptAddress_ok_iff.2 ⟨text, reread, derives⟩
    rw [(Custom.passed set read kept).on_eq, ← named]

/-- The scenario with the suggested phrase passes if and only if the phrase can be accepted, a text
is kept then, the page can be loaded again, and a text is kept after that, both of them phrases
whose accounts have one address, which is reported. The page is called for these four things in this
order and for nothing else, and at the first one that does not go well the scenario fails and calls
it no more. -/
theorem passes_if_account_survives (d : AccountDeriver) (p : π) :
    let run := (autogenerated d).on ({ page := p } : RecordedPage π)
    (autogenerated d).on p = (run.1, run.2.page) ∧
    (∀ report, run.1 = .ok report ↔
      ∃ q r s t text again,
        (SeedPage.setPhrase none).on p = (.ok (), q) ∧
        (SeedPage.storedText storageKey).on q = (.ok (some text), r) ∧
        PageTask.on SeedPage.reload r = (.ok (), s) ∧
        (SeedPage.storedText storageKey).on s = (.ok (some again), t) ∧
        Derives d text report.address ∧ Derives d again report.address ∧
        report.name = "autogenerated seed phrase") ∧
    run.2.calls <+: [.setPhrase none, .storedText storageKey, .reload, .storedText storageKey] ∧
    (∀ e q, (SeedPage.setPhrase none).on p = (.error e, q) →
      run = (.error e, { page := q, calls := [.setPhrase none] })) ∧
    ∀ q answer r, (SeedPage.setPhrase none).on p = (.ok (), q) →
      (SeedPage.storedText storageKey).on q = (answer, r) →
      ((∀ text address, answer = .ok (some text) → ¬ Derives d text address) →
        ∃ e, run = (.error e, { page := r, calls := [.setPhrase none, .storedText storageKey] })) ∧
      ∀ text address, answer = .ok (some text) → Derives d text address →
        (∀ e s, PageTask.on SeedPage.reload r = (.error e, s) →
          run = (.error e,
            { page := s, calls := [.setPhrase none, .storedText storageKey, .reload] })) ∧
        ∀ s again t, PageTask.on SeedPage.reload r = (.ok (), s) →
          (SeedPage.storedText storageKey).on s = (again, t) →
          run.2.calls =
            [.setPhrase none, .storedText storageKey, .reload, .storedText storageKey] ∧
          ((∀ text, again = .ok (some text) → ¬ Derives d text address) →
            ∃ e, run.1 = .error e) := by
  intro run
  obtain ⟨calls, result, q, way⟩ := exists_autogenerated d p
  have recorded : run = (result, { page := q, calls }) := way.on_recorded
  have same : (autogenerated d).on p = (run.1, run.2.page) := by
    rw [way.on_eq, recorded]
  -- all that is said of the recorded calls is read off the way that the run went
  refine ⟨same, fun report => ?_, ?_, fun e q failed => ?_, fun q answer r set read => ⟨?_, ?_⟩⟩
  · rw [← autogenerated_ok_iff, same]
  · rw [recorded]
    exact way.calls_prefix
  · exact (Autogenerated.unset failed).on_recorded
  · intro useless
    obtain ⟨e, failed⟩ := keptAddress_error read useless
    exact ⟨_, (Autogenerated.unkept set failed).on_recorded⟩
  · rintro text address rfl derives
    have kept := keptAddress_ok_iff.2 ⟨text, read, derives⟩
    refine ⟨fun e s failed => (Autogenerated.unloaded set kept failed).on_recorded, ?_⟩
    intro s again t loaded reread
    obtain ⟨_, reloaded, outcome⟩ := exists_behind_reload set kept loaded (keptAddress_on reread)
    rw [show run = _ from reloaded.on_recorded]
    refine ⟨rfl, fun useless => ?_⟩
    obtain failed | found := outcome
    · exact failed
    · obtain ⟨text', answered, derives'⟩ := addressIn_ok_iff.1 found
      exact absurd derives' (useless text' answered)

end Pages

/-- A page that accepts every phrase and shows another text each time its storage is read. -/
structure ChangingPage where
  texts : List String
  deriving DecidableEq, Repr

/-- Such a page accepts any phrase, and has one text less to show after each reading. -/
instance : SeedPage ChangingPage where
  setPhrase _ := pure ()
  storedText _ := fun p => (.ok p.texts.head?, ⟨p.texts.tail⟩)
  reload := pure ()

/-- The scenario with an entered phrase passes if and only if the page accepts the phrase, keeps it
as it was typed, and tells of the text of an account when it is asked once more; the address of that
account is reported. So the report is about the phrase that was entered exactly if the text that is
read last has the same account, as it has if it is still that phrase. Nothing else sees to it: after
any phrase whatsoever, even one that is no phrase at all, a page that changes between the two
readings passes with the account of any other. -/
theorem reports_text_read_last {π : Type} [SeedPage π] (d : AccountDeriver) (phrase : String)
    (p : π) :
    (∀ report, ((custom d phrase).on p).1 = .ok report ↔
      ∃ q r s text,
        (SeedPage.setPhrase (some phrase)).on p = (.ok (), q) ∧
        (SeedPage.storedText storageKey).on q = (.ok (some phrase), r) ∧
        (SeedPage.storedText storageKey).on r = (.ok (some text), s) ∧
        Derives d text report.address ∧ report.name = "custom seed phrase") ∧
    (∀ report q r s text, ((custom d phrase).on p).1 = .ok report →
      (SeedPage.setPhrase (some phrase)).on p = (.ok (), q) →
      (SeedPage.storedText storageKey).on q = (.ok (some phrase), r) →
      (SeedPage.storedText storageKey).on r = (.ok (some text), s) →
      (Derives d phrase report.address ↔
        ∀ address, Derives d text address ↔ Derives d phrase address)) ∧
    ∀ text address, Derives d text address →
      ((custom d phrase).on (ChangingPage.mk [phrase, text])).1 =
        .ok { name := "custom seed phrase", address } := by
  refine ⟨fun report => custom_ok_iff, ?_, ?_⟩
  · intro report q r s text passes set read reread
    obtain ⟨q', r', s', text', set', read', reread', derives, _⟩ := custom_ok_iff.1 passes
    -- the page answers once, so these are the same readings
    rw [set] at set'
    cases set'
    rw [read] at read'
    cases read'
    rw [reread] at reread'
    cases reread'
    constructor
    · intro entered address
      constructor
      · intro h
        exact derives.unique h ▸ entered
      · intro h
        exact entered.unique h ▸ derives
    · intro same
      exact (same report.address).1 derives
  · intro text address derives
    exact custom_ok_iff.2 ⟨_, _, _, text, rfl, rfl, rfl, derives, rfl⟩

end SeedVault.Scenario
