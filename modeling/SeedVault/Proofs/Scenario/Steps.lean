import SeedVault.Proofs.Attempt
import SeedVault.Scenario.Request

/-!
# What a scenario does on a page

A scenario calls the page's operations in turn and stops at the first answer that is not what it is
looking for. `Autogenerated` and `Custom` list the ways in which that can go, with the report of
each failure and the page that is left. One of them is always taken (`exists_autogenerated`,
`exists_custom`), and it says what the scenario does (`on_eq`), the one with the suggested phrase
also on a page whose calls are recorded (`on_recorded`).
-/

namespace SeedVault

open Secret (storageKey)

namespace PageTask

variable {π α β : Type} {task : PageTask π α} {next : α → PageTask π β} {p q : π}

/-- After a success the next task goes on from the page behind it. -/
lemma bind_of_ok {a} (h : task.on p = (.ok a, q)) : on (task >>= next) p = (next a).on q :=
  Attempt.bind_of_ok h

/-- After a failure the next task does not begin. -/
lemma bind_of_error {e} (h : task.on p = (.error e, q)) : on (task >>= next) p = (.error e, q) :=
  Attempt.bind_of_error h

end PageTask

namespace Scenario

/-- A text is a phrase whose account has an address. -/
def Derives (d : AccountDeriver) (text address : String) : Prop :=
  ∃ m k, Mnemonic.parse text = .ok m ∧ d.derive m = .ok k ∧ k.address = address

/-- The address of the account that a page's answer tells of. -/
def addressIn (d : AccountDeriver) (answer : Except Report (Option String)) :
    Except Report String :=
  answer.bind (addressOf d)

section Addresses

variable {d : AccountDeriver} {text address : String}

/-- A text has an address if it is a phrase from which an account is derived. -/
lemma addressOf_ok_iff : addressOf d (some text) = .ok address ↔ Derives d text address := by
  unfold addressOf noting
  simp only [Attempt.ok_bind_iff, Attempt.ok_mapError_iff]
  constructor
  · rintro ⟨m, parsed, k, derived, h⟩
    cases h
    exact ⟨m, k, parsed, derived, rfl⟩
  · rintro ⟨m, k, parsed, derived, rfl⟩
    exact ⟨m, parsed, k, derived, rfl⟩

/-- An answer tells of an account if it is the text of one. -/
lemma addressIn_ok_iff {answer} :
    addressIn d answer = .ok address ↔
      ∃ text, answer = .ok (some text) ∧ Derives d text address := by
  unfold addressIn
  change (answer >>= addressOf d) = _ ↔ _
  rw [Attempt.ok_bind_iff]
  constructor
  · rintro ⟨stored, rfl, h⟩
    cases stored with
    | none => cases h
    | some text => exact ⟨text, rfl, addressOf_ok_iff.1 h⟩
  · rintro ⟨text, rfl, h⟩
    exact ⟨some text, rfl, addressOf_ok_iff.2 h⟩

/-- A text has one address at most. -/
lemma Derives.unique {other} (h : Derives d text address) (h' : Derives d text other) :
    other = address := by
  rw [← addressOf_ok_iff] at h h'
  exact Except.ok.inj (h'.symm.trans h)

end Addresses

section Ways

variable {π : Type} [SeedPage π] {d : AccountDeriver} {phrase : String} {p q : π}
  {calls : List PageCall} {result : Except Report ScenarioResult}

/-- What can come of the scenario with the suggested phrase: the calls that it makes, its result and
the page behind it. -/
inductive Autogenerated (d : AccountDeriver) (p : π) :
    List PageCall → Except Report ScenarioResult → π → Prop
  | unset {e q} (failed : (SeedPage.setPhrase none).on p = (.error e, q)) :
    Autogenerated d p [.setPhrase none] (.error e) q
  | unkept {q e r} (set : (SeedPage.setPhrase none).on p = (.ok (), q))
      (failed : (keptAddress d).on q = (.error e, r)) :
    Autogenerated d p [.setPhrase none, .storedText storageKey]
      (.error (e.during "no usable seed phrase after accepting the generated one")) r
  | unloaded {q address r e s} (set : (SeedPage.setPhrase none).on p = (.ok (), q))
      (kept : (keptAddress d).on q = (.ok address, r))
      (failed : PageTask.on SeedPage.reload r = (.error e, s)) :
    Autogenerated d p [.setPhrase none, .storedText storageKey, .reload] (.error e) s
  | lost {q address r s e t} (set : (SeedPage.setPhrase none).on p = (.ok (), q))
      (kept : (keptAddress d).on q = (.ok address, r))
      (loaded : PageTask.on SeedPage.reload r = (.ok (), s))
      (failed : (keptAddress d).on s = (.error e, t)) :
    Autogenerated d p [.setPhrase none, .storedText storageKey, .reload, .storedText storageKey]
      (.error (e.during "seed phrase did not survive a reload")) t
  | changed {q address r s other t} (set : (SeedPage.setPhrase none).on p = (.ok (), q))
      (kept : (keptAddress d).on q = (.ok address, r))
      (loaded : PageTask.on SeedPage.reload r = (.ok (), s))
      (again : (keptAddress d).on s = (.ok other, t)) (ne : other ≠ address) :
    Autogenerated d p [.setPhrase none, .storedText storageKey, .reload, .storedText storageKey]
      (.error [.note ("address changed after reload: " ++ address ++ " != " ++ other)]) t
  | passed {q address r s t} (set : (SeedPage.setPhrase none).on p = (.ok (), q))
      (kept : (keptAddress d).on q = (.ok address, r))
      (loaded : PageTask.on SeedPage.reload r = (.ok (), s))
      (again : (keptAddress d).on s = (.ok address, t)) :
    Autogenerated d p [.setPhrase none, .storedText storageKey, .reload, .storedText storageKey]
      (.ok { name := "autogenerated seed phrase", address }) t

/-- What can come of the scenario with an entered phrase, and the page behind it. -/
inductive Custom (d : AccountDeriver) (phrase : String) (p : π) :
    Except Report ScenarioResult → π → Prop
  | unset {e q} (failed : (SeedPage.setPhrase (some phrase)).on p = (.error e, q)) :
    Custom d phrase p (.error e) q
  | unread {q e r} (set : (SeedPage.setPhrase (some phrase)).on p = (.ok (), q))
      (failed : (SeedPage.storedText storageKey).on q = (.error e, r)) :
    Custom d phrase p (.error e) r
  | unlike {q stored r} (set : (SeedPage.setPhrase (some phrase)).on p = (.ok (), q))
      (read : (SeedPage.storedText storageKey).on q = (.ok stored, r)) (ne : stored ≠ some phrase) :
    Custom d phrase p (.error [.note "stored value does not match the entered seed phrase"]) r
  | unkept {q r e s} (set : (SeedPage.setPhrase (some phrase)).on p = (.ok (), q))
      (read : (SeedPage.storedText storageKey).on q = (.ok (some phrase), r))
      (failed : (keptAddress d).on r = (.error e, s)) :
    Custom d phrase p (.error e) s
  | passed {q r address s} (set : (SeedPage.setPhrase (some phrase)).on p = (.ok (), q))
      (read : (SeedPage.storedText storageKey).on q = (.ok (some phrase), r))
      (kept : (keptAddress d).on r = (.ok address, s)) :
    Custom d phrase p (.ok { name := "custom seed phrase", address }) s

/-- The kept address is the one that the page's answer tells of. -/
lemma keptAddress_on {answer} (read : (SeedPage.storedText storageKey).on p = (answer, q)) :
    (keptAddress d).on p = (addressIn d answer, q) := by
  cases answer with
  | error e => exact PageTask.bind_of_error read
  | ok stored => exact PageTask.bind_of_ok read

/-- An address is kept if the page's answer is the text of its account. -/
lemma keptAddress_ok_iff {address} :
    (keptAddress d).on p = (.ok address, q) ↔
      ∃ text, (SeedPage.storedText storageKey).on p = (.ok (some text), q) ∧
        Derives d text address := by
  cases read : (SeedPage.storedText storageKey).on p with
  | mk answer r =>
    rw [keptAddress_on read, Prod.mk.injEq, addressIn_ok_iff]
    constructor
    · rintro ⟨⟨text, rfl, derives⟩, rfl⟩
      exact ⟨text, rfl, derives⟩
    · rintro ⟨text, h, derives⟩
      cases h
      exact ⟨⟨text, rfl, derives⟩, rfl⟩

/-- No address is kept if the page's answer is no text of an account. -/
lemma keptAddress_error {answer} (read : (SeedPage.storedText storageKey).on p = (answer, q))
    (none : ∀ text address, answer = .ok (some text) → ¬ Derives d text address) :
    ∃ e, (keptAddress d).on p = (.error e, q) := by
  cases found : addressIn d answer with
  | error e => exact ⟨e, by rw [keptAddress_on read, found]⟩
  | ok address =>
    obtain ⟨text, e, derives⟩ := addressIn_ok_iff.1 found
    exact absurd derives (none text address e)

omit [SeedPage π] in
/-- A note changes the report of a failure only. -/
lemma during_on {α : Type} {note : String} {task : PageTask π α} {outcome : Except Report α}
    (h : task.on p = (outcome, q)) :
    (during note task).on p = (outcome.mapError (Report.during note), q) := by
  change ((task.on p).1.mapError (Report.during note), (task.on p).2) = _
  rw [h]

/-- Each way the scenario can go is what it does. -/
lemma Autogenerated.on_eq (h : Autogenerated d p calls result q) :
    (autogenerated d).on p = (result, q) := by
  unfold autogenerated
  cases h with
  | unset failed => exact PageTask.bind_of_error failed
  | unkept set failed =>
    rw [PageTask.bind_of_ok set]
    exact PageTask.bind_of_error (during_on failed)
  | unloaded set kept failed =>
    rw [PageTask.bind_of_ok set, PageTask.bind_of_ok (during_on kept)]
    exact PageTask.bind_of_error failed
  | lost set kept loaded failed =>
    rw [PageTask.bind_of_ok set, PageTask.bind_of_ok (during_on kept), PageTask.bind_of_ok loaded]
    exact PageTask.bind_of_error (during_on failed)
  | changed set kept loaded again ne =>
    rw [PageTask.bind_of_ok set, PageTask.bind_of_ok (during_on kept), PageTask.bind_of_ok loaded,
      PageTask.bind_of_ok (during_on again), if_neg ne]
    rfl
  | passed set kept loaded again =>
    rw [PageTask.bind_of_ok set, PageTask.bind_of_ok (during_on kept), PageTask.bind_of_ok loaded,
      PageTask.bind_of_ok (during_on again), if_pos rfl]
    rfl

/-- All four calls are made if the page was loaded again, and the scenario fails then unless the
address is still kept. -/
lemma exists_behind_reload {address r s answer t}
    (set : (SeedPage.setPhrase none).on p = (.ok (), q))
    (kept : (keptAddress d).on q = (.ok address, r))
    (loaded : PageTask.on SeedPage.reload r = (.ok (), s))
    (again : (keptAddress d).on s = (answer, t)) :
    ∃ result, Autogenerated d p
        [.setPhrase none, .storedText storageKey, .reload, .storedText storageKey] result t ∧
      ((∃ e, result = .error e) ∨ answer = .ok address) := by
  cases answer with
  | error e => exact ⟨_, .lost set kept loaded again, .inl ⟨_, rfl⟩⟩
  | ok other =>
    by_cases same : other = address
    · subst same
      exact ⟨_, .passed set kept loaded again, .inr rfl⟩
    · exact ⟨_, .changed set kept loaded again same, .inl ⟨_, rfl⟩⟩

/-- The scenario with a suggested phrase goes one of these ways. -/
lemma exists_autogenerated (d : AccountDeriver) (p : π) :
    ∃ calls result q, Autogenerated d p calls result q := by
  cases set : (SeedPage.setPhrase none).on p with
  | mk done q =>
    cases done with
    | error e => exact ⟨_, _, _, .unset set⟩
    | ok u =>
      cases kept : (keptAddress d).on q with
      | mk address r =>
        cases address with
        | error e => exact ⟨_, _, _, .unkept set kept⟩
        | ok address =>
          cases loaded : PageTask.on SeedPage.reload r with
          | mk done s =>
            cases done with
            | error e => exact ⟨_, _, _, .unloaded set kept loaded⟩
            | ok u =>
              obtain ⟨result, way, _⟩ := exists_behind_reload set kept loaded rfl
              exact ⟨_, result, _, way⟩

/-- Each way the scenario can go is what it does. -/
lemma Custom.on_eq (h : Custom d phrase p result q) :
    (custom d phrase).on p = (result, q) := by
  unfold custom
  cases h with
  | unset failed => exact PageTask.bind_of_error failed
  | unread set failed =>
    rw [PageTask.bind_of_ok set]
    exact PageTask.bind_of_error failed
  | unlike set read ne =>
    rw [PageTask.bind_of_ok set, PageTask.bind_of_ok read, if_neg ne]
    rfl
  | unkept set read failed =>
    rw [PageTask.bind_of_ok set, PageTask.bind_of_ok read, if_pos rfl]
    exact PageTask.bind_of_error failed
  | passed set read kept =>
    rw [PageTask.bind_of_ok set, PageTask.bind_of_ok read, if_pos rfl]
    exact PageTask.bind_of_ok kept

/-- The scenario with an entered phrase goes one of these ways. -/
lemma exists_custom (d : AccountDeriver) (phrase : String) (p : π) :
    ∃ result q, Custom d phrase p result q := by
  cases set : (SeedPage.setPhrase (some phrase)).on p with
  | mk done q =>
    cases done with
    | error e => exact ⟨_, _, .unset set⟩
    | ok u =>
      cases read : (SeedPage.storedText storageKey).on q with
      | mk answer r =>
        cases answer with
        | error e => exact ⟨_, _, .unread set read⟩
        | ok stored =>
          by_cases same : stored = some phrase
          · subst same
            cases kept : (keptAddress d).on r with
            | mk address s =>
              cases address with
              | error e => exact ⟨_, _, .unkept set read kept⟩
              | ok address => exact ⟨_, _, .passed set read kept⟩
          · exact ⟨_, _, .unlike set read same⟩

end Ways

section Recorded

variable {π : Type} [SeedPage π] {d : AccountDeriver} {p q : π} {calls before : List PageCall}
  {result : Except Report ScenarioResult}

omit [SeedPage π] in
/-- A recorded page does what the page does, and notes the call. -/
lemma pass_on {α : Type} {task : PageTask π α} {outcome : Except Report α} {call : PageCall}
    (h : task.on p = (outcome, q)) :
    (RecordedPage.pass call task).on { page := p, calls := before } =
      (outcome, { page := q, calls := before ++ [call] }) := by
  change ((task.on p).1, RecordedPage.mk (task.on p).2 (before ++ [call])) = _
  rw [h]

/-- For the address that is kept, one call is noted. -/
lemma keptAddress_on_recorded {outcome} (h : (keptAddress d).on p = (outcome, q)) :
    (keptAddress d).on ({ page := p, calls := before } : RecordedPage π) =
      (outcome, { page := q, calls := before ++ [.storedText storageKey] }) := by
  cases read : (SeedPage.storedText storageKey).on p with
  | mk answer r =>
    rw [keptAddress_on read] at h
    cases h
    exact keptAddress_on (pass_on read)

/-- The calls are those that get recorded. -/
lemma Autogenerated.on_recorded (h : Autogenerated d p calls result q) :
    (autogenerated d).on ({ page := p } : RecordedPage π) = (result, { page := q, calls }) := by
  cases h with
  | unset failed => exact Autogenerated.on_eq (.unset (pass_on failed))
  | unkept set failed =>
    exact Autogenerated.on_eq (.unkept (pass_on set) (keptAddress_on_recorded failed))
  | unloaded set kept failed =>
    exact Autogenerated.on_eq
      (.unloaded (pass_on set) (keptAddress_on_recorded kept) (pass_on failed))
  | lost set kept loaded failed =>
    exact Autogenerated.on_eq
      (.lost (pass_on set) (keptAddress_on_recorded kept) (pass_on loaded)
        (keptAddress_on_recorded failed))
  | changed set kept loaded again ne =>
    exact Autogenerated.on_eq
      (.changed (pass_on set) (keptAddress_on_recorded kept) (pass_on loaded)
        (keptAddress_on_recorded again) ne)
  | passed set kept loaded again =>
    exact Autogenerated.on_eq
      (.passed (pass_on set) (keptAddress_on_recorded kept) (pass_on loaded)
        (keptAddress_on_recorded again))

end Recorded

end Scenario

end SeedVault
