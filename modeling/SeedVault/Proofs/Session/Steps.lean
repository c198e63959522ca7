import SeedVault.Proofs.Attempt
import SeedVault.Session.Request

/-!
# What one request does to a session

Each operation calls the store at most once, under the key of the phrase, and what the store answers
decides the rest: the answer, and what the session tells (`accept_cases`, `logout_cases`,
`keys_apply`, `restore_apply`). `Served` lists all that can happen to a request, and whatever is
asked, one of it does (`served`).
-/

namespace SeedVault.Session
open Secret

variable {σ : Type}

/-- The session behind an operation: its store is another one, and it has told some more. -/
def told (s : SessionState σ) (t : σ) (events : List SessionEvent) : SessionState σ :=
  { store := t, events := s.events ++ events }

/-- The second of two things to do begins with what the first one gives. -/
lemma bind_apply {α β : Type} (act : StateM (SessionState σ) α)
    (next : α → StateM (SessionState σ) β) (s : SessionState σ) :
    (act >>= next) s = next (act s).1 (act s).2 := rfl

/-- To tell something is to add it to what was told. -/
lemma tell_apply (e : SessionEvent) (s : SessionState σ) :
    tell e s = ((), told s s.store [e]) := rfl

/-- An operation on the store tells nothing. -/
lemma onStore_apply {α : Type} {op : σ → α × σ} {s : SessionState σ} {a t}
    (h : op s.store = (a, t)) :
    onStore op s = (a, told s t []) := by
  change ((op s.store).1, { s with store := (op s.store).2 }) = _
  rw [h, told, List.append_nil]

/-- What is told piece by piece is told. -/
lemma told_told (s : SessionState σ) (t t' : σ) (before behind : List SessionEvent) :
    told (told s t before) t' behind = told s t' (before ++ behind) := by
  rw [told, told, told, List.append_assoc]

/-- The keys that a stored text gives, if it gives a phrase. -/
def keysOf (d : AccountDeriver) (stored : Except StorageError (Option String)) :
    Except DeriveError (Option KeyPair) :=
  (phraseIn stored).elim (.ok none) fun m => (d.derive m).map some

/-- The address that a stored text gives. -/
def addressOf (d : AccountDeriver) (stored : Except StorageError (Option String)) : Option String :=
  (phraseIn stored).bind fun m => (d.derive m).toOption.map KeyPair.address

/-- A stored text means a phrase if it can be read and is one. -/
lemma phraseIn_eq_some_iff {stored m} :
    phraseIn stored = some m ↔
      ∃ text, stored = .ok (some text) ∧ Mnemonic.parse text = .ok m := by
  constructor
  · intro h
    match stored with
    | .error e => cases h
    | .ok none => cases h
    | .ok (some text) => exact ⟨text, rfl, Attempt.toOption_eq_some_iff.1 h⟩
  · rintro ⟨text, rfl, parsed⟩
    exact Attempt.toOption_eq_some_iff.2 parsed

/-- A stored text gives the address of the keys that its phrase gives. -/
lemma addressOf_eq_some_iff {d : AccountDeriver} {stored address} :
    addressOf d stored = some address ↔
      ∃ text m k, stored = .ok (some text) ∧ Mnemonic.parse text = .ok m ∧ d.derive m = .ok k ∧
        k.address = address := by
  rw [addressOf, Option.bind_eq_some_iff]
  constructor
  · rintro ⟨m, means, h⟩
    obtain ⟨text, rfl, parsed⟩ := phraseIn_eq_some_iff.1 means
    obtain ⟨k, derived, rfl⟩ := Option.map_eq_some_iff.1 h
    exact ⟨text, m, k, rfl, parsed, Attempt.toOption_eq_some_iff.1 derived, rfl⟩
  · rintro ⟨text, m, k, rfl, parsed, derived, rfl⟩
    refine ⟨m, phraseIn_eq_some_iff.2 ⟨text, rfl, parsed⟩, ?_⟩
    exact Option.map_eq_some_iff.2 ⟨k, Attempt.toOption_eq_some_iff.2 derived, rfl⟩

variable [KeyValueStore σ] {s : SessionState σ}

/-- A request with its answer and the session behind it. -/
inductive Served (s : SessionState σ) : SessionRequest → SessionAnswer → SessionState σ → Prop
  | accepted {m t} (taken : KeyValueStore.set storageKey m.phrase s.store = (.ok (), t)) :
    Served s (.accept m) (.accepted (.ok ())) (told s t [.loading true, .navigate .dashboard])
  | unaccepted {m e t} (failed : KeyValueStore.set storageKey m.phrase s.store = (.error e, t)) :
    Served s (.accept m) (.accepted (.error (.storage e)))
      (told s t [.loading true, .loading false])
  | unsound {typed e} (invalid : Mnemonic.parse typed = .error e) :
    Served s (.enter typed) (.entered (.error (.phrase e))) s
  | entered {typed m t} (valid : Mnemonic.parse typed = .ok m)
      (taken : KeyValueStore.set storageKey typed s.store = (.ok (), t)) :
    Served s (.enter typed) (.entered (.ok m)) (told s t [.loading true, .navigate .dashboard])
  | unentered {typed m e t} (valid : Mnemonic.parse typed = .ok m)
      (failed : KeyValueStore.set storageKey typed s.store = (.error e, t)) :
    Served s (.enter typed) (.entered (.error (.storage e)))
      (told s t [.loading true, .loading false])
  | restored {d stored t} (got : KeyValueStore.get storageKey s.store = (stored, t)) :
    Served s (.restore d) (.restored (addressOf d stored)) (told s t [])
  | keys {d stored t} (got : KeyValueStore.get storageKey s.store = (stored, t)) :
    Served s (.keys d) (.keys (keysOf d stored)) (told s t [])
  | loggedOut {t} (removed : KeyValueStore.remove storageKey s.store = (.ok (), t)) :
    Served s .logout (.loggedOut (.ok ())) (told s t [.navigate .setSeed])
  | stillIn {e t} (failed : KeyValueStore.remove storageKey s.store = (.error e, t)) :
    Served s .logout (.loggedOut (.error (.storage e))) (told s t [])
  | reloaded : Served s .reload .reloaded { store := s.store }

/-- A text is accepted if the store takes it. -/
lemma accept_cases (text : String) (s : SessionState σ) :
    (∃ t, KeyValueStore.set storageKey text s.store = (.ok (), t) ∧
      accept text s = (.ok (), told s t [.loading true, .navigate .dashboard])) ∨
    (∃ e t, KeyValueStore.set storageKey text s.store = (.error e, t) ∧
      accept text s = (.error (.storage e), told s t [.loading true, .loading false])) := by
  cases h : KeyValueStore.set storageKey text s.store with
  | mk result t =>
    have asked : onStore (keepText text) (told s s.store [.loading true]) =
        (result, told (told s s.store [.loading true]) t []) := onStore_apply h
    unfold accept
    rw [bind_apply, tell_apply, bind_apply, asked]
    cases result with
    | ok u =>
      refine .inl ⟨t, rfl, ?_⟩
      simp only [bind_apply, tell_apply, told_told]
      rfl
    | error e =>
      refine .inr ⟨e, t, rfl, ?_⟩
      simp only [bind_apply, tell_apply, told_told]
      rfl

/-- A session is left if the store lets the phrase go. -/
lemma logout_cases (s : SessionState σ) :
    (∃ t, KeyValueStore.remove storageKey s.store = (.ok (), t) ∧
      logout s = (.ok (), told s t [.navigate .setSeed])) ∨
    (∃ e t, KeyValueStore.remove storageKey s.store = (.error e, t) ∧
      logout s = (.error (.storage e), told s t [])) := by
  cases h : KeyValueStore.remove storageKey s.store with
  | mk result t =>
    have asked : onStore clear s = (result, told s t []) := onStore_apply h
    unfold logout
    rw [bind_apply, asked]
    cases result with
    | ok u =>
      refine .inl ⟨t, rfl, ?_⟩
      simp only [bind_apply, tell_apply, told_told]
      rfl
    | error e => exact .inr ⟨e, t, rfl, rfl⟩

/-- The kept phrase is the one that the stored text means. -/
lemma load_apply {stored t} (got : KeyValueStore.get storageKey s.store = (stored, t)) :
    load s = (phraseIn stored, told s t []) := by
  unfold load
  refine onStore_apply ?_
  rw [Secret.load, got]

/-- The keys are those of the stored text. -/
lemma keys_apply {d stored t} (got : KeyValueStore.get storageKey s.store = (stored, t)) :
    keys d s = (keysOf d stored, told s t []) := by
  unfold keys keysOf
  rw [bind_apply, load_apply got]
  cases phraseIn stored with
  | none => rfl
  | some m => rfl

/-- The restored address is that of the stored text. -/
lemma restore_apply {d stored t} (got : KeyValueStore.get storageKey s.store = (stored, t)) :
    restore d s = (addressOf d stored, told s t []) := by
  unfold restore addressOf
  rw [bind_apply, keys_apply got, keysOf]
  cases phraseIn stored with
  | none => rfl
  | some m =>
    simp only [Option.elim_some, Option.bind_some]
    cases d.derive m with
    | error e => rfl
    | ok k => rfl

/-- Whatever is asked, one of the things that can happen to it does. -/
theorem served (q : SessionRequest) (s : SessionState σ) :
    Served s q (serve q s).1 (serve q s).2 := by
  cases q with
  | accept m =>
    have step :
        serve (.accept m) s = (.accepted (accept m.phrase s).1, (accept m.phrase s).2) := rfl
    obtain ⟨t, taken, e⟩ | ⟨e', t, failed, e⟩ := accept_cases m.phrase s
    · rw [step, e]
      exact .accepted taken
    · rw [step, e]
      exact .unaccepted failed
  | enter typed =>
    have step : serve (.enter typed) s = (.entered (enter typed s).1, (enter typed s).2) := rfl
    cases parsed : Mnemonic.parse typed with
    | error e =>
      rw [step, enter, parsed]
      exact .unsound parsed
    | ok m =>
      rw [step, enter, parsed]
      simp only [bind_apply]
      obtain ⟨t, taken, e⟩ | ⟨e', t, failed, e⟩ := accept_cases typed s
      · rw [e]
        exact .entered parsed taken
      · rw [e]
        exact .unentered parsed failed
  | restore d =>
    have step : serve (.restore d) s = (.restored (restore d s).1, (restore d s).2) := rfl
    rw [step, restore_apply rfl]
    exact .restored rfl
  | keys d =>
    have step : serve (.keys d) s = (.keys (keys d s).1, (keys d s).2) := rfl
    rw [step, keys_apply rfl]
    exact .keys rfl
  | logout =>
    have step : serve .logout s = (.loggedOut (logout s).1, (logout s).2) := rfl
    obtain ⟨t, removed, e⟩ | ⟨e', t, failed, e⟩ := logout_cases s
    · rw [step, e]
      exact .loggedOut removed
    · rw [step, e]
      exact .stillIn failed
  | reload => exact .reloaded

end SeedVault.Session
