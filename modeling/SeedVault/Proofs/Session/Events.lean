import SeedVault.Proofs.Phrase.Mnemonic
import SeedVault.Proofs.Session.Steps
import SeedVault.Proofs.Storage.Lawful

/-!
# What sessions tell

A text is taken as a whole or not at all: either the store has it and the user interface goes to the
dashboard (`Taken`), or nothing is kept and the user interface stays where it is (`Untaken`). What
sessions tell while they serve requests is put together of three notices (`trace_eq_notices`), and
the dashboard is never shown before a phrase was written (`Served.written`). The main statement is
`takes_all_or_nothing`.
-/

namespace SeedVault.Session
open Secret LawfulStore

/-- What a session tells about one request. -/
inductive Notice where
  | accepted
  | refused
  | left
  deriving DecidableEq, Repr

/-- The events of a notice. -/
def Notice.events : Notice → List SessionEvent
  | accepted => [.loading true, .navigate .dashboard]
  | refused => [.loading true, .loading false]
  | left => [.navigate .setSeed]

/-- The notice that a served request is due, if it is due one. -/
def notice? : SessionRequest × SessionAnswer → Option Notice
  | (.accept _, .accepted (.ok _)) => some .accepted
  | (.accept _, .accepted (.error _)) => some .refused
  | (.enter _, .entered (.ok _)) => some .accepted
  | (.enter _, .entered (.error (.storage _))) => some .refused
  | (.logout, .loggedOut (.ok _)) => some .left
  | _ => none

section Trace

variable {σ : Type} [KeyValueStore σ]

/-- What is told while a request is served. -/
def toldBy (q : SessionRequest) (s : SessionState σ) : List SessionEvent :=
  (serve q s).2.events.drop s.events.length

/-- What is told while requests are served, also by sessions that made way for new ones since. -/
def trace (qs : List SessionRequest) (s : SessionState σ) : List SessionEvent :=
  match qs with
  | [] => []
  | q :: qs => toldBy q s ++ trace qs (serve q s).2

variable {s t : SessionState σ} {q : SessionRequest} {a : SessionAnswer}

/-- The notice of a request is told behind what was told before, unless a new session takes over,
which has told nothing yet. -/
lemma Served.events_eq (h : Served s q a t) :
    t.events = s.events ++ (notice? (q, a)).elim [] Notice.events ∨
      q = .reload ∧ a = .reloaded ∧ t.events = [] := by
  cases h with
  | accepted taken => exact .inl rfl
  | unaccepted failed => exact .inl rfl
  | unsound invalid => exact .inl (List.append_nil _).symm
  | entered valid taken => exact .inl rfl
  | unentered valid failed => exact .inl rfl
  | restored got => exact .inl rfl
  | keys got => exact .inl rfl
  | loggedOut removed => exact .inl rfl
  | stillIn failed => exact .inl rfl
  | reloaded => exact .inr ⟨rfl, rfl, rfl⟩

/-- A request tells the notice that it is due and nothing else. -/
lemma toldBy_eq (q : SessionRequest) (s : SessionState σ) :
    toldBy q s = (notice? (q, (serve q s).1)).elim [] Notice.events := by
  rw [toldBy]
  obtain e | ⟨rfl, answer, e⟩ := (served q s).events_eq
  · rw [e, List.drop_left]
  · rw [answer, e, List.drop_nil]
    rfl

/-- What is told is put together of the notices that the requests are due. -/
lemma trace_eq_notices (qs : List SessionRequest) (s : SessionState σ) :
    trace qs s = ((serveAll qs s).1.filterMap notice?).flatMap Notice.events := by
  induction qs generalizing s with
  | nil => rfl
  | cons q qs ih =>
    rw [trace, toldBy_eq, ih, serveAll]
    cases due : notice? (q, (serve q s).1) with
    | none => rw [List.filterMap_cons_none due, Option.elim_none, List.nil_append]
    | some n => rw [List.filterMap_cons_some due, List.flatMap_cons, Option.elim_some]

/-- A session that no other one replaces has told all of it. -/
lemma events_serveAll {qs : List SessionRequest} (s : SessionState σ) (same : .reload ∉ qs) :
    (serveAll qs s).2.events = s.events ++ trace qs s := by
  induction qs generalizing s with
  | nil => exact (List.append_nil _).symm
  | cons q qs ih =>
    obtain ⟨ne, others⟩ := not_or.1 (mt List.mem_cons.2 same)
    have behind : (serve q s).2.events = s.events ++ toldBy q s := by
      obtain e | ⟨rfl, _⟩ := (served q s).events_eq
      · rw [e, toldBy_eq]
      · exact absurd rfl ne
    rw [serveAll, trace, ← List.append_assoc, ← behind]
    exact ih _ others

/-- The dashboard is shown by one notice only, at its end. -/
lemma Notice.shows_dashboard {n : Notice} {before after}
    (shown : n.events = before ++ .navigate .dashboard :: after) :
    n = .accepted ∧ before = [.loading true] ∧ after = [] := by
  cases n with
  | accepted =>
    match before with
    | [] => cases shown
    | [e] =>
      cases shown
      exact ⟨rfl, rfl, rfl⟩
    | _ :: _ :: before => simp [Notice.events] at shown
  | refused => simp [Notice.events, List.cons_eq_append_iff] at shown
  | left => simp [Notice.events, List.cons_eq_append_iff] at shown

/-- An event of two traces in a row is in the second one, or else in the first. -/
lemma shown_first_or_later {first later before after : List SessionEvent} {e : SessionEvent}
    (shown : first ++ later = before ++ e :: after) :
    (∃ rest, before = first ++ rest ∧ later = rest ++ e :: after) ∨
      ∃ rest, first = before ++ e :: rest := by
  obtain ⟨rest, rfl, h⟩ | ⟨rest, rfl, h⟩ := List.append_eq_append_iff.1 shown
  · exact .inl ⟨rest, rfl, h⟩
  · cases rest with
    | nil => exact .inl ⟨[], by rw [List.append_nil, List.append_nil], h.symm⟩
    | cons e' rest =>
      cases h
      exact .inr ⟨rest, rfl⟩

/-- Whatever is accepted is a phrase, and the store has taken it. -/
lemma Served.written (h : Served s q a t) (made : ∀ m, q = .accept m → m.Made)
    (due : notice? (q, a) = some .accepted) :
    ∃ text m, Mnemonic.parse text = .ok m ∧
      KeyValueStore.set storageKey text s.store = (.ok (), t.store) := by
  cases h with
  | accepted taken => exact ⟨_, _, (made _ rfl).faithful.accepted.2, taken⟩
  | entered valid taken => exact ⟨_, _, valid, taken⟩
  | _ => cases due

/-- Wherever the dashboard is shown, a request was being served that had just written a phrase: all
that was told before is what the requests before it told, and that it had begun. -/
lemma written_before_dashboard {qs : List SessionRequest}
    (made : ∀ m, .accept m ∈ qs → m.Made) {s : SessionState σ} {before after}
    (shown : trace qs s = before ++ .navigate .dashboard :: after) :
    ∃ qs₁ q qs₂ text m, qs = qs₁ ++ q :: qs₂ ∧ before = trace qs₁ s ++ [.loading true] ∧
      Mnemonic.parse text = .ok m ∧
      KeyValueStore.set storageKey text (serveAll qs₁ s).2.store =
        (.ok (), (serve q (serveAll qs₁ s).2).2.store) := by
  induction qs generalizing s before with
  | nil => simp [trace] at shown
  | cons q qs ih =>
    rw [trace] at shown
    obtain ⟨rest, rfl, later⟩ | ⟨rest, told⟩ := shown_first_or_later shown
    · obtain ⟨qs₁, q', qs₂, text, m, rfl, rfl, parsed, taken⟩ :=
        ih (fun m mem => made m (List.mem_cons_of_mem _ mem)) later
      refine ⟨q :: qs₁, q', qs₂, text, m, rfl, ?_, parsed, taken⟩
      rw [trace, List.append_assoc]
    · rw [toldBy_eq] at told
      cases due : notice? (q, (serve q s).1) with
      | none => simp [due] at told
      | some n =>
        rw [due] at told
        obtain ⟨rfl, rfl, rfl⟩ := Notice.shows_dashboard told
        have made' : ∀ m, q = .accept m → m.Made := by
          rintro m rfl
          exact made m List.mem_cons_self
        obtain ⟨text, m, parsed, taken⟩ := (served q s).written made' due
        exact ⟨[], q, qs, text, m, rfl, rfl, parsed, taken⟩

end Trace

section Writes

variable {σ : Type} [LawfulStore σ] {s s' : SessionState σ} {text : String} {m : Mnemonic}

/-- The session behind a text that the store has taken: it is kept in place of the one before, the
dashboard is shown, and the phrase is there whenever it can be read. -/
structure Taken (text : String) (m : Mnemonic) (s s' : SessionState σ) : Prop where
  written : KeyValueStore.set storageKey text s.store = (.ok (), s'.store)
  texts_eq : texts s'.store = (texts s.store).update storageKey (some text)
  events_eq : s'.events = s.events ++ [.loading true, .navigate .dashboard]
  loads_iff : (load s').1 = some m ↔
    ∃ stored, (KeyValueStore.get storageKey s'.store).1 = .ok stored

/-- The session behind a text that the store has refused: all texts are kept as they were, and
loading is over. -/
structure Untaken (text : String) (e : StorageError) (s s' : SessionState σ) : Prop where
  failed : KeyValueStore.set storageKey text s.store = (.error e, s'.store)
  texts_eq : texts s'.store = texts s.store
  events_eq : s'.events = s.events ++ [.loading true, .loading false]

/-- The phrase of the kept text is loaded whenever the text can be read. -/
lemma load_eq_some_iff (parsed : Mnemonic.parse text = .ok m)
    (kept : (texts s.store).value? storageKey = some text) :
    (load s).1 = some m ↔ ∃ stored, (KeyValueStore.get storageKey s.store).1 = .ok stored := by
  cases got : KeyValueStore.get storageKey s.store with
  | mk stored t =>
    rw [load_apply got, phraseIn_eq_some_iff]
    constructor
    · rintro ⟨_, rfl, _⟩
      exact ⟨_, rfl⟩
    · rintro ⟨value?, rfl⟩
      rw [get_ok got, kept]
      exact ⟨text, rfl, parsed⟩

/-- A phrase's text is either taken or not. -/
lemma accept_taken_or_not (parsed : Mnemonic.parse text = .ok m) (s : SessionState σ) :
    (∃ s', accept text s = (.ok (), s') ∧ Taken text m s s') ∨
      ∃ e s', accept text s = (.error (.storage e), s') ∧ Untaken text e s s' := by
  obtain ⟨t, taken, done⟩ | ⟨e, t, failed, done⟩ := accept_cases text s
  · refine .inl ⟨_, done, taken, set_ok taken, rfl, load_eq_some_iff parsed ?_⟩
    exact (congrArg (·.value? storageKey) (set_ok taken)).trans MemoryStore.value?_update_self
  · exact .inr ⟨e, _, done, failed, set_error failed, rfl⟩

end Writes

/-- A typed text that is no phrase gives the error it is refused with, and nothing at all happens;
of any other, and of a phrase in its normal spelling, the store takes the whole text or keeps what
it has. A session is left with one notice, or nothing is told and nothing changes. So whatever
sessions on one store are asked for and whichever of its operations fail, what they tell is put
together of three notices, and every time the dashboard is shown a phrase was written just
before. -/
theorem takes_all_or_nothing {σ : Type} [LawfulStore σ] (s : SessionState σ) :
    (∀ typed,
      (∃ e, Mnemonic.parse typed = .error e ∧ enter typed s = (.error (.phrase e), s)) ∨
      ∃ m, Mnemonic.parse typed = .ok m ∧
        ((∃ s', enter typed s = (.ok m, s') ∧ Taken typed m s s') ∨
          ∃ e s', enter typed s = (.error (.storage e), s') ∧ Untaken typed e s s')) ∧
    (∀ m : Mnemonic, m.Made →
      (∃ s', acceptFresh m s = (.ok (), s') ∧ Taken m.phrase m s s') ∨
        ∃ e s', acceptFresh m s = (.error (.storage e), s') ∧ Untaken m.phrase e s s') ∧
    ((∃ t, logout s = (.ok (), { store := t, events := s.events ++ [.navigate .setSeed] }) ∧
        texts t = (texts s.store).update storageKey none) ∨
      ∃ e t, logout s = (.error (.storage e), { s with store := t }) ∧
        texts t = texts s.store) ∧
    ∀ qs : List SessionRequest, (∀ m, .accept m ∈ qs → m.Made) →
      trace qs s = ((serveAll qs s).1.filterMap notice?).flatMap Notice.events ∧
      (.reload ∉ qs → (serveAll qs s).2.events = s.events ++ trace qs s) ∧
      ∀ before after, trace qs s = before ++ .navigate .dashboard :: after →
        ∃ qs₁ q qs₂ text m, qs = qs₁ ++ q :: qs₂ ∧ before = trace qs₁ s ++ [.loading true] ∧
          Mnemonic.parse text = .ok m ∧
          KeyValueStore.set storageKey text (serveAll qs₁ s).2.store =
            (.ok (), (serve q (serveAll qs₁ s).2).2.store) := by
  refine ⟨fun typed => ?_, fun m made => ?_, ?_, fun qs made => ?_⟩
  -- what is no phrase does not get as far as the store
  · cases parsed : Mnemonic.parse typed with
    | error e =>
      refine .inl ⟨e, rfl, ?_⟩
      rw [enter, parsed]
      rfl
    | ok m =>
      refine .inr ⟨m, rfl, ?_⟩
      rw [enter, parsed]
      simp only [bind_apply]
      obtain ⟨s', done, taken⟩ | ⟨e, s', done, untaken⟩ := accept_taken_or_not parsed s
      · rw [done]
        exact .inl ⟨s', rfl, taken⟩
      · rw [done]
        exact .inr ⟨e, s', rfl, untaken⟩
  · exact accept_taken_or_not made.faithful.accepted.2 s
  · obtain ⟨t, removed, done⟩ | ⟨e, t, failed, done⟩ := logout_cases s
    · exact .inl ⟨t, done, remove_ok removed⟩
    · refine .inr ⟨e, t, ?_, remove_error failed⟩
      rw [done, told, List.append_nil]
  · exact ⟨trace_eq_notices qs s, events_serveAll s, fun _ _ => written_before_dashboard made⟩

/-- A store that refuses its second operation lets a first phrase in and not a second one, of which
the session tells that it is loading and then that it is not. -/
theorem tells_of_refused_phrase :
    let m : Mnemonic := (EntropySource.generate { supply := fun _ => 128 } .twelve).1
    let s : SessionState FaultyStore := { store := { fails := fun n _ => n == 1 } }
    let qs : List SessionRequest := [.accept m, .accept m, .reload, .logout]
    (∀ m', .accept m' ∈ qs → m'.Made) ∧
    trace qs s =
      [.loading true, .navigate .dashboard, .loading true, .loading false, .navigate .setSeed] := by
  intro m s qs
  have made : ∀ m', .accept m' ∈ qs → m'.Made := by
    intro m' mem
    have same : m' = m := by simpa [qs] using mem
    rw [same]
    exact .generate _ _
  obtain ⟨_, _, _, runs⟩ := takes_all_or_nothing s
  exact ⟨made, (runs qs made).1.trans rfl⟩

end SeedVault.Session
