import SeedVault.Proofs.Phrase.Typing

/-!
# The text that sessions keep

Sessions on one store change its texts in a single way: they replace or remove the text under the
key of the phrase, and only when they say so. A served request changes the texts by its `change?`
(`Served.texts`), so all requests together leave the text that was accepted last, unless a session
was left since (`texts_serveAll`). It is the text from which an account is restored
(`keeps_accepted_text`).
-/

namespace SeedVault.Session
open Secret LawfulStore

/-- What is kept behind one more request in front. -/
lemma keptText_cons (before : Option String) (entry : SessionRequest × SessionAnswer) (log) :
    keptText before (entry :: log) = keptText ((change? entry).getD before) log := by
  simp only [keptText]
  cases h : change? entry with
  | none => rw [List.filterMap_cons_none h, Option.getD_none]
  | some text? =>
    rw [List.filterMap_cons_some h, List.getLast?_cons, Option.getD_some, Option.getD_some]

section Texts

variable {σ : Type} [LawfulStore σ] {s t : SessionState σ} {q : SessionRequest} {a : SessionAnswer}

/-- A request changes the texts as its answer says: at most the text under the key of the phrase,
and no text at all if it has failed. -/
lemma Served.texts (h : Served s q a t) :
    texts t.store =
      (texts s.store).update storageKey
        ((change? (q, a)).getD ((texts s.store).value? storageKey)) := by
  have stay {t : σ} (same : LawfulStore.texts t = LawfulStore.texts s.store) :
      LawfulStore.texts t = (LawfulStore.texts s.store).update storageKey
        ((LawfulStore.texts s.store).value? storageKey) := by
    rw [same, MemoryStore.update_value?]
  cases h with
  | accepted taken => exact set_ok taken
  | unaccepted failed => exact stay (set_error failed)
  | unsound _ => exact stay rfl
  | entered _ taken => exact set_ok taken
  | unentered _ failed => exact stay (set_error failed)
  | restored got => exact stay (texts_get got)
  | keys got => exact stay (texts_get got)
  | loggedOut removed => exact remove_ok removed
  | stillIn failed => exact stay (remove_error failed)
  | reloaded => exact stay rfl

/-- Requests leave the texts as they were but for the one under the key of the phrase, and that one
is the text that they have kept. -/
lemma texts_serveAll (qs : List SessionRequest) (s : SessionState σ) :
    texts (serveAll qs s).2.store =
      (texts s.store).update storageKey
        (keptText ((texts s.store).value? storageKey) (serveAll qs s).1) := by
  induction qs generalizing s with
  | nil => exact MemoryStore.update_value?.symm
  | cons q qs ih =>
    have first := (served q s).texts
    rw [serveAll, keptText_cons]
    simp only
    rw [ih, first, MemoryStore.value?_update_self, MemoryStore.update_update]

/-- A session restores the address of the text that is kept if the store lets it be read. -/
lemma restore_eq_some_iff {d : AccountDeriver} {address} :
    (restore d s).1 = some address ↔
      (∃ stored, (KeyValueStore.get storageKey s.store).1 = .ok stored) ∧
        ∃ text m k, (texts s.store).value? storageKey = some text ∧ Mnemonic.parse text = .ok m ∧
          d.derive m = .ok k ∧ k.address = address := by
  cases got : KeyValueStore.get storageKey s.store with
  | mk stored t =>
    rw [restore_apply got, addressOf_eq_some_iff]
    constructor
    · rintro ⟨text, m, k, rfl, rest⟩
      exact ⟨⟨_, rfl⟩, text, m, k, (get_ok got).symm, rest⟩
    · rintro ⟨⟨value?, e⟩, text, m, k, holds, rest⟩
      cases e
      refine ⟨text, m, k, ?_, rest⟩
      rw [get_ok got, holds]

end Texts

section Calls

variable {σ : Type} [KeyValueStore σ] {s t : SessionState (WatchedStore σ)} {q : SessionRequest}
  {a : SessionAnswer}

/-- No call was about another key than that of the phrase. -/
def CallsOwnKey (s : WatchedStore σ) : Prop := ∀ call ∈ s.calls, call.2 = storageKey

omit [KeyValueStore σ] in
/-- A call about the key of the phrase is one more of them. -/
lemma CallsOwnKey.pass {α : Type} {s t : WatchedStore σ} (own : CallsOwnKey s) {op}
    {run : σ → α × σ} {r} (h : WatchedStore.pass op storageKey run s = (r, t)) : CallsOwnKey t := by
  rw [CallsOwnKey, WatchedStore.calls_pass h, List.forall_mem_append]
  exact ⟨own, List.forall_mem_singleton.2 rfl⟩

/-- A request is about no other key than that of the phrase. -/
lemma Served.callsOwnKey (h : Served s q a t) (own : CallsOwnKey s.store) :
    CallsOwnKey t.store := by
  cases h with
  | accepted called | unaccepted called => exact own.pass called
  | entered _ called | unentered _ called => exact own.pass called
  | restored called | keys called => exact own.pass called
  | loggedOut called | stillIn called => exact own.pass called
  | unsound _ | reloaded => exact own

/-- A session is about no other key than that of the phrase. -/
lemma callsOwnKey_serveAll (qs : List SessionRequest) (s : SessionState (WatchedStore σ))
    (own : CallsOwnKey s.store) :
    CallsOwnKey (serveAll qs s).2.store := by
  induction qs generalizing s with
  | nil => exact own
  | cons q qs ih => exact ih _ ((served q s).callsOwnKey own)

end Calls

/-- Whatever sessions on a lawful store are asked for, and whichever of the store's operations fail,
the text under the key of the phrase is the one that was accepted last, in the spelling in which it
was accepted; there is none if a session was left since then, and the text from before if neither
was done. No call is about another key, and no other text changes. An account is restored if and
only if the text can be read, is a phrase and gives keys, and then by their address. -/
theorem keeps_accepted_text {σ : Type} [LawfulStore σ] (s : σ) (qs : List SessionRequest) :
    let served : List (SessionRequest × SessionAnswer) × SessionState (WatchedStore σ) :=
      serveAll qs { store := { store := s } }
    let kept := keptText ((texts s).value? storageKey) served.1
    (texts served.2.store.store).value? storageKey = kept ∧
    (∀ key ≠ storageKey, (texts served.2.store.store).value? key = (texts s).value? key) ∧
    (∀ call ∈ served.2.store.calls, call.2 = storageKey) ∧
    ∀ (d : AccountDeriver) (address : String),
      (restore d served.2).1 = some address ↔
        (∃ stored, (KeyValueStore.get storageKey served.2.store).1 = .ok stored) ∧
          ∃ text m k, kept = some text ∧ Mnemonic.parse text = .ok m ∧ d.derive m = .ok k ∧
            k.address = address := by
  intro served kept
  have uncalled : CallsOwnKey ({ store := s } : WatchedStore σ) :=
    fun _ mem => absurd mem List.not_mem_nil
  have texts_eq : texts served.2.store.store = (texts s).update storageKey kept :=
    texts_serveAll qs ({ store := { store := s } } : SessionState (WatchedStore σ))
  have holds : (texts served.2.store.store).value? storageKey = kept := by
    rw [texts_eq, MemoryStore.value?_update_self]
  refine ⟨holds, fun key ne => ?_, ?_, fun d address => ?_⟩
  · rw [texts_eq, MemoryStore.value?_update_of_ne ne]
  · exact callsOwnKey_serveAll qs _ uncalled
  · rw [restore_eq_some_iff, ← holds]
    rfl

/-- If only the first operation of the store goes well, a phrase that is entered first stays, in
whatever text it was entered, and it cannot be read. -/
lemma stays_if_others_fail {typed : String} {m : Mnemonic} (parsed : Mnemonic.parse typed = .ok m)
    {s : SessionState (WatchedStore FaultyStore)}
    (others_fail : s = { store := { store := { fails := fun n _ => 0 < n } } })
    {second : Mnemonic} {served}
    (run : served = serveAll [.enter typed, .accept second, .reload, .logout] s) :
    keptText none served.1 = some typed ∧
      ∃ e, (KeyValueStore.get storageKey served.2.store).1 = .error e := by
  have entered : serve (.enter typed) s = (.entered (.ok m), (accept typed s).2) := by
    subst others_fail
    change (do return SessionAnswer.entered (← enter typed) : StateM _ _) _ = _
    rw [enter, parsed]
    rfl
  rw [serveAll, entered] at run
  subst run others_fail
  exact ⟨rfl, _, rfl⟩

/-- A phrase is entered with blanks around it, and then all operations of the store fail: the text
is kept as it was entered. -/
theorem keeps_text_if_others_fail :
    let first : Mnemonic :=
      ⟨Phrase.join (List.replicate 11 "abandon" ++ ["about"]), List.replicate 16 0⟩
    let second : Mnemonic :=
      ⟨"legal winner thank year wave sausage worth useful legal winner thank yellow",
        List.replicate 16 127⟩
    let typed := String.ofList
      (' ' :: (List.replicate 11 "Abandon  ".toList).flatten ++ "ABOUT\n".toList)
    let requests : List SessionRequest := [.enter typed, .accept second, .reload, .logout]
    let s : FaultyStore := { fails := fun n _ => 0 < n }
    let served : List (SessionRequest × SessionAnswer) × SessionState (WatchedStore FaultyStore) :=
      serveAll requests { store := { store := s } }
    Mnemonic.parse typed = .ok first ∧
    served.2.store.store.memory.value? storageKey = some typed ∧
    served.2.store.store.memory.value? "other" = none ∧
    (∀ call ∈ served.2.store.calls, call.2 = storageKey) ∧
    ∀ d, (restore d served.2).1 = none := by
  intro first second typed requests s served
  have parsed : Mnemonic.parse typed = .ok first := by
    have words : first.words = List.replicate 11 "abandon" ++ ["about"] := by decide +kernel
    have abandon : Mnemonic.Recased "abandon" "Abandon".toList := by
      unfold Mnemonic.Recased; decide
    have about : Mnemonic.Recased "about" "ABOUT".toList := by unfold Mnemonic.Recased; decide
    have space : Text.AllBlank [' '] := List.all_eq_true.1 (by decide)
    have newline : Text.AllBlank ['\n'] := List.all_eq_true.1 (by decide)
    have gap : Text.AllBlank [' ', ' '] := List.all_eq_true.1 (by decide)
    refine Mnemonic.made_zeros.parse_typed ?_
    change Mnemonic.TypedAs first.words _
    rw [words, String.toList_ofList]
    have text := Mnemonic.TypedAs.indented space
      (.repeated abandon gap (List.cons_ne_nil _ _) (.last about newline) 11)
    exact text
  have ran : served = serveAll requests { store := { store := s } } := rfl
  obtain ⟨kept, e, refused⟩ := stays_if_others_fail parsed rfl ran
  obtain ⟨holds, others, own, restored⟩ := keeps_accepted_text s requests
  have run : served = @serveAll _ (@WatchedStore.instKeyValueStore _ toKeyValueStore) requests
      { store := { store := s } } := rfl
  have in_memory (t : FaultyStore) : LawfulStore.texts t = t.memory := rfl
  have empty (key) : (LawfulStore.texts s).value? key = none := rfl
  -- the run is named, or else it is evaluated to compare the two
  rw [← run] at holds others own restored
  simp only [in_memory served.2.store.store, empty] at holds others
  rw [kept] at holds
  refine ⟨parsed, holds, others "other" (by decide), own, fun d => ?_⟩
  rw [Option.eq_none_iff_forall_ne_some]
  intro address h
  obtain ⟨⟨stored, got⟩, _⟩ := (restored d address).1 h
  cases refused.symm.trans got

end SeedVault.Session
