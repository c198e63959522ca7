import SeedVault.Proofs.Command.Steps
import SeedVault.Proofs.Session.FolderSession
import SeedVault.Proofs.Storage.PathText

/-!
# Jobs on the phrase that is kept

A job on the kept phrase opens the store of the application's origin below the root, works on the
text of the phrase in a session, and concludes with the account of the text or without one. What it
concludes with depends on the configuration and on the text under its own origin's name, and it
changes no other text (`keep_given`, `keep_refused`, `keep_fresh`, `showKept_concludes`,
`forget_concludes`). To derive the keys of a phrase that is given needs no store
(`derive_concludes`).
-/

namespace SeedVault.Job

open Directory FolderStore Session

/-- A machine some steps later: its files have grown, and it has written and sent nothing. -/
structure Later (m m' : Machine) : Prop where
  output : m'.output = m.output
  messages : m'.messages = m.messages
  network : m'.network = m.network
  grows : Grows m.files m'.files

/-- A machine is no steps later than itself. -/
lemma Later.refl {m : Machine} : Later m m := ⟨rfl, rfl, rfl, Grows.refl⟩

/-- Some steps and then some more are steps. -/
lemma Later.trans {m m' m'' : Machine} (h : Later m m') (h' : Later m' m'') : Later m m'' where
  output := h'.output.trans h.output
  messages := h'.messages.trans h.messages
  network := h'.network.trans h.network
  grows := h.grows.trans h'.grows

/-- The store of a session is open under a name. -/
structure InUse (root way : List String) (n : String) (texts : String → Option String)
    (s : KeptSession) (m : Machine) : Prop where
  path : s.path = way ++ ["storage"] ++ [n]
  opened : ∃ c, s.store = ⟨.ok c⟩ ∧ Opened root way n texts c m.files

/-- A job concludes with a result, and the stores have these texts behind it. -/
def Concludes (root : List String) (texts : String → Option String) (m : Machine) (job : Job Unit)
    (result : Except Report Json) : Prop :=
  ∃ m', job m = conclude result m' ∧ Later m m' ∧ Holds root texts m'.files

/-- An account with an address, as a deriver shows it. -/
def accountJson (d : AccountDeriver) (address : String) : Json :=
  .ofFields
    [("active", .bool true), ("address", .string address), ("chain_id", .string d.chain),
     ("path", .string d.path.text)]

/-- The account of a text, for a deriver. -/
def account (d : AccountDeriver) (text : Option String) : Except Report Json :=
  match addressOf d (.ok text) with
  | some address => .ok (accountJson d address)
  | none => .error [.note "no active seed phrase, run \x60session set\x60 first"]

/-- Keys that were derived, as a deriver shows them. -/
def keysJson (d : AccountDeriver) (k : KeyPair) : Json :=
  .ofFields
    [("address", .string k.address), ("chain_id", .string d.chain), ("path", .string d.path.text),
     ("public", .string (Hex.ofBytes k.publicKey)),
     ("secret", .string (Hex.ofBytes k.secret.bytes))]

/-- The keys of a phrase, for a deriver. -/
def derivation (d : AccountDeriver) (typed : String) : Except Report Json := do
  let phrase ← noting "invalid seed phrase" (fun e => [.phrase e]) (Mnemonic.parse typed)
  let keys ← (d.derive phrase).mapError Report.ofDerive
  return keysJson d keys

section Sessions

variable {root way : List String} {n : String} {texts : String → Option String} {s : KeptSession}
  {m : Machine} {α : Type} {act : StateM (SessionState FolderStore) α} {a : α} {y : Option String}

/-- In a session an operation turns the text of the session's name, and no other one. -/
lemma inSession_apply (turns : Turns act a (texts n) y) (name : IsName n)
    (use : InUse root way n texts s m) :
    ∃ s' m', inSession s act m = ((a, s'), m') ∧ s'.deriver = s.deriver ∧ Later m m' ∧
      InUse root way n (Function.update texts n y) s' m' := by
  obtain ⟨path, c, store, opened⟩ := use
  obtain ⟨filesOnly, text⟩ := opened.text
  obtain ⟨c', events, done, filesOnly', text'⟩ := turns c filesOnly text
  obtain ⟨grows, opened'⟩ := opened.saveAt name filesOnly' text'
  refine ⟨{ s with store := ⟨.ok c'⟩ },
    { m with files := FolderStore.saveAt ⟨.ok c'⟩ m.files (way ++ ["storage"] ++ [n]) }, ?_, rfl,
    ⟨rfl, rfl, rfl, grows⟩, path, c', rfl, opened'⟩
  unfold inSession
  rw [store]
  change (((act { store := ⟨.ok c⟩ }).1, { s with store := (act { store := ⟨.ok c⟩ }).2.store }),
    { m with files := (act { store := ⟨.ok c⟩ }).2.store.saveAt m.files s.path }) = _
  rw [done, path]

/-- The account that is written is that of the session's text, which stays. -/
lemma writeAccount_concludes (name : IsName n) (use : InUse root way n texts s m) :
    Concludes root texts m (writeAccount s) (account s.deriver (texts n)) := by
  obtain ⟨s', m', done, same, later, _, c, _, opened⟩ :=
    inSession_apply (turns_restore s.deriver (texts n)) name use
  rw [Function.update_eq_self] at opened
  refine ⟨m', ?_, later, opened.holds⟩
  unfold writeAccount
  rw [Attempt.bind_of_ok (lift_apply m done)]
  unfold account
  cases addressOf s.deriver (.ok (texts n)) with
  | some address =>
    simp only
    rw [same]
    rfl
  | none => rfl

/-- What comes behind some steps concludes as it does. -/
lemma Concludes.behind {m' : Machine} {job job' : Job Unit} {result : Except Report Json}
    (later : Later m m') (goesOn : job m = job' m') (h : Concludes root texts m' job' result) :
    Concludes root texts m job result := by
  obtain ⟨m'', concluded, later', holds⟩ := h
  exact ⟨m'', goesOn.trans concluded, later.trans later', holds⟩

/-- A value that is written, or an error, is a conclusion. -/
lemma concludes_of_inUse {job : Job Unit} {result : Except Report Json}
    (use : InUse root way n texts s m) (concluded : job m = conclude result m) :
    Concludes root texts m job result := by
  obtain ⟨_, c, _, opened⟩ := use
  exact ⟨m, concluded, .refl, opened.holds⟩

end Sessions

/-- All is ready for a job on the kept phrase of an origin: the root is where its text leads, the
stores below it have texts, and the configuration can be read. -/
structure Ready (r : String) (root : List String) (texts : String → Option String)
    (config : Configuration) (d : AccountDeriver) (o : Origin) (m : Machine) : Prop where
  configured : Configuration.ofFileOrDefault
    (m.files.readFile (pathFrom m.current (Layout.ofRoot r).appConfig)) = .ok config
  derived : config.deriver = .ok d
  origin : config.appUrl.origin? = some o
  short : o.directoryName.utf8ByteSize ≤ nameLimit
  leads : Leads m.files [] (pathFrom m.current r) root
  holds : Holds root texts m.files

section Jobs

variable {r : String} {root : List String} {texts : String → Option String} {config : Configuration}
  {d : AccountDeriver} {o : Origin} {m : Machine} {typed : String}

/-- The directory of the application's origin has a name. -/
lemma Ready.isName (ready : Ready r root texts config d o m) : IsName o.directoryName := by
  obtain ⟨_, implied⟩ := Url.implied_of_origin? ready.origin
  exact Origin.isName_directoryName implied

/-- The configuration is the one that the machine is ready for. -/
lemma Ready.configuration_apply (ready : Ready r root texts config d o m) :
    configuration (Layout.ofRoot r) m = (.ok config, m) := by
  rw [Job.configuration_apply, ready.configured]
  rfl

/-- The store of the application's origin is opened and in use, and nothing else has happened. -/
lemma openKept_apply (ready : Ready r root texts config d o m) :
    ∃ s m', openKept (Layout.ofRoot r) m = (.ok s, m') ∧ s.deriver = d ∧ m'.entropy = m.entropy ∧
      Later m m' ∧ InUse root (pathFrom m.current r) o.directoryName texts s m' := by
  obtain ⟨_, implied⟩ := Url.implied_of_origin? ready.origin
  obtain ⟨files, c, opened, grows, use⟩ := ready.holds.openAt ready.leads ready.isName ready.short
  let way := pathFrom m.current r ++ ["storage"] ++ [o.directoryName]
  refine ⟨⟨d, way, ⟨.ok c⟩⟩, { m with files }, ?_, rfl, rfl, ⟨rfl, rfl, rfl, grows⟩,
    ⟨rfl, c, rfl, use⟩⟩
  have made := deriver_apply m (Layout.ofRoot r) config
  rw [ready.derived] at made
  have named : noting "failed to open origin storage" Report.ofStorage
      (FolderStore.originName config.appUrl) = .ok o.directoryName := by
    rw [FolderStore.originName_of_origin? ready.origin]
    rfl
  unfold openKept
  rw [Attempt.bind_of_ok ready.configuration_apply, Attempt.bind_of_ok made,
    Attempt.bind_of_ok (ofExcept_apply m named), Attempt.bind_of_ok (get_apply m)]
  simp only [Layout.pathFrom_store m.current r implied, opened]
  refine (Attempt.bind_of_ok (set_apply m { m with files })).trans ?_
  exact Attempt.bind_of_ok (ofExcept_apply { m with files } rfl)

/-- A phrase that is given is kept as it is spelled. -/
lemma keep_given {phrase : Mnemonic} (ready : Ready r root texts config d o m)
    (parsed : Mnemonic.parse typed = .ok phrase) :
    Concludes root (Function.update texts o.directoryName (some typed)) m
      (keep (Layout.ofRoot r) (some typed)) (account d (some typed)) := by
  obtain ⟨s, m₁, opened, same, _, later₁, use⟩ := openKept_apply ready
  obtain ⟨s', m₂, entered, same', later₂, use'⟩ :=
    inSession_apply (turns_enter parsed) ready.isName use
  have written := writeAccount_concludes ready.isName use'
  rw [same', same, Function.update_self] at written
  refine written.behind (later₁.trans later₂) ?_
  unfold keep
  rw [Attempt.bind_of_ok opened]
  refine (Attempt.bind_of_ok (lift_apply m₁ entered)).trans ?_
  refine (Attempt.bind_of_ok (pure_apply m₂ _)).trans ?_
  exact Attempt.bind_of_ok (ofExcept_apply m₂ rfl)

/-- A text that is no phrase is refused, and nothing is kept of it. -/
lemma keep_refused {e : PhraseError} (ready : Ready r root texts config d o m)
    (parsed : Mnemonic.parse typed = .error e) :
    Concludes root texts m (keep (Layout.ofRoot r) (some typed))
      (.error (Report.ofSession (.phrase e))) := by
  obtain ⟨s, m₁, opened, _, _, later₁, use⟩ := openKept_apply ready
  obtain ⟨s', m₂, entered, _, later₂, use'⟩ :=
    inSession_apply (turns_enter_refused parsed) ready.isName use
  rw [Function.update_eq_self] at use'
  refine Concludes.behind (later₁.trans later₂) ?_ (concludes_of_inUse use' rfl)
  unfold keep
  rw [Attempt.bind_of_ok opened]
  refine (Attempt.bind_of_ok (lift_apply m₁ entered)).trans ?_
  refine (Attempt.bind_of_ok (pure_apply m₂ _)).trans ?_
  exact Attempt.bind_of_error (ofExcept_apply m₂ rfl)

/-- The fresh phrase that is drawn is kept. -/
lemma keep_fresh (ready : Ready r root texts config d o m) :
    Concludes root
      (Function.update texts o.directoryName (some (m.entropy.generate default).1.phrase)) m
      (keep (Layout.ofRoot r) none) (account d (some (m.entropy.generate default).1.phrase)) := by
  obtain ⟨s, m₁, opened, same, entropy, later₁, use⟩ := openKept_apply ready
  rw [← entropy]
  -- the phrase is drawn from the source there was before the store was opened
  let drawn : Machine := { m₁ with entropy := (m₁.entropy.generate default).2 }
  have later : Later m₁ drawn := ⟨rfl, rfl, rfl, Grows.refl⟩
  obtain ⟨s', m₂, accepted, same', later₂, use'⟩ :=
    inSession_apply (m := drawn) (turns_accept (m₁.entropy.generate default).1.phrase)
      ready.isName ⟨use.path, use.opened⟩
  have written := writeAccount_concludes ready.isName use'
  rw [same', same, Function.update_self] at written
  refine written.behind ((later₁.trans later).trans later₂) ?_
  unfold keep
  rw [Attempt.bind_of_ok opened]
  have drew : drawPhrase default m₁ = ((m₁.entropy.generate default).1, drawn) := rfl
  refine (Attempt.bind_of_ok (lift_apply m₁ drew)).trans ?_
  refine (Attempt.bind_of_ok (lift_apply drawn accepted)).trans ?_
  exact Attempt.bind_of_ok (ofExcept_apply m₂ rfl)

/-- To show the account comes to that of the kept text. -/
lemma showKept_concludes (ready : Ready r root texts config d o m) :
    Concludes root texts m (showKept (Layout.ofRoot r)) (account d (texts o.directoryName)) := by
  obtain ⟨s, m₁, opened, same, _, later₁, use⟩ := openKept_apply ready
  have written := writeAccount_concludes ready.isName use
  rw [same] at written
  exact written.behind later₁ (Attempt.bind_of_ok opened)

/-- To forget the phrase comes to its removal and says that none is active. -/
lemma forget_concludes (ready : Ready r root texts config d o m) :
    Concludes root (Function.update texts o.directoryName none) m (forget (Layout.ofRoot r))
      (.ok (.ofFields [("active", .bool false)])) := by
  obtain ⟨s, m₁, opened, same, _, later₁, use⟩ := openKept_apply ready
  obtain ⟨s', m₂, left, same', later₂, use'⟩ := inSession_apply turns_logout ready.isName use
  refine Concludes.behind (later₁.trans later₂) ?_ (concludes_of_inUse use' rfl)
  unfold forget
  rw [Attempt.bind_of_ok opened]
  refine (Attempt.bind_of_ok (lift_apply m₁ left)).trans ?_
  exact Attempt.bind_of_ok (ofExcept_apply m₂ rfl)

/-- The keys of a phrase that is given are derived; nothing is kept of them. -/
lemma derive_concludes (ready : Ready r root texts config d o m) (typed : String) :
    Concludes root texts m (derive (Layout.ofRoot r) (some typed) {}) (derivation d typed) := by
  refine ⟨m, ?_, .refl, ready.holds⟩
  have made : ((AccountDeriver.new config.derivationPath config.chainId).mapError Report.ofDerive) =
      .ok d := congrArg (Except.mapError Report.ofDerive) ready.derived
  unfold derive derivation phraseText readPhrase
  rw [Attempt.bind_of_ok ready.configuration_apply, Attempt.bind_of_ok (pure_apply m typed)]
  cases parsed : Mnemonic.parse typed with
  | error e => rfl
  | ok phrase =>
    have read : noting "invalid seed phrase" (fun e => [.phrase e]) (.ok phrase) = .ok phrase := rfl
    refine (Attempt.bind_of_ok (ofExcept_apply m read)).trans ?_
    refine (Attempt.bind_of_ok (ofExcept_apply m made)).trans ?_
    change _ = conclude ((d.derive phrase).mapError Report.ofDerive >>= fun keys =>
      pure (keysJson d keys)) m
    cases d.derive phrase with
    | error e => rfl
    | ok keys => rfl

end Jobs

end SeedVault.Job
