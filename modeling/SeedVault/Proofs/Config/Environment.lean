import SeedVault.Config.Environment
import SeedVault.Proofs.Attempt
import SeedVault.Proofs.Phrase.Verdict
import SeedVault.Proofs.Text.Blank

/-!
# Inputs from variables

The variables are read one after the other, so the first one that does not meet what is asked of it
(`demands`) is blamed (`blames_of_error`), and if all do, the inputs are what they give
(`ofLookup_ok_iff`). Of a variable only the trimmed text counts, but for the two that are kept as
they are set (`map_trimmedPart_congr`). `reads_variables` puts these together.
-/

namespace SeedVault.RunInputs
open Text

section Variables

variable {α : Type} {lookup lookup' : String → Option String} {name v : String} {r : Report}

/-- The variable has a text, and this is not blank. -/
def IsSet (lookup : String → Option String) (name v : String) : Prop :=
  lookup name = some v ∧ ¬ AllBlank v.toList

/-- A variable has one text only. -/
lemma IsSet.unique {v'} (set : IsSet lookup name v) (set' : IsSet lookup name v') : v = v' :=
  Option.some.inj (set.1.symm.trans set'.1)

/-- A text is blank if all its characters are. -/
lemma isBlankText_iff {s} : isBlankText s = true ↔ AllBlank s.toList := List.all_eq_true

/-- A variable with a text that is not blank is set. -/
lemma IsSet.of_visible (there : lookup name = some v) (visible : isBlankText v = false) :
    IsSet lookup name v :=
  ⟨there, mt isBlankText_iff.2 (Bool.eq_false_iff.1 visible)⟩

/-- A variable without a text is not set. -/
lemma not_isSet_of_none (missing : lookup name = none) (v : String) : ¬ IsSet lookup name v := by
  rintro ⟨there, _⟩
  cases missing.symm.trans there

/-- The value of a variable is its text, if it is set. -/
lemma optional_eq_some_iff : optional lookup name = some v ↔ IsSet lookup name v := by
  rw [optional, Option.filter_eq_some_iff, Bool.not_eq_true', ← Bool.not_eq_true, isBlankText_iff]
  rfl

/-- A variable that is not set has no value. -/
lemma optional_eq_none_iff : optional lookup name = none ↔ ∀ v, ¬ IsSet lookup name v := by
  rw [Option.eq_none_iff_forall_ne_some]
  exact forall_congr' fun v => not_congr optional_eq_some_iff

/-- A variable that has to be there is read if it is set. -/
lemma required_ok_iff : required lookup name = .ok v ↔ IsSet lookup name v := by
  rw [← optional_eq_some_iff, required]
  cases optional lookup name with
  | none => exact iff_of_false nofun nofun
  | some v' => rw [Except.ok.injEq, Option.some_inj]

/-- What is said of a variable whose text is missing or cannot be read. -/
inductive SaidOf (name : String) : Report → Prop
  | unset : SaidOf name [.note ("environment variable \x60" ++ name ++ "\x60 is not set")]
  | mnemonic {e} : SaidOf name [.note ("\x60" ++ name ++ "\x60 is not a valid mnemonic"), .phrase e]
  | url {e} : SaidOf name [.note ("\x60" ++ name ++ "\x60 is not a valid URL"), .url e]
  | timeout {e} :
    SaidOf name [.note ("\x60" ++ name ++ "\x60 must be a number of milliseconds"), .number e]

/-- What is said of a variable that has to be there says that it is not set. -/
lemma required_error (failed : required lookup name = .error r) :
    (∀ v, ¬ IsSet lookup name v) ∧ SaidOf name r := by
  rw [← optional_eq_none_iff]
  rw [required] at failed
  split at failed
  case h_1 => cases failed
  case h_2 unset =>
    cases failed
    exact ⟨unset, .unset⟩

/-- A note changes no success. -/
lemma noting_ok_iff {ε : Type} {note : String} {report : ε → Report} {x : Except ε α} {a} :
    noting note report x = .ok a ↔ x = .ok a :=
  Attempt.ok_mapError_iff

/-- The note stands in front of a failure. -/
lemma noting_error {ε : Type} {note : String} {report : ε → Report} {x : Except ε α}
    (failed : noting note report x = .error r) : ∃ e, r = .note note :: report e := by
  obtain ⟨e, _, rfl⟩ := Attempt.error_mapError_iff.1 failed
  exact ⟨e, rfl⟩

/-- A phrase is read if the text means it. -/
lemma readMnemonic_ok_iff {m} : readMnemonic name v = .ok m ↔ Mnemonic.parse v = .ok m := by
  rw [readMnemonic, noting_ok_iff]

/-- An address is read from the trimmed text. -/
lemma readUrl_ok_iff {url} : readUrl name v = .ok url ↔ Url.parse (trimmed v) = .ok url := by
  rw [readUrl, noting_ok_iff]

/-- A span of time is read from the digits of the trimmed text. -/
lemma readTimeout_ok_iff {ms} :
    readTimeout name v = .ok ms ↔ Decimal.read Decimal.max64 (trim v.toList) = .ok ms := by
  rw [readTimeout, noting_ok_iff]

/-- What is said of a text that is no phrase names the variable. -/
lemma readMnemonic_error (failed : readMnemonic name v = .error r) : SaidOf name r := by
  rw [readMnemonic] at failed
  obtain ⟨e, rfl⟩ := noting_error failed
  exact .mnemonic

/-- What is said of a text that is no address names the variable. -/
lemma readUrl_error (failed : readUrl name v = .error r) : SaidOf name r := by
  rw [readUrl] at failed
  obtain ⟨e, rfl⟩ := noting_error failed
  exact .url

/-- What is said of a text that is no span of time names the variable. -/
lemma readTimeout_error (failed : readTimeout name v = .error r) : SaidOf name r := by
  rw [readTimeout] at failed
  obtain ⟨e, rfl⟩ := noting_error failed
  exact .timeout

/-- What a variable that may be unset gives: nothing, or what its text means. -/
inductive Given (lookup : String → Option String) (name : String) (Means : String → α → Prop) :
    Option α → Prop
  | unset : (∀ v, ¬ IsSet lookup name v) → Given lookup name Means none
  | set {v a} : IsSet lookup name v → Means v a → Given lookup name Means (some a)

/-- A set variable gives what its text means. -/
lemma given_iff_of_set {Means : String → α → Prop} {a?} (set : IsSet lookup name v) :
    Given lookup name Means a? ↔ ∃ a, Means v a ∧ some a = a? := by
  constructor
  · intro given
    cases given with
    | unset unset => exact absurd set (unset v)
    | set set' means => exact ⟨_, set.unique set' ▸ means, rfl⟩
  · rintro ⟨a, means, rfl⟩
    exact .set set means

/-- A variable that is not set gives nothing. -/
lemma given_iff_of_unset {Means : String → α → Prop} {a?} (unset : ∀ v, ¬ IsSet lookup name v) :
    Given lookup name Means a? ↔ none = a? := by
  constructor
  · intro given
    cases given with
    | unset => rfl
    | set set => exact absurd set (unset _)
  · rintro rfl
    exact .unset unset

/-- A text that is set and taken means something. -/
lemma Given.of_set {Means : String → α → Prop} {a?} (given : Given lookup name Means a?)
    (set : IsSet lookup name v) : ∃ a, Means v a := by
  obtain ⟨a, means, _⟩ := (given_iff_of_set set).1 given
  exact ⟨a, means⟩

/-- What is made of a variable's text is given by the variable. -/
lemma map_optional_iff {f : String → α} {a?} :
    (optional lookup name).map f = a? ↔ Given lookup name (fun v a => a = f v) a? := by
  by_cases there : ∃ v, IsSet lookup name v
  · obtain ⟨v, set⟩ := there
    rw [optional_eq_some_iff.2 set, given_iff_of_set set, exists_eq_left]
    rfl
  · have unset := not_exists.1 there
    rw [optional_eq_none_iff.2 unset, given_iff_of_unset unset]
    rfl

/-- A set variable is read. -/
lemma readOptional_of_set {read : String → String → Except Report α} (set : IsSet lookup name v) :
    readOptional lookup name read = (read name v).map some := by
  rw [readOptional, optional_eq_some_iff.2 set]

/-- A variable that is not set is not read. -/
lemma readOptional_of_unset {read : String → String → Except Report α}
    (unset : ∀ v, ¬ IsSet lookup name v) : readOptional lookup name read = .ok none := by
  rw [readOptional, optional_eq_none_iff.2 unset]

/-- A variable that may be missing gives what is read from it. -/
lemma readOptional_ok_iff {read : String → String → Except Report α} {a?} :
    readOptional lookup name read = .ok a? ↔
      Given lookup name (fun v a => read name v = .ok a) a? := by
  by_cases there : ∃ v, IsSet lookup name v
  · obtain ⟨v, set⟩ := there
    rw [readOptional_of_set set, Attempt.ok_map_iff, given_iff_of_set set]
  · have unset := not_exists.1 there
    rw [readOptional_of_unset unset, Except.ok.injEq, given_iff_of_unset unset]

/-- A variable that may be missing fails only if it is set and its text is not read. -/
lemma readOptional_error {read : String → String → Except Report α}
    (failed : readOptional lookup name read = .error r) :
    ∃ v, IsSet lookup name v ∧ read name v = .error r := by
  by_cases there : ∃ v, IsSet lookup name v
  · obtain ⟨v, set⟩ := there
    rw [readOptional_of_set set, Attempt.error_map_iff] at failed
    exact ⟨v, set, failed⟩
  · rw [readOptional_of_unset (not_exists.1 there)] at failed
    cases failed

end Variables

/-- What is asked of the variables, in the order in which they are read. -/
def demands (lookup : String → Option String) : List (String × Prop) :=
  [("TEST_BASE_URL",
      ∃ v url, IsSet lookup "TEST_BASE_URL" v ∧ Url.parse (trimmed v) = .ok url),
   ("TEST_KEPLR_EXTENSION_VERSION", ∃ v, IsSet lookup "TEST_KEPLR_EXTENSION_VERSION" v),
   ("TEST_WALLET_MNEMONIC",
      ∃ v m, IsSet lookup "TEST_WALLET_MNEMONIC" v ∧ Mnemonic.parse v = .ok m),
   ("TEST_WALLET_PASSWORD", ∃ v, IsSet lookup "TEST_WALLET_PASSWORD" v),
   ("TEST_SECONDARY_WALLET_MNEMONIC",
      ∀ v, IsSet lookup "TEST_SECONDARY_WALLET_MNEMONIC" v → ∃ m, Mnemonic.parse v = .ok m),
   ("TEST_WEBDRIVER_URL",
      ∀ v, IsSet lookup "TEST_WEBDRIVER_URL" v → ∃ url, Url.parse (trimmed v) = .ok url),
   ("TEST_TRANSITION_TIMEOUT_MS",
      ∀ v, IsSet lookup "TEST_TRANSITION_TIMEOUT_MS" v →
        ∃ ms, Decimal.read Decimal.max64 (trim v.toList) = .ok ms)]

/-- The first variable in a list that does not meet what is asked of it. -/
inductive FirstUnmet : List (String × Prop) → String → Prop
  | here {name demand rest} :
    ¬ demand →
    FirstUnmet ((name, demand) :: rest) name
  | later {name demand rest name'} :
    demand →
    FirstUnmet rest name' →
    FirstUnmet ((name, demand) :: rest) name'

/-- The failure is said of the first variable in a list that does not meet what is asked of it. -/
def Blames (demands : List (String × Prop)) (r : Report) : Prop :=
  ∃ name, FirstUnmet demands name ∧ SaidOf name r

/-- The first variable that does not meet what is asked of it does not meet it. -/
lemma FirstUnmet.exists_unmet {demands name} (h : FirstUnmet demands name) :
    ∃ d ∈ demands, d.1 = name ∧ ¬ d.2 := by
  induction h with
  | here unmet => exact ⟨_, List.mem_cons_self, rfl, unmet⟩
  | later _ _ ih =>
    obtain ⟨d, mem, rfl, unmet⟩ := ih
    exact ⟨d, List.mem_cons_of_mem _ mem, rfl, unmet⟩

section Stages

variable {α β : Type} {lookup : String → Option String} {name : String} {demand : Prop}
  {rest : List (String × Prop)} {r : Report}

/-- What is read first is blamed if it fails, and if it does not, what is read next may be. -/
lemma blames_of_bind {x : Except Report α} {f : α → Except Report β}
    (met : ∀ a, x = .ok a → demand) (unmet : ∀ r, x = .error r → ¬ demand ∧ SaidOf name r)
    (next : ∀ a, f a = .error r → Blames rest r) (failed : (x >>= f) = .error r) :
    Blames ((name, demand) :: rest) r := by
  rcases Attempt.error_bind_iff.1 failed with first | ⟨a, done, second⟩
  · obtain ⟨unmet, said⟩ := unmet r first
    exact ⟨name, .here unmet, said⟩
  · obtain ⟨name', unmet, said⟩ := next a second
    exact ⟨name', .later (met a done) unmet, said⟩

/-- A variable that has to be there is asked for no more than its text. -/
lemma blames_of_required {f : String → Except Report β}
    (next : ∀ v, f v = .error r → Blames rest r)
    (failed : (required lookup name >>= f) = .error r) :
    Blames ((name, ∃ v, IsSet lookup name v) :: rest) r := by
  apply blames_of_bind _ _ next failed
  · intro v there
    exact ⟨v, required_ok_iff.1 there⟩
  · intro r missing
    obtain ⟨unset, said⟩ := required_error missing
    exact ⟨not_exists.2 unset, said⟩

/-- The text of a variable that has to be there is read. -/
lemma blames_of_required_read {Means : String → α → Prop} {read : String → String → Except Report α}
    {f : String → α → Except Report β} (means : ∀ v a, read name v = .ok a ↔ Means v a)
    (unread : ∀ v r, read name v = .error r → SaidOf name r)
    (next : ∀ v a, f v a = .error r → Blames rest r)
    (failed : (required lookup name >>= fun v => read name v >>= f v) = .error r) :
    Blames ((name, ∃ v a, IsSet lookup name v ∧ Means v a) :: rest) r := by
  rcases Attempt.error_bind_iff.1 failed with missing | ⟨v, there, failed⟩
  · obtain ⟨unset, said⟩ := required_error missing
    refine ⟨name, .here ?_, said⟩
    rintro ⟨v, _, set, _⟩
    exact unset v set
  have set := required_ok_iff.1 there
  apply blames_of_bind _ _ (next v) failed
  · intro a done
    exact ⟨v, a, set, (means v a).1 done⟩
  · intro r bad
    refine ⟨?_, unread v r bad⟩
    rintro ⟨v', a, set', meant⟩
    rw [set'.unique set] at meant
    cases bad.symm.trans ((means v a).2 meant)

/-- The text of a variable that may be unset is read if it is there. -/
lemma blames_of_readOptional {Means : String → α → Prop} {read : String → String → Except Report α}
    {f : Option α → Except Report β} (means : ∀ v a, read name v = .ok a ↔ Means v a)
    (unread : ∀ v r, read name v = .error r → SaidOf name r)
    (next : ∀ a?, f a? = .error r → Blames rest r)
    (failed : (readOptional lookup name read >>= f) = .error r) :
    Blames ((name, ∀ v, IsSet lookup name v → ∃ a, Means v a) :: rest) r := by
  apply blames_of_bind _ _ next failed
  · intro a? done v set
    obtain ⟨a, done⟩ := (readOptional_ok_iff.1 done).of_set set
    exact ⟨a, (means v a).1 done⟩
  · intro r bad
    obtain ⟨v, set, bad⟩ := readOptional_error bad
    refine ⟨?_, unread v r bad⟩
    intro met
    obtain ⟨a, meant⟩ := met v set
    cases bad.symm.trans ((means v a).2 meant)

end Stages

section Inputs

variable {lookup lookup' : String → Option String} {r : Report} {inputs : RunInputs}

/-- If the inputs cannot be read, the first variable that does not meet what is asked of it is
blamed. -/
lemma blames_of_error (failed : ofLookup lookup = .error r) : Blames (demands lookup) r := by
  apply blames_of_required_read (fun _ _ => readUrl_ok_iff) (fun _ _ => readUrl_error) _ failed
  intro _ baseUrl failed
  apply blames_of_required _ failed
  intro version failed
  apply blames_of_required_read (fun _ _ => readMnemonic_ok_iff) (fun _ _ => readMnemonic_error) _
    failed
  intro phrase mnemonic failed
  apply blames_of_required _ failed
  intro password failed
  apply blames_of_readOptional (fun _ _ => readMnemonic_ok_iff) (fun _ _ => readMnemonic_error) _
    failed
  intro secondary failed
  apply blames_of_readOptional (fun _ _ => readUrl_ok_iff) (fun _ _ => readUrl_error) _ failed
  intro webdriver failed
  apply blames_of_readOptional (fun _ _ => readTimeout_ok_iff) (fun _ _ => readTimeout_error) _
    failed
  intro timeout failed
  cases failed

/-- The inputs are what the variables give. -/
structure Reads (lookup : String → Option String) (inputs : RunInputs) : Prop where
  baseUrl : ∃ v, IsSet lookup "TEST_BASE_URL" v ∧ Url.parse (trimmed v) = .ok inputs.baseUrl
  extensionVersion :
    ∃ v, IsSet lookup "TEST_KEPLR_EXTENSION_VERSION" v ∧ inputs.extensionVersion = trimmed v
  walletPhrase : IsSet lookup "TEST_WALLET_MNEMONIC" inputs.walletPhrase
  walletMnemonic : Mnemonic.parse inputs.walletPhrase = .ok inputs.walletMnemonic
  walletPassword : IsSet lookup "TEST_WALLET_PASSWORD" inputs.walletPassword
  secondaryMnemonic :
    Given lookup "TEST_SECONDARY_WALLET_MNEMONIC" (fun v m => Mnemonic.parse v = .ok m)
      inputs.secondaryMnemonic
  secondaryAddress :
    Given lookup "TEST_SECONDARY_WALLET_ADDRESS" (fun v a => a = trimmed v)
      inputs.secondaryAddress
  webdriverUrl :
    ∃ url?, Given lookup "TEST_WEBDRIVER_URL" (fun v url => Url.parse (trimmed v) = .ok url) url? ∧
      inputs.webdriverUrl = url?.getD defaultWebdriverUrl
  transitionTimeout :
    ∃ ms?, Given lookup "TEST_TRANSITION_TIMEOUT_MS"
        (fun v ms => Decimal.read Decimal.max64 (trim v.toList) = .ok ms) ms? ∧
      inputs.transitionTimeout = ms?.getD defaultTransitionTimeout

/-- The inputs can be read exactly from what gives them. -/
lemma ofLookup_ok_iff : ofLookup lookup = .ok inputs ↔ Reads lookup inputs := by
  simp only [ofLookup, Attempt.ok_bind_iff, required_ok_iff, readUrl_ok_iff, readMnemonic_ok_iff,
    readOptional_ok_iff, readTimeout_ok_iff]
  constructor
  · rintro ⟨base, baseSet, url, baseRead, version, versionSet, phrase, phraseSet, mnemonic,
      phraseRead, password, passwordSet, secondary, secondaryRead, driver, driverRead, timeout,
      timeoutRead, ⟨⟩⟩
    exact ⟨⟨base, baseSet, baseRead⟩, ⟨version, versionSet, rfl⟩, phraseSet, phraseRead,
      passwordSet, secondaryRead, map_optional_iff.1 rfl, ⟨driver, driverRead, rfl⟩,
      ⟨timeout, timeoutRead, rfl⟩⟩
  · rintro ⟨⟨base, baseSet, baseRead⟩, ⟨version, versionSet, versionRead⟩, phraseSet, phraseRead,
      passwordSet, secondaryRead, addressRead, ⟨driver, driverRead, driverUrl⟩,
      ⟨timeout, timeoutRead, limit⟩⟩
    refine ⟨base, baseSet, _, baseRead, version, versionSet, _, phraseSet, _, phraseRead, _,
      passwordSet, _, secondaryRead, driver, driverRead, timeout, timeoutRead, ?_⟩
    rw [← versionRead, map_optional_iff.2 addressRead, ← driverUrl, ← limit]
    rfl

/-- Inputs that are read meet every demand. -/
lemma Reads.met (h : Reads lookup inputs) : ∀ d ∈ demands lookup, d.2 := by
  obtain ⟨base, baseSet, baseRead⟩ := h.baseUrl
  obtain ⟨version, versionSet, _⟩ := h.extensionVersion
  obtain ⟨driver, driverRead, _⟩ := h.webdriverUrl
  obtain ⟨timeout, timeoutRead, _⟩ := h.transitionTimeout
  simp only [demands, List.forall_mem_cons]
  exact ⟨⟨base, _, baseSet, baseRead⟩, ⟨version, versionSet⟩,
    ⟨_, _, h.walletPhrase, h.walletMnemonic⟩, ⟨_, h.walletPassword⟩,
    fun _ set => h.secondaryMnemonic.of_set set, fun _ set => driverRead.of_set set,
    fun _ set => timeoutRead.of_set set, List.forall_mem_nil _⟩

/-- The inputs can be read if every variable meets what is asked of it. -/
lemma exists_ok_iff : (∃ inputs, ofLookup lookup = .ok inputs) ↔ ∀ d ∈ demands lookup, d.2 := by
  constructor
  · rintro ⟨inputs, done⟩
    exact (ofLookup_ok_iff.1 done).met
  · intro met
    cases done : ofLookup lookup with
    | ok inputs => exact ⟨inputs, rfl⟩
    | error r =>
      obtain ⟨_, unmet, _⟩ := blames_of_error done
      obtain ⟨d, mem, _, unmet⟩ := unmet.exists_unmet
      exact absurd (met d mem) unmet

/-- Only the eight variables count, and of each only its text if that is not blank. -/
lemma ofLookup_congr (same : ∀ name ∈ variableNames, optional lookup' name = optional lookup name) :
    ofLookup lookup' = ofLookup lookup := by
  simp only [variableNames, List.forall_mem_cons] at same
  obtain ⟨base, version, phrase, password, secondary, address, driver, timeout, _⟩ := same
  simp only [ofLookup, required, readOptional, base, version, phrase, password, secondary, address,
    driver, timeout]

end Inputs

/-- The inputs without the two texts that are kept as they are set. -/
def trimmedPart (r : RunInputs) : RunInputs := { r with walletPhrase := "", walletPassword := "" }

section Padding

variable {lookup lookup' : String → Option String} {name v v' : String}

/-- Texts with one trimmed form have one trimmed list of characters. -/
lemma trim_congr (same : trimmed v' = trimmed v) : trim v'.toList = trim v.toList :=
  String.ofList_injective same

/-- The phrase in a text depends on its trimmed form alone. -/
lemma readMnemonic_congr (same : trimmed v' = trimmed v) :
    readMnemonic name v' = readMnemonic name v := by
  have words : Text.words v'.toList = Text.words v.toList := by
    rw [← words_trim, trim_congr same, words_trim]
  simp only [readMnemonic, Mnemonic.parse, Mnemonic.typedWords, words]

/-- The address in a text depends on its trimmed form alone. -/
lemma readUrl_congr (same : trimmed v' = trimmed v) : readUrl name v' = readUrl name v := by
  rw [readUrl, same, ← readUrl]

/-- The span of time in a text depends on its trimmed form alone. -/
lemma readTimeout_congr (same : trimmed v' = trimmed v) :
    readTimeout name v' = readTimeout name v := by
  rw [readTimeout, trim_congr same, ← readTimeout]

/-- The variable is set in both places or in neither, and in both to texts that differ by nothing
but blanks at their ends. -/
inductive SameTrimmed (lookup lookup' : String → Option String) (name : String) : Prop
  | unset :
    optional lookup name = none →
    optional lookup' name = none →
    SameTrimmed lookup lookup' name
  | set {v v' : String} :
    optional lookup name = some v →
    optional lookup' name = some v' →
    trimmed v' = trimmed v →
    SameTrimmed lookup lookup' name

/-- A variable that has to be there has one trimmed value in both places, or fails in both. -/
lemma SameTrimmed.required (h : SameTrimmed lookup lookup' name) :
    (required lookup' name).map trimmed = (required lookup name).map trimmed := by
  cases h with
  | unset h h' => rw [RunInputs.required, RunInputs.required, h, h']
  | set h h' same =>
    rw [RunInputs.required, RunInputs.required, h, h']
    exact congrArg Except.ok same

/-- A variable that may be missing has one trimmed value in both places, or none in both. -/
lemma SameTrimmed.map_optional (h : SameTrimmed lookup lookup' name) :
    (optional lookup' name).map trimmed = (optional lookup name).map trimmed := by
  cases h with
  | unset h h' => rw [h, h']
  | set h h' same =>
    rw [h, h']
    exact congrArg some same

/-- What depends on the trimmed form alone is read alike in both places. -/
lemma SameTrimmed.readOptional {α : Type} {read : String → String → Except Report α}
    (congr : ∀ v v', trimmed v' = trimmed v → read name v' = read name v)
    (h : SameTrimmed lookup lookup' name) :
    readOptional lookup' name read = readOptional lookup name read := by
  cases h with
  | unset h h' => rw [RunInputs.readOptional, RunInputs.readOptional, h, h']
  | set h h' same =>
    rw [RunInputs.readOptional, RunInputs.readOptional, h, h']
    exact congrArg (Except.map some) (congr _ _ same)

/-- Blanks at the ends of the texts change no failure, and of the inputs only the two texts that are
kept as they are set. -/
lemma map_trimmedPart_congr (same : ∀ name ∈ variableNames, SameTrimmed lookup lookup' name) :
    (ofLookup lookup').map trimmedPart = (ofLookup lookup).map trimmedPart := by
  simp only [variableNames, List.forall_mem_cons] at same
  obtain ⟨base, version, phrase, password, secondary, address, driver, timeout, _⟩ := same
  rw [ofLookup, ofLookup, secondary.readOptional fun _ _ => readMnemonic_congr,
    address.map_optional, driver.readOptional fun _ _ => readUrl_congr,
    timeout.readOptional fun _ _ => readTimeout_congr]
  apply Attempt.map_bind_eq base.required
  intro base base' same
  rw [readUrl_congr same]
  apply Attempt.map_bind_congr
  intro url
  apply Attempt.map_bind_eq version.required
  intro version version' same
  rw [same]
  apply Attempt.map_bind_eq phrase.required
  intro phrase phrase' same
  rw [readMnemonic_congr same]
  apply Attempt.map_bind_congr
  intro mnemonic
  apply Attempt.map_bind_eq password.required
  intro password password' _
  apply Attempt.map_bind_congr
  intro secondary
  apply Attempt.map_bind_congr
  intro driver
  apply Attempt.map_bind_congr
  intro timeout
  rfl

/-- One text is another one with blanks at its ends. -/
def Padded (v v' : String) : Prop :=
  ∃ before after, AllBlank before ∧ AllBlank after ∧ v'.toList = before ++ v.toList ++ after

/-- Blanks at the ends of a text do not change its trimmed form. -/
lemma Padded.trimmed_eq (h : Padded v v') : trimmed v' = trimmed v := by
  obtain ⟨before, after, hb, ha, text⟩ := h
  rw [trimmed, text, trim_append_blanks hb ha, ← trimmed]

/-- A variable is set as well with blanks at the ends of its text. -/
lemma Padded.isSet (h : Padded v v') (set : IsSet lookup name v) (there : lookup' name = some v') :
    IsSet lookup' name v' := by
  obtain ⟨before, after, _, _, text⟩ := h
  refine ⟨there, mt ?_ set.2⟩
  intro blank c mem
  rw [text] at blank
  exact blank c (List.mem_append_left _ (List.mem_append_right _ mem))

/-- A variable that is the same in both places has one trimmed form. -/
lemma SameTrimmed.of_eq (same : lookup' name = lookup name) : SameTrimmed lookup lookup' name := by
  have same' : optional lookup' name = optional lookup name := by
    rw [optional, same, ← optional]
  cases h : optional lookup name with
  | none => exact .unset h (same'.trans h)
  | some v => exact .set h (same'.trans h) rfl

/-- A variable has one trimmed form with blanks at the ends and without. -/
lemma SameTrimmed.of_padded (set : IsSet lookup name v) (padded : Padded v v')
    (there : lookup' name = some v') : SameTrimmed lookup lookup' name := by
  have set' := padded.isSet set there
  exact .set (optional_eq_some_iff.2 set) (optional_eq_some_iff.2 set') padded.trimmed_eq

/-- A blank text is as good as none. -/
lemma optional_eq_of_blank (unset : lookup name = none) (there : lookup' name = some v)
    (blank : AllBlank v.toList) : optional lookup' name = optional lookup name := by
  have none : optional lookup' name = none := by
    rw [optional_eq_none_iff]
    rintro v' ⟨there', visible⟩
    cases there.symm.trans there'
    exact visible blank
  rw [none, optional, unset, Option.filter_none]

end Padding

/-- The inputs can be read exactly if every variable meets what is asked of it, and are then what
the variables give: the phrase and the password as they are set, and the words that the phrase
means. If they cannot be read, the failure is said of the first variable that does not meet what is
asked of it. Only the eight variables count, a blank text is as good as none, and blanks at the ends
of texts change nothing but the two that are kept as they are set. -/
theorem reads_variables (lookup : String → Option String) :
    ((∃ inputs, ofLookup lookup = .ok inputs) ↔ ∀ d ∈ demands lookup, d.2) ∧
    (∀ inputs, ofLookup lookup = .ok inputs ↔ Reads lookup inputs) ∧
    (∀ r, ofLookup lookup = .error r → Blames (demands lookup) r) ∧
    (∀ lookup' : String → Option String,
      (∀ name ∈ variableNames, lookup' name = lookup name ∨
        lookup name = none ∧ ∃ v, lookup' name = some v ∧ AllBlank v.toList) →
      ofLookup lookup' = ofLookup lookup) ∧
    ∀ lookup' : String → Option String,
      (∀ name ∈ variableNames, lookup' name = lookup name ∨
        ∃ v v', IsSet lookup name v ∧ Padded v v' ∧ lookup' name = some v') →
      (ofLookup lookup').map trimmedPart = (ofLookup lookup).map trimmedPart := by
  refine ⟨exists_ok_iff, fun _ => ofLookup_ok_iff, fun _ => blames_of_error, ?_, ?_⟩
  · intro lookup' same
    apply ofLookup_congr
    intro name mem
    rcases same name mem with same | ⟨unset, v, there, blank⟩
    · rw [optional, same, ← optional]
    · exact optional_eq_of_blank unset there blank
  · intro lookup' same
    apply map_trimmedPart_congr
    intro name mem
    rcases same name mem with same | ⟨v, v', set, padded, there⟩
    · exact .of_eq same
    · exact .of_padded set padded there

/-- A phrase with blanks behind it gives the inputs that it gives without them, but for the text
itself. -/
theorem padded_phrase_is_kept :
    let phrase := Phrase.join (List.replicate 11 "abandon" ++ ["about"])
    let lookup (name : String) :=
      [("TEST_BASE_URL", "web://localhost:3000"), ("TEST_KEPLR_EXTENSION_VERSION", "0.12.20"),
        ("TEST_WALLET_MNEMONIC", phrase), ("TEST_WALLET_PASSWORD", "password")].lookup name
    let padded (name : String) :=
      if name = "TEST_WALLET_MNEMONIC" then some (phrase ++ "  \n") else lookup name
    ∃ inputs inputs', ofLookup lookup = .ok inputs ∧ ofLookup padded = .ok inputs' ∧
      inputs'.trimmedPart = inputs.trimmedPart ∧ inputs'.walletPhrase = phrase ++ "  \n" := by
  intro phrase lookup padded
  have parsed := Mnemonic.made_zeros.faithful.accepted.2
  have url : Url.parse (trimmed "web://localhost:3000") = .ok {
      scheme := "web", authority := some { host := some (.domain "localhost"), port := some 3000 }
      path := .segments [] } := by decide +kernel
  have phraseSet : IsSet lookup "TEST_WALLET_MNEMONIC" phrase := .of_visible rfl (by decide)
  have met : ∀ d ∈ demands lookup, d.2 := by
    simp only [demands, List.forall_mem_cons]
    refine ⟨⟨_, _, .of_visible rfl (by decide), url⟩, ⟨_, .of_visible rfl (by decide)⟩,
      ⟨_, _, phraseSet, parsed⟩, ⟨_, .of_visible rfl (by decide)⟩, ?_, ?_, ?_,
      List.forall_mem_nil _⟩
    all_goals exact fun v set => absurd set (not_isSet_of_none (by decide) v)
  obtain ⟨readable, _, _, _, pads⟩ := reads_variables lookup
  obtain ⟨inputs, done⟩ := readable.2 met
  have same := pads padded ?_
  · rw [done] at same
    obtain ⟨inputs', done', same⟩ := Attempt.ok_map_iff.1 same
    obtain ⟨_, gives, _⟩ := reads_variables padded
    have kept := ((gives inputs').1 done').walletPhrase.1
    exact ⟨inputs, inputs', done, done', same, (Option.some.inj kept).symm⟩
  · intro name _
    by_cases h : name = "TEST_WALLET_MNEMONIC"
    · rw [h]
      refine .inr ⟨_, _, phraseSet, ⟨[], "  \n".toList, ?_, ?_, ?_⟩, if_pos rfl⟩
      · exact List.forall_mem_nil _
      · exact List.all_eq_true.1 (by decide)
      · exact String.toList_append
    · exact .inl (if_neg h)

end SeedVault.RunInputs
