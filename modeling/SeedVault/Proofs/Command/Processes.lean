import Mathlib
import SeedVault.Command.Process
import SeedVault.Proofs.Command.KeptPhrase
import SeedVault.Proofs.Phrase.Mnemonic

/-!
# The kept phrase from process to process

Processes that share a root and work on the kept phrase keep nothing but texts, one under each
origin's name. A process changes the text of its own name as its `change?` says (`step`), so behind
any processes each name has its `activeText`: the last phrase that was kept under that name, and
none if it was forgotten since (`holds_filesBehind`). What a process says follows from that text and
its own configuration (`tracks_phrase`).
-/

namespace SeedVault

open Directory FolderStore Job

/-- What a process is told to do about phrases. -/
inductive PhraseCommand where
  | keep (phrase : Option String)
  | showKept
  | forget
  | derive (phrase : String)

/-- What the tool is told to do by a command about phrases. -/
def PhraseCommand.action : PhraseCommand → Action
  | keep phrase => .keep phrase
  | showKept => .showKept
  | forget => .forget
  | derive phrase => .derive (some phrase) {}

/-- A process that is told to do something about phrases, below a root that it is told of, under a
configuration whose chain is supported and whose application has an origin with a directory. -/
structure PhraseProcess extends Process where
  command : PhraseCommand
  /-- The path of the root. -/
  root : String
  config : Configuration
  deriver : AccountDeriver
  origin : Origin
  told : ∃ g, Action.command.parse args = .ok (command.action, g) ∧
    (g.value? "root").getD
      (Layout.defaultRoot (environment "SEEDKEEPER_ROOT") (environment "HOME")) = root
  configured : Configuration.ofFileOrDefault (document.elim (.error .notFound) .ok) = .ok config
  derived : config.deriver = .ok deriver
  hasOrigin : config.appUrl.origin? = some origin
  short : origin.directoryName.utf8ByteSize ≤ nameLimit

namespace PhraseProcess

/-- The name of the directory in which the process finds its phrase. -/
def name (p : PhraseProcess) : String := p.origin.directoryName

/-- The phrase that the process draws if it is given none. -/
def fresh (p : PhraseProcess) : String := (p.entropy.generate default).1.phrase

/-- What the process makes of the text of its name: a text, or none; nothing if it is not about that
text or is given no phrase. -/
def change? (p : PhraseProcess) : Option (Option String) :=
  match p.command with
  | .keep (some typed) => if (Mnemonic.parse typed).isOk then some (some typed) else none
  | .keep none => some (some p.fresh)
  | .forget => some none
  | .showKept => none
  | .derive _ => none

/-- The result of the process if its name has a text, or none. -/
def result (p : PhraseProcess) (active : Option String) : Except Report Json :=
  match p.command with
  | .keep (some typed) =>
    match Mnemonic.parse typed with
    | .ok _ => account p.deriver (some typed)
    | .error e => .error (Report.ofSession (.phrase e))
  | .keep none => account p.deriver (some p.fresh)
  | .showKept => account p.deriver active
  | .forget => .ok (.ofFields [("active", .bool false)])
  | .derive typed => derivation p.deriver typed

section Step

variable {p : PhraseProcess} {root : List String} {texts : String → Option String}
  {files : Directory}

/-- To configure a process takes no directory away and changes no kept text. -/
lemma holds_configure (p : Process) (h : Holds root texts files) :
    Grows files (p.configure root files) ∧ Holds root texts (p.configure root files) := by
  unfold Process.configure
  cases p.document with
  | some content =>
    refine h.modify (fun d m ne => get?_put_of_ne ne) fun d b there => ?_
    rw [get?_put_self] at there
    cases there
  | none =>
    refine h.modify (fun d m ne => get?_erase_of_ne ne) fun d b there => ?_
    rw [get?_erase_self] at there
    cases there

/-- The file of the configuration holds what the process is configured with. -/
lemma readFile_configure (p : Process) {way : List String}
    (leads : Leads (p.configure root files) [] way root) (isSome : (files.folder? root).isSome) :
    (p.configure root files).readFile (way ++ ["config.toml"]) =
      p.document.elim (.error .notFound) .ok := by
  unfold readFile
  rw [find_name ⟨by decide, by decide⟩ leads]
  unfold Process.configure
  rw [folderAt_modify isSome]
  cases p.document with
  | some content =>
    have found :
        ((files.folderAt root).put "config.toml" (.file 0o644 content)).lookup "config.toml" =
        .ok (.file 0o644 content) := lookup_ok_iff.2 ⟨by decide, get?_put_self⟩
    simp only [found]
    rfl
  | none =>
    have lost : ((files.folderAt root).erase "config.toml").lookup "config.toml" =
        .error .notFound := lookup_notFound_iff.2 ⟨by decide, get?_erase_self⟩
    simp only [lost]
    rfl

/-- On files whose stores have texts, and where its way leads to the root, a process is ready. -/
lemma ready (h : Holds root texts files) (leads : Leads files [] (pathFrom p.current p.root) root) :
    Ready p.root root texts p.config p.deriver p.origin (p.machine root files) := by
  obtain ⟨grows, holds⟩ := holds_configure p.toProcess h
  have leads' := leads.grow grows
  refine ⟨?_, p.derived, p.hasOrigin, p.short, leads', holds⟩
  rw [Layout.pathFrom_appConfig]
  change Configuration.ofFileOrDefault ((p.configure root files).readFile
    (pathFrom p.current p.root ++ ["config.toml"])) = _
  rw [readFile_configure p.toProcess leads' h.folder]
  exact p.configured

/-- What a command comes to on a machine that is ready. -/
lemma concludes {m : Machine} (ready : Ready p.root root texts p.config p.deriver p.origin m)
    (entropy : m.entropy = p.entropy) :
    Concludes root (Function.update texts p.name (p.change?.getD (texts p.name))) m
      (p.command.action.job (Layout.ofRoot p.root)) (p.result (texts p.name)) := by
  have stay {job result} (h : Concludes root texts m job result) :
      Concludes root (Function.update texts p.name (texts p.name)) m job result := by
    rw [Function.update_eq_self]
    exact h
  unfold result change?
  cases p.command with
  | keep phrase =>
    cases phrase with
    | some typed =>
      simp only
      cases parsed : Mnemonic.parse typed with
      | ok phrase => exact keep_given ready parsed
      | error e => exact stay (keep_refused ready parsed)
    | none =>
      unfold fresh
      rw [← entropy]
      exact keep_fresh ready
  | showKept => exact stay (showKept_concludes ready)
  | forget => exact forget_concludes ready
  | derive typed => exact stay (derive_concludes ready typed)

/-- A process ends as its result says, and changes the text of its own name alone. -/
lemma step (h : Holds root texts files) (leads : Leads files [] (pathFrom p.current p.root) root) :
    ∃ m', p.run root files = Machine.concluded (p.result (texts p.name)) m' ∧
      Later (p.machine root files) m' ∧ Grows files m'.files ∧
      Holds root (Function.update texts p.name (p.change?.getD (texts p.name))) m'.files := by
  obtain ⟨m', done, later, holds⟩ := concludes (ready h leads) rfl
  obtain ⟨g, told, rooted⟩ := p.told
  refine ⟨m', ?_, later, (holds_configure p.toProcess h).1.trans later.grows, holds⟩
  -- the root of which the process is told is that of the layout that the run works with
  have layout : (p.machine root files).layout (g.value? "root") = Layout.ofRoot p.root := by
    rw [← rooted]
    rfl
  rw [← layout] at done
  exact (Machine.run_of_parse told _).trans (Machine.perform_of_job done)

end Step

/-- The text that is active under a name behind some processes: the last one that a process of that
name has kept, and none if none has, or if one has forgotten it since. -/
def activeText (n : String) (ps : List PhraseProcess) : Option String :=
  ((ps.filter (·.name = n)).filterMap change?).getLast?.getD none

/-- A further process makes of the text of its own name what it makes of it. -/
lemma activeText_concat (ps : List PhraseProcess) (p : PhraseProcess) :
    (activeText · (ps ++ [p])) =
      Function.update (activeText · ps) p.name (p.change?.getD (activeText p.name ps)) := by
  funext n
  unfold activeText
  rw [List.filter_append]
  by_cases same : p.name = n
  · subst same
    have own : [p].filter (·.name = p.name) = [p] := by simp
    rw [Function.update_self, own, List.filterMap_append]
    cases change : p.change? with
    | none =>
      rw [List.filterMap_cons_none change, List.filterMap_nil, List.append_nil]
      rfl
    | some text? =>
      rw [List.filterMap_cons_some change, List.filterMap_nil, List.getLast?_concat]
      rfl
  · rw [Function.update_of_ne (Ne.symm same), List.filter_cons_of_neg (by simpa using same),
      List.filter_nil, List.append_nil]

section Runs

variable {root : List String} {files : Directory}

/-- The files behind processes, starting from given ones. -/
def filesBehind (ps : List PhraseProcess) (root : List String) (files : Directory) : Directory :=
  Process.runAll (ps.map toProcess) root files

/-- Behind one process more are the files that it leaves. -/
lemma filesBehind_concat (ps : List PhraseProcess) (p : PhraseProcess) :
    filesBehind (ps ++ [p]) root files = (p.run root (filesBehind ps root files)).2.files := by
  unfold filesBehind
  induction ps generalizing files with
  | nil => rfl
  | cons q ps ih => exact ih

/-- Behind processes below one root, the stores have the active texts. -/
lemma holds_filesBehind (untouched : Holds root (fun _ => none) files) (ps : List PhraseProcess)
    (leads : ∀ p ∈ ps, Leads files [] (pathFrom p.current p.root) root) :
    Grows files (filesBehind ps root files) ∧
      Holds root (activeText · ps) (filesBehind ps root files) := by
  -- the texts are those of the last process and, under other names, of the ones before it
  induction ps using List.reverseRecOn with
  | nil => exact ⟨Grows.refl, untouched⟩
  | append_singleton ps p ih =>
    rw [List.forall_mem_append, List.forall_mem_singleton] at leads
    obtain ⟨grows, holds⟩ := ih leads.1
    obtain ⟨m', done, _, grows', holds'⟩ := step holds (leads.2.grow grows)
    rw [filesBehind_concat, done, Machine.files_concluded, activeText_concat]
    exact ⟨grows.trans grows', holds'⟩

end Runs

/-- A text that is active is one of a phrase. -/
lemma parse_activeText {n : String} {ps : List PhraseProcess} {text : String}
    (active : activeText n ps = some text) : ∃ m, Mnemonic.parse text = .ok m := by
  obtain ⟨p, _, kept⟩ : ∃ p ∈ ps.filter (·.name = n), p.change? = some (some text) := by
    unfold activeText at active
    cases last : ((ps.filter (·.name = n)).filterMap change?).getLast? with
    | none =>
      rw [last] at active
      cases active
    | some text? =>
      rw [last, Option.getD_some] at active
      subst active
      exact List.mem_filterMap.1 (List.mem_of_getLast? last)
  -- no text is kept but one that was parsed, or one that was drawn
  unfold change? at kept
  split at kept
  case h_1 typed _ =>
    cases parsed : Mnemonic.parse typed with
    | ok m =>
      rw [parsed] at kept
      obtain rfl : typed = text := Option.some_inj.1 (Option.some_inj.1 kept)
      exact ⟨m, parsed⟩
    | error e =>
      rw [parsed] at kept
      cases kept
  case h_2 =>
    obtain rfl : p.fresh = text := Option.some_inj.1 (Option.some_inj.1 kept)
    exact ⟨_, (Mnemonic.Made.generate p.entropy default).faithful.accepted.2⟩
  case h_3 => cases Option.some_inj.1 kept
  case h_4 => cases kept
  case h_5 => cases kept

/-- The active text is the same without the processes of other names. -/
lemma activeText_filter (n : String) (ps : List PhraseProcess) :
    activeText n (ps.filter (·.name = n)) = activeText n ps := by
  unfold activeText
  rw [List.filter_filter]
  simp only [Bool.and_self]

/-- What a process comes to behind others. -/
def ranBehind (p : PhraseProcess) (before : List PhraseProcess) (root : List String)
    (files : Directory) : Bool × Machine := p.run root (filesBehind before root files)

/-- The deriver gives keys for a text if it is a phrase. -/
def Derives (d : AccountDeriver) (text : String) : Prop :=
  ∀ m, Mnemonic.parse text = .ok m → ∃ k, d.derive m = .ok k

section Results

variable {d : AccountDeriver} {text : String} {m : Mnemonic} {k : KeyPair}

/-- A phrase that gives keys has an account to show. -/
lemma account_of_derives (derives : Derives d text) (parsed : Mnemonic.parse text = .ok m) :
    ∃ k, d.derive m = .ok k ∧ account d (some text) = .ok (accountJson d k.address) := by
  obtain ⟨k, derived⟩ := derives m parsed
  have address : Session.addressOf d (.ok (some text)) = some k.address :=
    Session.addressOf_eq_some_iff.2 ⟨text, m, k, rfl, parsed, derived, rfl⟩
  refine ⟨k, derived, ?_⟩
  unfold account
  rw [address]

/-- A phrase that gives keys has them to show. -/
lemma derivation_of_derive (parsed : Mnemonic.parse text = .ok m) (derived : d.derive m = .ok k) :
    derivation d text = .ok (keysJson d k) := by
  unfold derivation
  rw [parsed]
  change ((d.derive m).mapError Report.ofDerive >>= fun keys => pure (keysJson d keys)) = _
  rw [derived]
  rfl

variable {p : PhraseProcess} {typed : String} {active : Option String}

/-- A text that is kept gives a result if and only if it is a phrase. -/
lemma isOk_result_keep (command : p.command = .keep (some typed))
    (derives : Derives p.deriver typed) :
    (p.result active).isOk = true ↔ ∃ m, Mnemonic.parse typed = .ok m := by
  unfold result
  rw [command]
  cases parsed : Mnemonic.parse typed with
  | ok m =>
    obtain ⟨k, _, shown⟩ := account_of_derives derives parsed
    simp only [parsed, shown]
    exact iff_of_true rfl ⟨m, rfl⟩
  | error e =>
    simp only [parsed]
    exact iff_of_false Bool.false_ne_true (by rintro ⟨_, ⟨⟩⟩)

/-- A text that is no phrase makes nothing of the text there is. -/
lemma change?_of_refused (command : p.command = .keep (some typed))
    (refused : ¬ ∃ m, Mnemonic.parse typed = .ok m) : p.change? = none := by
  unfold change?
  rw [command]
  cases parsed : Mnemonic.parse typed with
  | ok m => exact absurd ⟨m, parsed⟩ refused
  | error e =>
    simp only [parsed]
    rfl

/-- To keep a fresh phrase that gives keys goes well. -/
lemma isOk_result_keepFresh (command : p.command = .keep none)
    (derives : Derives p.deriver p.fresh) :
    (p.result active).isOk = true := by
  obtain ⟨k, _, shown⟩ :=
    account_of_derives derives (Mnemonic.Made.generate p.entropy default).faithful.accepted.2
  unfold result
  rw [command]
  change (account p.deriver (some p.fresh)).isOk = true
  rw [shown]
  rfl

/-- To show what is kept comes to the account of the active text. -/
lemma result_showKept (command : p.command = .showKept) :
    p.result active = account p.deriver active := by
  unfold result
  rw [command]

/-- To derive comes to the keys of the typed text, whichever is active. -/
lemma result_derive (command : p.command = .derive typed) :
    p.result active = derivation p.deriver typed := by
  unfold result
  rw [command]

end Results

/-- Processes with one configuration have one deriver. -/
lemma deriver_eq {p q : PhraseProcess} (same : q.config = p.config) : q.deriver = p.deriver := by
  refine Except.ok.inj (q.derived.symm.trans ?_)
  rw [same]
  exact p.derived

/-- What a process does behind others that share its root. -/
structure TracksPhrase (root : List String) (files : Directory) (before : List PhraseProcess)
    (p : PhraseProcess) : Prop where
  /-- To keep a text goes well if and only if it is a phrase. -/
  keeps : ∀ typed, p.command = .keep (some typed) → Derives p.deriver typed →
    ((p.ranBehind before root files).1 = true ↔ ∃ m, Mnemonic.parse typed = .ok m)
  /-- If it does not go well, all texts are as before. -/
  refuses : ∀ typed, p.command = .keep (some typed) → Derives p.deriver typed →
    (p.ranBehind before root files).1 = false →
    ∀ texts, Holds root texts (filesBehind before root files) →
      Holds root texts (p.ranBehind before root files).2.files
  /-- To keep a fresh phrase goes well. -/
  keepsFresh : p.command = .keep none → Derives p.deriver p.fresh →
    (p.ranBehind before root files).1 = true
  /-- To show the account fails if and only if no phrase is active. -/
  shows : p.command = .showKept →
    (∀ text, activeText p.name before = some text → Derives p.deriver text) →
    ((p.ranBehind before root files).1 = false ↔ activeText p.name before = none)
  /-- What is shown has the address of the keys of the active phrase, which is the one that
  deriving them from the phrase shows under the same configuration. -/
  shown : p.command = .showKept → ∀ text, activeText p.name before = some text →
    Derives p.deriver text →
    ∃ m k, Mnemonic.parse text = .ok m ∧ p.deriver.derive m = .ok k ∧
      (p.ranBehind before root files).2.output = Json.write (accountJson p.deriver k.address) ∧
      ∀ q : PhraseProcess, q.command = .derive text → q.config = p.config →
        Leads files [] (pathFrom q.current q.root) root →
        (q.ranBehind before root files).1 = true ∧
          (q.ranBehind before root files).2.output = Json.write (keysJson q.deriver k)
  /-- To forget a phrase goes well. -/
  forgets : p.command = .forget → (p.ranBehind before root files).1 = true
  /-- Behind the process, the stores have the active texts. -/
  kept : Holds root (activeText · (before ++ [p])) (p.ranBehind before root files).2.files
  /-- Without the processes of other names, it would have gone alike. -/
  alone : Machine.Alike (p.ranBehind before root files)
    (p.ranBehind (before.filter (·.name = p.name)) root files)

section Conclusions

variable {root : List String} {files : Directory} {before : List PhraseProcess} {p : PhraseProcess}

/-- A process ends as its result for the active text says. -/
lemma ranBehind_eq (untouched : Holds root (fun _ => none) files)
    (leads : ∀ q ∈ p :: before, Leads files [] (pathFrom q.current q.root) root) :
    ∃ m', p.ranBehind before root files =
        Machine.concluded (p.result (activeText p.name before)) m' ∧
      m'.output = "" ∧ m'.messages = "" ∧ m'.network = p.network := by
  obtain ⟨own, others⟩ := List.forall_mem_cons.1 leads
  obtain ⟨grows, holds⟩ := holds_filesBehind untouched before others
  obtain ⟨m', done, later, _, _⟩ := step holds (own.grow grows)
  exact ⟨m', done, later.output, later.messages, later.network⟩

/-- A run goes well if its result is one. -/
lemma fst_concluded (result : Except Report Json) (m : Machine) :
    (Machine.concluded result m).1 = result.isOk := by
  cases result <;> rfl

/-- A run that has said nothing yet says its result and nothing else. -/
lemma output_concluded {m : Machine} (output : m.output = "") (v : Json) :
    (Machine.concluded (.ok v) m).2.output = Json.write v := by
  change m.output ++ Json.write v = _
  rw [output, String.empty_append]

/-- Without an active text, and only then, there is no account to show. -/
lemma isOk_result_activeText (command : p.command = .showKept)
    (derives : ∀ text, activeText p.name before = some text → Derives p.deriver text) :
    (p.result (activeText p.name before)).isOk = false ↔ activeText p.name before = none := by
  rw [result_showKept command]
  cases active : activeText p.name before with
  | none => exact iff_of_true rfl rfl
  | some text =>
    obtain ⟨m, parsed⟩ := parse_activeText active
    obtain ⟨k, _, shown⟩ := account_of_derives (derives text active) parsed
    rw [shown]
    exact iff_of_false Bool.noConfusion (by rintro ⟨⟩)

/-- A text that is refused leaves all texts as they were. -/
lemma holds_of_refused {typed : String} {texts : String → Option String}
    (has : Holds root texts (filesBehind before root files))
    (leads : Leads (filesBehind before root files) [] (pathFrom p.current p.root) root)
    (command : p.command = .keep (some typed)) (refused : ¬ ∃ m, Mnemonic.parse typed = .ok m) :
    Holds root texts (p.ranBehind before root files).2.files := by
  obtain ⟨m', done, _, _, has'⟩ := step has leads
  rw [change?_of_refused command refused, Option.getD_none, Function.update_eq_self] at has'
  unfold ranBehind
  rw [done, Machine.files_concluded]
  exact has'

/-- Whatever processes have been run below a root whose stores had no text before, each further one
does what it is told with the phrase that is active under its own origin's name. -/
theorem tracks_phrase (untouched : Holds root (fun _ => none) files)
    (leads : ∀ q ∈ p :: before, Leads files [] (pathFrom q.current q.root) root) :
    TracksPhrase root files before p := by
  obtain ⟨own, others⟩ := List.forall_mem_cons.1 leads
  obtain ⟨grows, holds⟩ := holds_filesBehind untouched before others
  obtain ⟨m', done, output, messages, network⟩ := ranBehind_eq untouched leads
  constructor
  case keeps =>
    intro typed command derives
    rw [done, fst_concluded]
    exact isOk_result_keep command derives
  case refuses =>
    intro typed command derives failed texts has
    refine holds_of_refused has (own.grow grows) command ?_
    rw [done, fst_concluded] at failed
    rw [← isOk_result_keep command derives, failed]
    exact Bool.false_ne_true
  case keepsFresh =>
    intro command derives
    rw [done, fst_concluded]
    exact isOk_result_keepFresh command derives
  case shows =>
    intro command derives
    rw [done, fst_concluded]
    exact isOk_result_activeText command derives
  case shown =>
    intro command text active derives
    obtain ⟨m, parsed⟩ := parse_activeText active
    obtain ⟨k, derived, account⟩ := account_of_derives derives parsed
    refine ⟨m, k, parsed, derived, ?_, fun q asked same way => ?_⟩
    · rw [done, result_showKept command, active, account, output_concluded output]
    -- the other process derives in the same place, behind the same processes
    · have keys : derivation q.deriver text = .ok (keysJson q.deriver k) :=
        derivation_of_derive parsed (deriver_eq same ▸ derived)
      obtain ⟨m'', done', output', _⟩ :=
        ranBehind_eq untouched (List.forall_mem_cons.2 ⟨way, others⟩)
      rw [done', result_derive asked, keys, output_concluded output']
      exact ⟨rfl, rfl⟩
  case forgets =>
    intro command
    rw [done, fst_concluded]
    unfold result
    rw [command]
    rfl
  case kept =>
    have has := (holds_filesBehind untouched (before ++ [p]) ?_).2
    · rw [filesBehind_concat] at has
      exact has
    · rw [List.forall_mem_append, List.forall_mem_singleton]
      exact ⟨others, own⟩
  case alone =>
    have fewer : ∀ q ∈ p :: before.filter (·.name = p.name),
        Leads files [] (pathFrom q.current q.root) root :=
      List.forall_mem_cons.2 ⟨own, fun q mem => others q (List.mem_filter.1 mem).1⟩
    obtain ⟨m'', done', output', messages', network'⟩ := ranBehind_eq untouched fewer
    rw [done, done', activeText_filter]
    refine Machine.alike_concluded _ (output.trans output'.symm) (messages.trans messages'.symm) ?_
    rw [network, network']

end Conclusions

/-- A process below the topmost directory, under the default configuration. -/
def ofDefaults (args : List String) (command : PhraseCommand)
    (told : Action.command.parse args = .ok (command.action, { values := [("root", "/")] })) :
    PhraseProcess where
  args
  entropy := { supply := fun _ => 0 }
  network := { listens := fun _ => false, replies := fun _ => .lost }
  command
  root := "/"
  config := {}
  deriver := ⟨default, "pion-1", "neutron"⟩
  origin := ⟨"http", .domain "localhost", 3000⟩
  told := ⟨_, told, rfl⟩
  configured := rfl
  derived := by rfl
  hasOrigin := by decide
  short := by decide +kernel

/-- One process draws a phrase, and others show its account or forget it. The phrase is kept whether
or not it has an account, and forgotten whether or not it had one. -/
theorem tracks_fresh_phrase :
    ∃ setter shower forgetter : PhraseProcess,
      setter.command = .keep none ∧ shower.command = .showKept ∧ forgetter.command = .forget ∧
      activeText shower.name [setter] = some setter.fresh ∧
      Holds [] (fun _ => none) .empty ∧
      (∀ q ∈ [shower, forgetter, setter], Leads .empty [] (pathFrom q.current q.root) []) ∧
      TracksPhrase [] .empty [] setter ∧ TracksPhrase [] .empty [setter] shower ∧
      TracksPhrase [] .empty [setter] forgetter ∧
      Holds [] (activeText · [setter]) (setter.ranBehind [] [] .empty).2.files ∧
      (¬ Derives shower.deriver setter.fresh ∨
        ∃ m k, Mnemonic.parse setter.fresh = .ok m ∧ shower.deriver.derive m = .ok k ∧
          (shower.ranBehind [setter] [] .empty).2.output =
            Json.write (accountJson shower.deriver k.address)) ∧
      (forgetter.ranBehind [setter] [] .empty).1 = true ∧
      activeText forgetter.name [setter, forgetter] = none := by
  let setter := ofDefaults ["--root", "/", "session", "set"] (.keep none) (by cbv)
  let shower := ofDefaults ["--root", "/", "session", "show"] .showKept (by cbv)
  let forgetter := ofDefaults ["--root", "/", "session", "clear"] .forget (by cbv)
  have untouched : Holds [] (fun _ => none) .empty :=
    ⟨rfl, nofun, .empty, rfl, fun _ => ⟨.empty, rfl, filesOnly_new, get_empty⟩⟩
  have top : pathFrom [] "/" = [] := by
    unfold pathFrom
    split <;> rfl
  have leads : ∀ q ∈ [shower, forgetter, setter],
      Leads .empty [] (pathFrom q.current q.root) [] := by
    intro q mem
    have way : pathFrom q.current q.root = [] := by
      simp only [List.mem_cons, List.not_mem_nil, or_false] at mem
      obtain rfl | rfl | rfl := mem
      · exact top
      · exact top
      · exact top
    rw [way]
    exact .stop
  have some_leads {qs : List PhraseProcess} (sub : qs ⊆ [shower, forgetter, setter]) :
      ∀ q ∈ qs, Leads .empty [] (pathFrom q.current q.root) [] := fun q mem => leads q (sub mem)
  have active := congrFun (activeText_concat [] setter) setter.name
  rw [Function.update_self] at active
  have forgotten := congrFun (activeText_concat [setter] forgetter) forgetter.name
  rw [Function.update_self] at forgotten
  have sets : TracksPhrase [] .empty [] setter := tracks_phrase untouched (some_leads (by simp))
  have shows : TracksPhrase [] .empty [setter] shower :=
    tracks_phrase untouched (some_leads (by simp))
  have forgets : TracksPhrase [] .empty [setter] forgetter :=
    tracks_phrase untouched (some_leads (by simp))
  refine ⟨setter, shower, forgetter, rfl, rfl, rfl, active, untouched, leads, sets, shows, forgets,
    sets.kept, ?_, forgets.forgets rfl, forgotten⟩
  by_cases derives : Derives shower.deriver setter.fresh
  · obtain ⟨m, k, parsed, derived, output, _⟩ := shows.shown rfl _ active derives
    exact .inr ⟨m, k, parsed, derived, output⟩
  · exact .inl derives

end PhraseProcess

end SeedVault
