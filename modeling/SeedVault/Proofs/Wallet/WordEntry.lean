import SeedVault.Proofs.Phrase.Mnemonic
import SeedVault.Proofs.Wallet.Import

/-!
# How the words are entered

An import asks for the inputs of the words once, and gives up if they are too few. Otherwise the
first input gets the first word, and so on, each behind one that was taken (`Entered.of_performed`);
and only when all have been taken it looks for what submits them (`types_words_in_order`). What a
request looks for is read off its body, so it is known of whole conversations (`AboutOnly`).
-/

namespace SeedVault

open WebTask (Says)
open Browser

/-- The selector that a request is about, if it is about one. -/
def Request.sought? (q : Request) : Option String :=
  (q.body.bind fun v => v.field? "value").bind Json.string?

/-- The requests of a conversation are about no other selectors. -/
def AboutOnly (selectors : List String) (said : List Exchange) : Prop :=
  ∀ x ∈ said, ∀ selector, x.1.sought? = some selector → selector ∈ selectors

/-- The selector that an act looks for. -/
def Act.selector? : Act → Option String
  | .await selector => some selector
  | .click selector => some selector
  | .type selector _ => some selector
  | .read selector => some selector
  | .goto _ => none
  | .typeInto _ _ => none

section About

variable {b : Browser} {selectors : List String} {said said' : List Exchange}

/-- An empty conversation is about nothing. -/
lemma AboutOnly.nil : AboutOnly selectors [] := fun _ mem => absurd mem List.not_mem_nil

/-- What is about some selectors only is so for more of them. -/
lemma AboutOnly.mono {selectors' : List String} (h : AboutOnly selectors said)
    (more : selectors ⊆ selectors') : AboutOnly selectors' said :=
  fun x mem selector about => more (h x mem selector about)

/-- Two conversations about some selectors only are so together. -/
lemma AboutOnly.append (h : AboutOnly selectors said) (h' : AboutOnly selectors said') :
    AboutOnly selectors (said ++ said') := by
  intro x mem
  exact (List.mem_append.1 mem).elim (h x) (h' x)

/-- A request with a selector is about that selector. -/
lemma sought?_of_locator {path selector : String} {q : Request}
    (sent : b.Below .post path (some (Locator.ofSelector selector).json) q) :
    q.sought? = some selector := by
  obtain ⟨u, _, rfl⟩ := sent
  unfold Locator.ofSelector
  split <;> rfl

/-- The search for elements is about their selectors. -/
lemma aboutOnly_of_sought (sought : b.Sought selectors said) : AboutOnly selectors said := by
  intro x mem selector about
  obtain ⟨own, listed, seeks⟩ := sought x mem
  rw [sought?_of_locator seeks] at about
  cases about
  exact listed

/-- An order is about no selector. -/
lemma aboutOnly_of_ordered {o : Browser.Order} {obeyed : Bool}
    (silent : o.body.field? "value" = none) (ordered : b.Ordered o obeyed said) :
    AboutOnly selectors said := by
  have none {q : Request} (gives : b.Orders o q) : q.sought? = none := by
    obtain ⟨u, _, rfl⟩ := gives
    show (o.body.field? "value").bind Json.string? = none
    rw [silent]
    rfl
  cases ordered with
  | unsent => exact AboutOnly.nil
  | sent gives | obeyed gives _ =>
    intro x mem selector about
    obtain rfl := List.mem_singleton.1 mem
    rw [none gives] at about
    cases about

/-- An order that concerns an element is about the selector of that element. -/
lemma aboutOnly_of_orderedAt {selector : String} {order : Element → Browser.Order} {obeyed : Bool}
    (silent : ∀ e, (order e).body.field? "value" = none)
    (ordered : b.OrderedAt selector order obeyed said) : AboutOnly [selector] said := by
  cases ordered with
  | looking sought => exact aboutOnly_of_sought sought
  | found first ordered =>
    exact (aboutOnly_of_sought first.sought).append (aboutOnly_of_ordered (silent _) ordered)

/-- What is said by an act is about no selector but its own. -/
lemma Act.Goes.aboutOnly {act : Act} {succeeds : Bool} (h : act.Goes b succeeds said) :
    AboutOnly act.selector?.toList said := by
  have absent {fields : List (String × Json)} (others : ∀ f ∈ fields, "value" ≠ f.1) :
      (Json.ofFields fields).field? "value" = none := Json.field?_ofFields_eq_none others
  cases act with
  | goto url => exact aboutOnly_of_ordered (absent (by simp)) h
  | typeInto e text => exact aboutOnly_of_ordered (absent (by simp)) h
  | click selector => exact aboutOnly_of_orderedAt (fun _ => absent (by simp)) h
  | type selector text => exact aboutOnly_of_orderedAt (fun _ => absent (by simp)) h
  | read selector => exact aboutOnly_of_orderedAt (fun _ => absent (by simp)) h
  | await selector =>
    cases h with
    | looking sought => exact aboutOnly_of_sought sought
    | found first => exact aboutOnly_of_sought first.sought

/-- What is said by a script is about the selectors of its acts. -/
lemma Performed.aboutOnly {script left : List Act} (h : Performed b script left said) :
    AboutOnly (script.filterMap Act.selector?) said := by
  have own (act : Act) (script : List Act) :
      act.selector?.toList ⊆ (act :: script).filterMap Act.selector? := by
    cases told : act.selector? with
    | none => simp
    | some selector => simp [told]
  induction h with
  | nil => exact AboutOnly.nil
  | stopped goes => exact goes.aboutOnly.mono (own _ _)
  | @next act script left said rest goes _ ih =>
    have later : script.filterMap Act.selector? ⊆ (act :: script).filterMap Act.selector? :=
      ((List.sublist_cons_self act script).filterMap Act.selector?).subset
    exact (goes.aboutOnly.mono (own act script)).append (ih.mono later)

end About

section Scripts

variable {b : Browser} {script script' left : List Act} {said : List Exchange}

/-- The first part of a script is performed up to acts that are left of it, and the second part only
if there are none. -/
lemma Performed.split (h : Performed b (script ++ script') left said) :
    ∃ front rest left', said = front ++ rest ∧ Performed b script left' front ∧
      (left' = [] → Performed b script' left rest) ∧ (left' ≠ [] → rest = [] ∧ left ≠ []) := by
  induction script generalizing said with
  | nil => exact ⟨[], said, [], rfl, .nil, fun _ => h, fun ne => absurd rfl ne⟩
  | cons act script ih =>
    cases h with
    | stopped goes =>
      exact ⟨said, [], _, (List.append_nil _).symm, .stopped goes, by simp, by simp⟩
    | @next _ _ _ first others goes performed =>
      obtain ⟨front, rest, left', rfl, before, behind, stopped⟩ := ih performed
      exact ⟨first ++ front, rest, left', (List.append_assoc _ _ _).symm, .next goes before, behind,
        stopped⟩

/-- A search that has found something has said something. -/
lemma Browser.FirstReply.ne_nil {selectors : List String} {D : Reply → Prop} {i : Nat}
    (h : b.FirstReply selectors D i said) : said ≠ [] := by
  induction h with
  | now => simp
  | later _ _ ih => exact List.append_ne_nil_of_right_ne_nil _ ih

/-- A script with a click that is performed to its end has said something. -/
lemma Performed.ne_nil {selector : String} (h : Performed b (.click selector :: script) [] said) :
    said ≠ [] := by
  cases h with
  | next goes _ =>
    cases goes with
    | found reply _ => simp [reply.ne_nil]

/-- A script that begins with a click begins by looking for what to click on. -/
lemma Performed.seeks_first {selector : String} {x : Exchange}
    (h : Performed b (.click selector :: script) left said) (first : said.head? = some x) :
    b.Seeks selector x.1 := by
  have only {said : List Exchange} (sought : b.Sought [selector] said)
      (first : said.head? = some x) : b.Seeks selector x.1 := by
    obtain ⟨_, listed, seeks⟩ := sought x (List.mem_of_head? first)
    rwa [List.mem_singleton.1 listed] at seeks
  have found {said rest : List Exchange} {e : Element}
      (reply : b.FirstReply [selector] (·.Gives (.ok e)) 0 said)
      (first : (said ++ rest).head? = some x) : b.Seeks selector x.1 := by
    rw [List.head?_append_of_ne_nil _ reply.ne_nil] at first
    exact only reply.sought first
  cases h with
  | stopped goes =>
    cases goes with
    | looking sought => exact only sought first
    | found reply ordered => exact found reply first
  | next goes _ =>
    cases goes with
    | found reply ordered =>
      rw [List.append_assoc] at first
      exact found reply first

end Scripts

section Typing

variable {b : Browser} {words : List (Element × String)} {left : List Act} {said : List Exchange}

/-- Each text goes to its own input, in order and once, and nothing else is asked for. -/
def Browser.Types (b : Browser) (words : List (Element × String)) (said : List Exchange) : Prop :=
  List.Forall₂ (fun w x => b.Orders (.typing w.2 w.1) x.1) words said

/-- The texts are typed in order, each one only behind those that were taken. -/
lemma Performed.types (h : Performed b (words.map fun w => .typeInto w.1 w.2) left said) :
    ∃ k ≤ words.length, b.Types (words.take k) said ∧ (∀ x ∈ said.dropLast, x.2.Accepts) ∧
      (left = [] → k = words.length ∧ ∀ x ∈ said, x.2.Accepts) := by
  induction words generalizing said with
  | nil =>
    cases h
    exact ⟨0, le_rfl, .nil, by simp, fun _ => ⟨rfl, by simp⟩⟩
  | cons w others ih =>
    cases h with
    | stopped goes =>
      cases goes with
      | unsent => exact ⟨0, by simp, .nil, by simp, by simp⟩
      | sent gives => exact ⟨1, by simp, .cons gives .nil, by simp, by simp⟩
    | @next _ _ _ _ rest goes performed =>
      obtain ⟨k, le, types, taken, whole⟩ := ih performed
      cases goes with
      | @obeyed q r gives accepts =>
        refine ⟨k + 1, Nat.succ_le_succ le, .cons gives types, ?_, fun none => ?_⟩
        · intro x mem
          cases rest with
          | nil => cases mem
          | cons y rest =>
            rcases List.mem_cons.1 mem with rfl | mem
            · exact accepts
            · exact taken x mem
        · obtain ⟨rfl, all⟩ := whole none
          refine ⟨rfl, fun x mem => ?_⟩
          rcases List.mem_cons.1 mem with rfl | mem
          · exact accepts
          · exact all x mem

end Typing

/-- The length of a phrase is its number of words. -/
lemma Mnemonic.Made.words_wordCount {m : Mnemonic} (h : m.Made) :
    m.wordCount.words = m.words.length := by
  obtain ⟨c, sized⟩ := h.faithful.sized
  have count : m.words.length = c.words := by
    rw [h.faithful.words_eq, Phrase.length_encode sized]
  rw [Mnemonic.wordCount, count, WordCount.ofWords?_words]
  rfl

/-- What a reply gives to one who asks for all elements does not depend on the address. -/
lemma Reply.givesAll_iff (address : String) {r : Reply} {inputs : List Element} :
    r.GivesAll inputs ↔ (readReply (.list .any) address r >>= fun v =>
      (v.items?.getD []).mapM elementIn) = .ok inputs := by
  cases r with
  | lost =>
    constructor
    · rintro ⟨_, v, reply, _⟩
      cases reply
    · rintro ⟨⟩
  | answer status text =>
    constructor
    · rintro ⟨_, v, reply, items⟩
      change readReply (.list .any) address (.answer status text) = .ok v at reply
      rw [reply]
      exact items
    · intro told
      cases reply : readReply (.list .any) address (.answer status text) with
      | error e =>
        rw [reply] at told
        cases told
      | ok v =>
        rw [reply] at told
        exact ⟨address, v, reply, told⟩

namespace ExtensionSession

variable (s : ExtensionSession)

/-- The words with their inputs, if there are enough inputs. -/
def paired (m : Mnemonic) (inputs : List Element) : Except Report (List (Element × String)) :=
  if m.wordCount.words ≤ inputs.length then .ok (inputs.zip m.words)
  else .error [.note ("expected " ++ Text.Decimal.text m.wordCount.words ++ " word inputs, found "
    ++ Text.Decimal.text inputs.length)]

/-- What is said to find the inputs of the words, and what comes of it. -/
inductive Counted (selector : String) (m : Mnemonic) :
    List Exchange → Outcome Report (List (Element × String)) → Prop where
  | unsent {o} :
    (∀ words, o ≠ .done words) →
    Counted selector m [] o
  | asked {q r o} :
    s.browser.SeeksAll selector q →
    ((∀ inputs, ¬ r.GivesAll inputs) → ∀ words, o ≠ .done words) →
    (∀ inputs, r.GivesAll inputs → o = .expired ∨ o = .ofExcept (paired m inputs)) →
    Counted selector m [(q, r)] o

/-- Too few inputs are reported, with the number of words and of inputs. -/
lemma paired_of_few {m : Mnemonic} {inputs : List Element} (made : m.Made)
    (few : inputs.length < m.words.length) :
    paired m inputs = .error [.note ("expected " ++ Text.Decimal.text m.words.length
      ++ " word inputs, found " ++ Text.Decimal.text inputs.length)] := by
  rw [paired, made.words_wordCount, if_neg (Nat.not_le.2 few)]

/-- With enough inputs each word has its own. -/
lemma paired_of_enough {m : Mnemonic} {inputs : List Element} (made : m.Made)
    (enough : m.words.length ≤ inputs.length) : paired m inputs = .ok (inputs.zip m.words) := by
  rw [paired, made.words_wordCount, if_pos enough]

/-- The inputs of the words are asked for once and counted. -/
lemma says_counted (selector : String) (m : Mnemonic) :
    (WalletExtension.wordInputs s selector m).Says (s.Counted selector m) := by
  have parted : WalletExtension.wordInputs s selector m =
      WebTask.reporting (s.browser.findAll (.ofSelector selector)) >>= fun inputs =>
        .ofExcept (paired m inputs) := by
    unfold WalletExtension.wordInputs paired
    refine congrArg _ (funext fun inputs => ?_)
    dsimp only
    split <;> rfl
  have listing : (s.browser.findAll (.ofSelector selector)).Says
      (Exchanged (s.browser.SeeksAll selector) (.list .any) fun x =>
        x >>= fun v => (v.items?.getD []).mapM elementIn) :=
    Exchanged.bind (s.browser.says_query (.list .any) .post "elements" _) _
  -- the pairing sends nothing: all that is said is the one request for the inputs
  rw [parted]
  refine (Exchanged.bind (Exchanged.mapError listing Report.ofWeb) (paired m)).mono ?_
  intro said o exchanged
  cases exchanged with
  | unsent fault => exact .unsent (by rintro _ ⟨⟩)
  | late r seeks => exact .asked seeks (by rintro _ _ ⟨⟩) fun _ _ => .inl rfl
  | read r address seeks =>
    refine .asked seeks ?_ ?_
    · intro none words done
      cases told : readReply (.list .any) address r >>= fun v =>
          (v.items?.getD []).mapM elementIn with
      | ok inputs => exact none inputs ((Reply.givesAll_iff address).2 told)
      | error e =>
        rw [told] at done
        cases done
    · intro inputs gives
      rw [(Reply.givesAll_iff address).1 gives]
      exact .inr rfl

/-- What is typed of some words, and what is said behind it. -/
structure Entered (submit : String) (words : List (Element × String))
    (typing rest : List Exchange) (o : Outcome Report String) : Prop where
  in_order : ∃ k ≤ words.length, s.browser.Types (words.take k) typing
  /-- Behind a word that was not taken no other one is typed. -/
  taken : ∀ x ∈ typing.dropLast, x.2.Accepts
  /-- Nothing is said behind the words until all of them have been taken. -/
  whole : rest ≠ [] → typing.length = words.length ∧ ∀ x ∈ typing, x.2.Accepts
  submits : ∀ x, rest.head? = some x → s.browser.Seeks submit x.1
  submitted : ∀ address, o = .done address → rest ≠ []

/-- An import asks for the inputs of the words behind its way to them, and enters the words if there
are enough. -/
structure EntersWords (sel : WalletSelectors) (m : Mnemonic)
    (opening listing typing rest : List Exchange) (o : Outcome Report String) : Prop where
  silent : ∀ x ∈ opening ++ listing, x.1.keys? = none
  about : AboutOnly [sel.registerImport, sel.registerRecoveryPhrase, sel.mnemonicWords]
    (opening ++ listing ++ typing)
  unlisted : (∀ x ∈ listing, ∀ inputs, ¬ x.2.GivesAll inputs) →
    typing = [] ∧ rest = [] ∧ ∀ address, o ≠ .done address
  listed : ∀ x ∈ listing, listing = [x] ∧ s.browser.SeeksAll sel.mnemonicWords x.1 ∧
    ∀ inputs, x.2.GivesAll inputs →
      if inputs.length < m.words.length then
        typing = [] ∧ rest = [] ∧ (o = .expired ∨ o = .failed [.note ("expected "
          ++ Text.Decimal.text m.words.length ++ " word inputs, found "
          ++ Text.Decimal.text inputs.length)])
      else s.Entered sel.mnemonicSubmit (inputs.zip m.words) typing rest o

variable {s} {sel : WalletSelectors} {m : Mnemonic} {o : Outcome Report String}

/-- What is performed from the inputs on enters the words. -/
lemma Entered.of_performed {words : List (Element × String)} {fields left : List Act}
    {said : List Exchange} (h : Performed s.browser (s.fromInputs sel words fields) left said)
    (finished : ∀ address, o = .done address → left = []) :
    ∃ typing rest, said = typing ++ rest ∧ AboutOnly [] typing ∧
      s.Entered sel.mnemonicSubmit words typing rest o := by
  obtain ⟨typing, rest, left', rfl, performed, behind, stopped⟩ := h.split
  obtain ⟨k, le, types, taken, all⟩ := performed.types
  -- typing into a given input looks for nothing
  have silent : (words.map fun w => Act.typeInto w.1 w.2).filterMap Act.selector? = [] := by
    rw [List.filterMap_map]
    exact List.filterMap_eq_nil_iff.2 fun _ _ => rfl
  have about := performed.aboutOnly
  rw [silent] at about
  refine ⟨typing, rest, rfl, about, ⟨k, le, types⟩, taken, ?_, ?_, ?_⟩
  · intro more
    by_cases none : left' = []
    · obtain ⟨rfl, each⟩ := all none
      rw [List.take_length] at types
      exact ⟨types.length_eq.symm, each⟩
    · exact absurd (stopped none).1 more
  · intro x first
    by_cases none : left' = []
    · exact (behind none).seeks_first first
    · rw [(stopped none).1] at first
      cases first
  · intro address done
    by_cases none : left' = []
    · have performed' := behind none
      rw [finished address done] at performed'
      exact performed'.ne_nil
    · exact absurd (finished address done) (stopped none).2

/-- On the way to the inputs nothing is looked for but what is on that way. -/
lemma about_of_performed {opening listing : List Exchange} {left : List Act}
    (way : Performed s.browser (s.toInputs sel) left opening)
    (seeks : ∀ x ∈ listing, s.browser.SeeksAll sel.mnemonicWords x.1) :
    AboutOnly [sel.registerImport, sel.registerRecoveryPhrase, sel.mnemonicWords]
      (opening ++ listing) := by
  have asked : AboutOnly [sel.mnemonicWords] listing := by
    intro x mem selector about
    rw [sought?_of_locator (seeks x mem)] at about
    cases about
    exact List.mem_singleton_self _
  have way : AboutOnly [sel.registerImport, sel.registerRecoveryPhrase, sel.mnemonicWords]
      opening := way.aboutOnly
  exact way.append (asked.mono (by simp))

/-- On the way to the inputs nothing is typed. -/
lemma silent_of_performed {opening listing : List Exchange} {left : List Act}
    (way : Performed s.browser (s.toInputs sel) left opening)
    (seeks : ∀ x ∈ listing, s.browser.SeeksAll sel.mnemonicWords x.1) :
    ∀ x ∈ opening ++ listing, x.1.keys? = none := by
  intro x mem
  rcases List.mem_append.1 mem with mem | mem
  · exact List.filterMap_eq_nil_iff.1 (List.prefix_nil.1 way.typed_prefix) x mem
  · exact keys?_of_locator (seeks x mem)

/-- An import that has got no inputs for the words types none of them. -/
lemma EntersWords.unpaired {opening listing : List Exchange} {left : List Act}
    {counted : Outcome Report (List (Element × String))} (made : m.Made)
    (way : Performed s.browser (s.toInputs sel) left opening)
    (asked : s.Counted sel.mnemonicWords m listing counted)
    (same : o = .expired ∨ ∃ e, o = .failed e ∧ counted = .failed e) :
    s.EntersWords sel m opening listing [] [] o := by
  have undone (address : String) : o ≠ .done address := by
    rcases same with rfl | ⟨e, rfl, _⟩ <;> simp
  have seeks : ∀ x ∈ listing, s.browser.SeeksAll sel.mnemonicWords x.1 := by
    cases asked with
    | unsent => simp
    | asked seeks => simpa using seeks
  refine ⟨silent_of_performed way seeks, ?_, fun _ => ⟨rfl, rfl, undone⟩, ?_⟩
  · rw [List.append_nil]
    exact about_of_performed way seeks
  · intro x mem
    refine ⟨?_, seeks x mem, ?_⟩
    · cases asked with
      | unsent => cases mem
      | asked => rw [List.mem_singleton.1 mem]
    · intro inputs gives
      -- with too few inputs the import fails of that, unless it has been late before
      split
      · next few =>
        refine ⟨rfl, rfl, ?_⟩
        rcases same with late | ⟨e, rfl, rfl⟩
        · exact .inl late
        · cases asked with
          | unsent => cases mem
          | asked _ _ given =>
            obtain rfl := List.mem_singleton.1 mem
            have refused := (given inputs gives).resolve_left (by simp)
            rw [paired_of_few made few] at refused
            cases refused
            exact .inr rfl
      · exact ⟨⟨0, by simp, .nil⟩, by simp, by simp, by simp, fun a done => absurd done (undone a)⟩

/-- An import that has got pairs of words and inputs enters the words. -/
lemma EntersWords.paired {opening listing typing rest : List Exchange} {left : List Act}
    {words : List (Element × String)} (made : m.Made)
    (way : Performed s.browser (s.toInputs sel) left opening)
    (asked : s.Counted sel.mnemonicWords m listing (.done words)) (about : AboutOnly [] typing)
    (entered : s.Entered sel.mnemonicSubmit words typing rest o) :
    s.EntersWords sel m opening listing typing rest o := by
  cases asked with
  | unsent undone => exact absurd rfl (undone words)
  | @asked q r _ seeks unlisted given =>
    have seeks : ∀ x ∈ [(q, r)], s.browser.SeeksAll sel.mnemonicWords x.1 := by simpa using seeks
    refine ⟨silent_of_performed way seeks, ?_, ?_, ?_⟩
    · exact (about_of_performed way seeks).append (about.mono (List.nil_subset _))
    · intro none
      exact absurd rfl (unlisted (none (q, r) (List.mem_singleton_self _)) words)
    · intro x mem
      obtain rfl := List.mem_singleton.1 mem
      refine ⟨rfl, seeks _ mem, fun inputs gives => ?_⟩
      have pairs := (given inputs gives).resolve_left (by simp)
      split
      · next few =>
        rw [paired_of_few made few] at pairs
        cases pairs
      · next enough =>
        rw [paired_of_enough made (Nat.not_lt.1 enough)] at pairs
        cases pairs
        exact entered

/-- An import in a session enters the words of a phrase. -/
lemma says_entersWords {d : WalletExtension} (present : d.session = some s) (made : m.Made) :
    (d.importing m).Says fun said o => ∃ opening listing typing rest,
      said = opening ++ listing ++ typing ++ rest ∧
      s.EntersWords d.settings.selectors m opening listing typing rest o := by
  rw [d.importing_eq present]
  refine (d.performs_reaching s).bind fun opening reached way => ?_
  obtain ⟨left, performed, whole⟩ := way
  cases reached with
  | failed e =>
    have unsent : s.Counted d.settings.selectors.mnemonicWords m [] (.failed e) :=
      .unsent (by simp)
    exact ⟨opening, [], [], [], by simp, .unpaired made performed unsent (.inr ⟨e, rfl, rfl⟩)⟩
  | expired =>
    have unsent : s.Counted d.settings.selectors.mnemonicWords m [] .expired := .unsent (by simp)
    exact ⟨opening, [], [], [], by simp, .unpaired made performed unsent (.inl rfl)⟩
  | done _ =>
    refine (s.says_counted _ m).bind fun listing counted asked => ?_
    cases counted with
    | failed e =>
      exact ⟨opening, listing, [], [], by simp,
        .unpaired made performed asked (.inr ⟨e, rfl, rfl⟩)⟩
    | expired =>
      exact ⟨opening, listing, [], [], by simp, .unpaired made performed asked (.inl rfl)⟩
    | done words =>
      refine (d.performs_entering s words).mono ?_
      rintro said o ⟨left', performed', whole'⟩
      have finished (address : String) (done : o = .done address) : left' = [] := by
        rw [done] at whole'
        exact whole' rfl
      obtain ⟨typing, rest, rfl, about, entered⟩ := Entered.of_performed performed' finished
      exact ⟨opening, listing, typing, rest, by simp, .paired made performed asked about entered⟩

end ExtensionSession

namespace WalletExtension

open ExtensionSession

/-- An import types the words of a phrase in order, each in its own input of those that were listed
for the words, and looks for what submits them only behind all of them; with too few inputs it types
none. -/
theorem types_words_in_order (d : WalletExtension) (m : Mnemonic) (limit : Option Nat) :
    let said := d.network.conversation (importAccount m limit d).2.network
    let ended := (importAccount m limit d).1
    (d.session = none → said = [] ∧ ended = .failed [.note "extension is not installed"]) ∧
    ∀ s, d.session = some s → m.Made → ∃ opening listing typing rest,
      said = opening ++ listing ++ typing ++ rest ∧
      s.EntersWords d.settings.selectors m opening listing typing rest ended := by
  refine ⟨fun absent => ?_, fun s present made => ?_⟩
  · rw [d.importAccount_of_none absent]
    exact ⟨(Network.Carries.refl _).conversation, rfl⟩
  · obtain ⟨said, carried, entered⟩ :=
      says_entersWords present made (limit.map (d.network.now + ·)) d.network
    rw [importAccount, work_apply, carried.conversation]
    exact entered

end WalletExtension

end SeedVault
