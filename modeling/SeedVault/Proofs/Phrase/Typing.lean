import SeedVault.Proofs.Phrase.Mnemonic
import SeedVault.Proofs.Session.Steps
import SeedVault.Proofs.Storage.Lawful
import SeedVault.Proofs.Text.Blank

/-!
# Phrases as they are typed

Words are typed with each letter in either case and with any blanks between them and around them
(`TypedAs`). Such a text means the words (`typedWords_of_typedAs`), so it means the phrase whose
words they are. Of whatever is typed for a phrase, the normal spelling means the same phrase, and so
does the text itself when it has been kept (`reads_typed_spellings`).
-/

namespace SeedVault.Mnemonic
open Phrase Text

/-- The characters are those of a word with each letter in either case. -/
def Recased (w : String) (cs : List Char) : Prop := cs.map Char.toLower = w.toList

/-- A text with some words in it: each letter in either case, blanks between neighbours, and perhaps
blanks in front and behind. -/
inductive TypedAs : List String → List Char → Prop
  | last {w cs after} :
    Recased w cs →
    AllBlank after →
    TypedAs [w] (cs ++ after)
  | more {w ws cs gap rest} :
    Recased w cs →
    AllBlank gap →
    gap ≠ [] →
    TypedAs ws rest →
    TypedAs (w :: ws) (cs ++ gap ++ rest)
  | indented {ws before text} :
    AllBlank before →
    TypedAs ws text →
    TypedAs ws (before ++ text)

/-- A word typed several times in the same way, in front of a text with another word. -/
lemma TypedAs.repeated {w last : String} {cs gap text : List Char} (cased : Recased w cs)
    (blank : AllBlank gap) (ne : gap ≠ []) (typed : TypedAs [last] text) (n : Nat) :
    TypedAs (List.replicate n w ++ [last]) ((List.replicate n (cs ++ gap)).flatten ++ text) := by
  induction n with
  | zero => exact typed
  | succ n ih =>
    rw [List.replicate_succ, List.replicate_succ, List.flatten_cons, List.append_assoc]
    exact .more cased blank ne ih

section Words

variable {w : String} {cs : List Char}

/-- The letters of a word of the list, in either case, have that word as their lower case. -/
lemma Recased.lowercase_eq (h : Recased w cs) (listed : w ∈ wordList) :
    String.ofList (lowercase cs) = w := by
  have ascii : ∀ c ∈ cs, c.toNat < 128 := by
    intro c mem
    have letter := (letters_of_mem listed).2 c.toLower (h ▸ List.mem_map_of_mem mem)
    have := (range_of_toLower letter).2
    omega
  rw [lowercase_ascii ascii, h, String.ofList_toList]

/-- The letters of a word of the list are one word in either case. -/
lemma Recased.words_eq (h : Recased w cs) (listed : w ∈ wordList) : Text.words cs = [cs] := by
  obtain ⟨ne, letters⟩ := letters_of_mem listed
  rw [← h] at ne letters
  apply words_of_clear
  · exact mt List.map_eq_nil_iff.2 ne
  · intro c mem
    exact isBlank_of_toLower (letters c.toLower (List.mem_map_of_mem mem))

end Words

/-- Words of the list are meant by a text they are typed in. -/
lemma typedWords_of_typedAs {ws : List String} {text : List Char} (typed : TypedAs ws text)
    (listed : ∀ w ∈ ws, w ∈ wordList) :
    (Text.words text).map (fun cs => String.ofList (lowercase cs)) = ws := by
  induction typed with
  | last cased blank =>
    have mem := listed _ (List.mem_singleton_self _)
    rw [← List.nil_append (_ ++ _), ← List.append_assoc,
      words_pad (List.forall_mem_nil _) blank, cased.words_eq mem, List.map_singleton,
      cased.lowercase_eq mem]
  | more cased blank ne _ ih =>
    obtain ⟨mem, listed⟩ := List.forall_mem_cons.1 listed
    rw [words_append blank ne, cased.words_eq mem, List.singleton_append, List.map_cons,
      cased.lowercase_eq mem, ih listed]
  | indented blank _ ih =>
    rw [words_blanks_append blank]
    exact ih listed

/-- A text in which the words of a phrase are typed means the phrase. -/
lemma Made.parse_typed {m : Mnemonic} (made : Made m) {text : String}
    (typed : TypedAs m.words text.toList) : Mnemonic.parse text = .ok m := by
  have faithful := made.faithful
  obtain ⟨c, sized⟩ := faithful.sized
  rw [faithful.words_eq] at typed
  have means : typedWords text = encode m.entropy :=
    typedWords_of_typedAs typed fun _ mem => mem_encode sized mem
  rw [Mnemonic.parse, means, ← faithful.words_eq]
  exact faithful.accepted.1

/-- A text that has been kept is loaded as the phrase it means whenever it can be read. -/
lemma load_keepText_iff {σ : Type} [LawfulStore σ] {s t : σ} {text : String} {m : Mnemonic}
    (parsed : parse text = .ok m) (kept : Secret.keepText text s = (.ok (), t)) :
    (Secret.load t).1 = some m ↔
      ∃ stored, (KeyValueStore.get Secret.storageKey t).1 = .ok stored := by
  have holds : (LawfulStore.texts t).value? Secret.storageKey = some text := by
    rw [LawfulStore.set_ok kept, MemoryStore.value?_update_self]
  cases got : KeyValueStore.get Secret.storageKey t with
  | mk stored t' =>
    have loaded : (Secret.load t).1 = Secret.phraseIn stored := by rw [Secret.load, got]
    rw [loaded, Session.phraseIn_eq_some_iff]
    constructor
    · rintro ⟨_, rfl, _⟩
      exact ⟨_, rfl⟩
    · rintro ⟨value?, rfl⟩
      rw [LawfulStore.get_ok got, holds]
      exact ⟨text, rfl, parsed⟩

/-- A phrase of whatever origin is read from every text in which its words are typed, with letters
in either case and any blanks between and around them. What any text means is read from its normal
spelling as well; and when that text, as it was typed, has been kept in a lawful store, the same
phrase is loaded, unless the store does not let it be read. -/
theorem reads_typed_spellings :
    (∀ m : Mnemonic, Made m → ∀ text : String, TypedAs m.words text.toList →
      parse text = .ok m) ∧
    ∀ (typed : String) (m : Mnemonic), parse typed = .ok m →
      parse m.phrase = .ok m ∧
      ∀ {σ : Type} [LawfulStore σ] (s t : σ), Secret.keepText typed s = (.ok (), t) →
        ((Secret.load t).1 = some m ↔
          ∃ stored, (KeyValueStore.get Secret.storageKey t).1 = .ok stored) := by
  constructor
  · intro m made text typed
    exact made.parse_typed typed
  · intro typed m parsed
    refine ⟨(Made.parse parsed).faithful.accepted.2, ?_⟩
    intro σ _ s t kept
    exact load_keepText_iff parsed kept

/-- A phrase in capitals, with tabs and wide blanks between its words, is read and loaded. -/
theorem shouted_phrase_is_read :
    let phrase : Mnemonic := ⟨join (List.replicate 11 "abandon" ++ ["about"]), List.replicate 16 0⟩
    let shouted := String.ofList
      (' ' :: (List.replicate 11 "ABANDON\t\u3000".toList).flatten ++ "About\n".toList)
    TypedAs phrase.words shouted.toList ∧ parse shouted = .ok phrase ∧
    (Secret.load (Secret.keepText shouted ({} : MemoryStore)).2).1 = some phrase := by
  intro phrase shouted
  have words : phrase.words = List.replicate 11 "abandon" ++ ["about"] := by decide +kernel
  have abandon : Recased "abandon" "ABANDON".toList := by unfold Recased; decide
  have about : Recased "about" "About".toList := by unfold Recased; decide
  have space : AllBlank [' '] := List.all_eq_true.1 (by decide)
  have newline : AllBlank ['\n'] := List.all_eq_true.1 (by decide)
  have gap : AllBlank ['\t', '\u3000'] := List.all_eq_true.1 (by decide)
  have typed : TypedAs phrase.words shouted.toList := by
    rw [words, String.toList_ofList]
    have text := TypedAs.indented space
      (.repeated abandon gap (List.cons_ne_nil _ _) (.last about newline) 11)
    exact text
  obtain ⟨reads_typed, reads_kept⟩ := reads_typed_spellings
  have read := reads_typed phrase made_zeros shouted typed
  obtain ⟨_, kept⟩ := reads_kept shouted phrase read
  exact ⟨typed, read, (kept {} _ rfl).2 ⟨_, rfl⟩⟩

end SeedVault.Mnemonic
