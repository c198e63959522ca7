import Mathlib.Data.List.Chain
import Mathlib.Data.List.Nodup
import SeedVault.Phrase.WordList
import SeedVault.Proofs.Text.Letters

/-!
# The word list and its numbers

The list holds 2048 words of small letters in strictly ascending order, so a word and its number
determine each other (`wordNumber?_eq_some_iff`, `wordNumber?_wordWithNumber`).
-/

namespace SeedVault.Phrase
open Text

/-- These are 2048 words of small letters in strictly ascending order. -/
def IsWordTable (css : List (List Char)) : Prop :=
  css.length = 2048 ∧ css.IsChain (· < ·) ∧ ∀ cs ∈ css, cs ≠ [] ∧ cs.all (IsLetter ·) = true

/-- Whether texts are a table of words is found by looking at each. -/
instance (css : List (List Char)) : Decidable (IsWordTable css) :=
  inferInstanceAs (Decidable (_ ∧ _))

set_option maxRecDepth 100000 in
/-- The list is spelled by characters that are a table of words. -/
lemma wordList_spelled : ∃ css, Spells wordList css ∧ IsWordTable css := by
  apply Exists.intro
  apply And.intro
  · repeat' constructor
  · decide +kernel

/-- The list has 2048 words. -/
lemma length_wordList : wordList.length = 2048 := by
  obtain ⟨css, spells, count, _⟩ := wordList_spelled
  rw [spells.eq_map, List.length_map, count]

/-- No word is in the list twice. -/
lemma nodup_wordList : wordList.Nodup := by
  obtain ⟨css, spells, _, ascending, _⟩ := wordList_spelled
  have distinct : css.Nodup := by
    refine (List.isChain_iff_pairwise.1 ascending).imp ?_
    rintro cs _ lt rfl
    exact List.lt_irrefl cs lt
  rw [spells.eq_map]
  exact distinct.map fun _ _ => String.ofList_inj.1

/-- A word of the list consists of small letters. -/
lemma letters_of_mem {w} (mem : w ∈ wordList) : w.toList ≠ [] ∧ ∀ c ∈ w.toList, IsLetter c := by
  obtain ⟨css, spells, _, _, letters⟩ := wordList_spelled
  rw [spells.eq_map] at mem
  obtain ⟨cs, hcs, rfl⟩ := List.mem_map.1 mem
  obtain ⟨ne, all⟩ := letters cs hcs
  rw [String.toList_ofList]
  exact ⟨ne, fun c hc => of_decide_eq_true (List.all_eq_true.1 all c hc)⟩

/-- A word has no number if it is not in the list. -/
lemma wordNumber?_eq_none_iff {w} : wordNumber? w = none ↔ w ∉ wordList :=
  List.idxOf?_eq_none_iff

/-- The number of a word is its place. -/
lemma wordNumber?_eq_some_iff {w n} : wordNumber? w = some n ↔ wordList[n]? = some w := by
  rw [wordNumber?, List.idxOf?_eq_some_iff, List.getElem?_eq_some_iff]
  constructor
  · rintro ⟨lt, e, _⟩
    exact ⟨lt, e⟩
  · rintro ⟨lt, e⟩
    refine ⟨lt, e, fun j before same => ?_⟩
    have := (nodup_wordList.getElem_inj_iff).1 (same.trans e.symm)
    omega

/-- The word with a number has that number. -/
lemma wordNumber?_wordWithNumber {n} (lt : n < 2048) :
    wordNumber? (wordWithNumber n) = some n := by
  rw [← length_wordList] at lt
  rw [wordNumber?_eq_some_iff, wordWithNumber, List.getD_eq_getElem?_getD,
    List.getElem?_eq_getElem lt]
  rfl

/-- A word with a number is the word with that number. -/
lemma wordWithNumber_of_wordNumber? {w n} (h : wordNumber? w = some n) :
    n < 2048 ∧ wordWithNumber n = w := by
  rw [wordNumber?_eq_some_iff] at h
  obtain ⟨lt, _⟩ := List.getElem?_eq_some_iff.1 h
  rw [length_wordList] at lt
  refine ⟨lt, ?_⟩
  rw [wordWithNumber, List.getD_eq_getElem?_getD, h]
  rfl

/-- Numbered words are words of the list. -/
lemma wordWithNumber_mem {n} (lt : n < 2048) : wordWithNumber n ∈ wordList := by
  by_contra absent
  rw [← wordNumber?_eq_none_iff, wordNumber?_wordWithNumber lt] at absent
  cases absent

end SeedVault.Phrase
