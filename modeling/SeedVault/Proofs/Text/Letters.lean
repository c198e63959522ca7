import Mathlib.Tactic.Common
import SeedVault.Text.Lowercase

/-!
# ASCII letters

The letters from a to z in either case are no blanks (`isBlank_of_toLower`), the lower case of ASCII
text is that of its letters (`lowercase_ascii`), and the small letters are their own
(`lowercase_letters`). What holds of all entries of a table is decided on their characters, which
`Spells` makes explicit: the characters of a text are slow to compute from the text itself.
-/

namespace SeedVault.Text

/-- `css` are the characters of the texts `ss`. -/
inductive Spells : List String → List (List Char) → Prop
  | nil : Spells [] []
  | cons {cs ss css} : Spells ss css → Spells (String.ofList cs :: ss) (cs :: css)

/-- The texts are known from their characters. -/
lemma Spells.eq_map {ss css} (h : Spells ss css) : ss = css.map String.ofList := by
  induction h with
  | nil => rfl
  | cons _ ih => rw [ih]; rfl

/-- A letter from a to z. -/
def IsLetter (c : Char) : Prop := 97 ≤ c.toNat ∧ c.toNat ≤ 122

/-- Both bounds can be decided. -/
instance (c : Char) : Decidable (IsLetter c) := inferInstanceAs (Decidable (_ ∧ _))

/-- A letter in lower case stays. -/
lemma toLower_letter {c : Char} (h : IsLetter c) : c.toLower = c := by
  apply dif_neg
  rintro ⟨_, hi⟩
  have small : c.toNat ≤ 90 := hi
  have := h.1
  omega

/-- What has a small letter is one, or a capital one. -/
lemma range_of_toLower {c : Char} (h : IsLetter c.toLower) : 65 ≤ c.toNat ∧ c.toNat ≤ 122 := by
  by_cases capital : c.val ≥ 'A'.val ∧ c.val ≤ 'Z'.val
  · have lo : 65 ≤ c.toNat := capital.1
    have hi : c.toNat ≤ 90 := capital.2
    exact ⟨lo, by omega⟩
  · have same : c.toLower = c := dif_neg capital
    rw [same] at h
    have := h.1
    exact ⟨by omega, h.2⟩

/-- What is a letter in lower case is no blank. -/
lemma isBlank_of_toLower {c : Char} (h : IsLetter c.toLower) : isBlank c = false := by
  have table : ∀ n ∈ List.range' 65 58, inRanges blankRanges n = false := by decide
  obtain ⟨lo, hi⟩ := range_of_toLower h
  exact table c.toNat (List.mem_range'_1.2 ⟨lo, by omega⟩)

/-- A letter is no blank. -/
lemma isBlank_letter {c} (h : IsLetter c) : isBlank c = false := by
  apply isBlank_of_toLower
  rwa [toLower_letter h]

/-- The search tree of a table, read off the characters of its lines. -/
def spelledTree (css : List (List Char)) : CodeTree (List Nat) :=
  CodeTree.ofSorted ((css.foldl (fun r cs => cs.foldl TableReader.step r)
    ({} : TableReader)).entries.reverse.filterMap keyed?)

/-- The tree of a table can be made of its characters. -/
lemma tableTree_spells {lines css} (h : Spells lines css) : tableTree lines = spelledTree css := by
  rw [h.eq_map, tableTree, tableEntries, List.foldl_map]
  simp only [String.toList_ofList]
  rfl

set_option maxRecDepth 100000 in
/-- Of the ASCII characters the runs of upper-case letters meet the capital letters only. -/
lemma lowerCode_ascii {c : Char} (ascii : c.toNat < 128) :
    Char.ofNat (lowerCode upperRuns c.toNat) = c.toLower := by
  have table : ∃ css, Spells upperTable css ∧
      ∀ n ∈ List.range 128,
        Char.ofNat (lowerCode (spelledTree css) n) = (Char.ofNat n).toLower := by
    apply Exists.intro
    apply And.intro
    · repeat' constructor
    · decide +kernel
  obtain ⟨css, spells, mapped⟩ := table
  have entry := mapped c.toNat (List.mem_range.2 ascii)
  rwa [← tableTree_spells spells, ← upperRuns, Char.ofNat_toNat] at entry

/-- In ASCII each character has its lower case alone, whatever is before it. -/
lemma lowercaseAfter_ascii {before cs} (ascii : ∀ c ∈ cs, c.toNat < 128) :
    lowercaseAfter before cs = cs.map Char.toLower := by
  induction cs generalizing before with
  | nil => rfl
  | cons c cs ih =>
    obtain ⟨small, ascii⟩ := List.forall_mem_cons.1 ascii
    rw [lowercaseAfter, ih ascii, if_neg (by omega), if_neg (by omega), lowerCode_ascii small]
    rfl

/-- The lower case of ASCII text is that of its letters. -/
lemma lowercase_ascii {cs} (ascii : ∀ c ∈ cs, c.toNat < 128) :
    lowercase cs = cs.map Char.toLower :=
  lowercaseAfter_ascii ascii

/-- Letters from a to z are their own lower case. -/
lemma lowercase_letters {cs} (letters : ∀ c ∈ cs, IsLetter c) : lowercase cs = cs := by
  have ascii : ∀ c ∈ cs, c.toNat < 128 := by
    intro c mem
    have := (letters c mem).2
    omega
  rw [lowercase_ascii ascii]
  exact (List.map_congr_left fun c mem => toLower_letter (letters c mem)).trans (List.map_id cs)

end SeedVault.Text
