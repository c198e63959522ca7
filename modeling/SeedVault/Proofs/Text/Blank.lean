import Mathlib.Data.List.DropRight
import SeedVault.Proofs.Text.Split

/-!
# Blanks around a text

A text is its trimmed form with blanks on both sides (`exists_pad`), and a text without blanks at
its ends is what trimming makes of it with blanks on both sides (`trim_pad`). Blanks at the ends of
a text change neither its trimmed form (`trim_append_blanks`) nor its words (`words_pad`,
`words_trim`), and blanks between two texts part their words (`words_append`).
-/

namespace SeedVault.Text

/-- A text that holds nothing but blanks. -/
def AllBlank (cs : List Char) : Prop := ∀ c ∈ cs, isBlank c = true

/-- A text that neither starts nor ends with a blank. -/
def Bare (cs : List Char) : Prop :=
  (∀ c ∈ cs.head?, isBlank c = false) ∧ ∀ c ∈ cs.getLast?, isBlank c = false

/-- Trimming drops blanks at both ends. -/
lemma trim_eq (cs) : trim cs = (cs.dropWhile isBlank).rdropWhile isBlank := rfl

/-- Only blanks are trimmed. -/
lemma exists_pad (cs) :
    ∃ before after, AllBlank before ∧ AllBlank after ∧ cs = before ++ trim cs ++ after := by
  have front : cs.takeWhile isBlank ++ cs.dropWhile isBlank = cs :=
    List.takeWhile_append_dropWhile
  have back : trim cs ++ (cs.dropWhile isBlank).rtakeWhile isBlank = cs.dropWhile isBlank :=
    List.rdropWhile_append_rtakeWhile
  refine ⟨cs.takeWhile isBlank, (cs.dropWhile isBlank).rtakeWhile isBlank, ?_, ?_, ?_⟩
  · exact fun c mem => List.mem_takeWhile_imp mem
  · exact fun c mem => List.mem_rtakeWhile_imp mem
  · rw [List.append_assoc, back, front]

/-- Blanks behind a text do not matter when its end is trimmed. -/
lemma rdropWhile_append_blanks {cs after} (blank : AllBlank after) :
    (cs ++ after).rdropWhile isBlank = cs.rdropWhile isBlank := by
  have blank' : ∀ c ∈ after.reverse, isBlank c = true := fun c mem =>
    blank c (List.mem_reverse.1 mem)
  rw [List.rdropWhile, List.reverse_append, List.dropWhile_append_of_pos blank', List.rdropWhile]

/-- Blanks at the ends of a text do not matter when it is trimmed. -/
lemma trim_append_blanks {before after} (hb : AllBlank before) (ha : AllBlank after) (cs) :
    trim (before ++ cs ++ after) = trim cs := by
  rw [trim_eq, trim_eq, List.append_assoc, List.dropWhile_append_of_pos hb]
  induction cs with
  | nil =>
    rw [List.nil_append, List.dropWhile_eq_nil_iff.2 ha]
    rfl
  | cons c cs ih =>
    by_cases blank : isBlank c = true
    · rw [List.cons_append, List.dropWhile_cons_of_pos blank, List.dropWhile_cons_of_pos blank]
      exact ih
    · rw [List.cons_append, List.dropWhile_cons_of_neg blank, List.dropWhile_cons_of_neg blank,
        ← List.cons_append]
      exact rdropWhile_append_blanks ha

/-- Blanks around a text that has none at its ends are trimmed. -/
lemma trim_pad {before after cs} (hb : AllBlank before) (ha : AllBlank after) (bare : Bare cs) :
    trim (before ++ cs ++ after) = cs := by
  obtain ⟨head, last⟩ := bare
  rw [trim_append_blanks hb ha, trim_eq]
  cases cs with
  | nil => rfl
  | cons c cs =>
    have visible : ¬isBlank c = true := Bool.eq_false_iff.1 (head c rfl)
    rw [List.dropWhile_cons_of_neg visible, List.rdropWhile_eq_self_iff]
    intro ne
    exact Bool.eq_false_iff.1 (last _ (List.getLast?_eq_some_getLast ne))

/-- A blank parts the words on its sides. -/
lemma words_append_cons {sep} (cs ds) (blank : isBlank sep = true) :
    words (cs ++ sep :: ds) = words cs ++ words ds := by
  rw [words, splitBy_append cs ds blank, List.filter_append]
  rfl

/-- Blanks in front of a text are parts of no word. -/
lemma words_blanks_append {before} (blank : AllBlank before) (cs) :
    words (before ++ cs) = words cs := by
  induction before with
  | nil => rfl
  | cons c before ih =>
    obtain ⟨first, rest⟩ := List.forall_mem_cons.1 blank
    exact (words_append_cons [] (before ++ cs) first).trans (ih rest)

/-- Blanks part the words on their sides. -/
lemma words_append {gap} (blank : AllBlank gap) (ne : gap ≠ []) (cs ds) :
    words (cs ++ gap ++ ds) = words cs ++ words ds := by
  obtain ⟨sep, gap, rfl⟩ := List.exists_cons_of_ne_nil ne
  obtain ⟨first, rest⟩ := List.forall_mem_cons.1 blank
  rw [List.append_assoc, List.cons_append, words_append_cons _ _ first, words_blanks_append rest]

/-- Blanks at the ends of a text are parts of no word. -/
lemma words_pad {before after} (hb : AllBlank before) (ha : AllBlank after) (cs) :
    words (before ++ cs ++ after) = words cs := by
  rw [List.append_assoc, words_blanks_append hb]
  by_cases empty : after = []
  · rw [empty, List.append_nil]
  · have parted := words_append ha empty cs []
    rw [List.append_nil] at parted
    rw [parted]
    exact List.append_nil _

/-- A text and its trimmed form have the same words. -/
lemma words_trim (cs) : words (trim cs) = words cs := by
  obtain ⟨before, after, hb, ha, pad⟩ := exists_pad cs
  rw [← words_pad hb ha, ← pad]

/-- A text without blanks is one word. -/
lemma words_of_clear {w} (ne : w ≠ []) (clear : ∀ c ∈ w, isBlank c = false) : words w = [w] := by
  rw [words, splitBy_of_clear clear, List.filter_singleton, decide_eq_true ne]
  rfl

end SeedVault.Text
