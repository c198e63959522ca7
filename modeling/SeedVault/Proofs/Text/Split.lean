import Mathlib.Tactic.Common
import SeedVault.Text.Blank

/-!
# Cutting what was joined

Joining the parts of a text gives the text (`joinWith_splitAtChar`). Parts that hold no separator
are read back from their join (`splitBy_joinWith`), and so are the words of a text with one blank
between neighbours (`words_joinWith`). Joining with a separator that stands in no part therefore
loses nothing (`joinWith_inj`).
-/

namespace SeedVault.Text

/-- A text is parted as the library parts a list. -/
lemma splitBy_eq_splitOnP (p cs) : splitBy p cs = List.splitOnP p cs := by
  induction cs with
  | nil => rfl
  | cons c cs ih =>
    rw [splitBy, ih, List.splitOnP_cons_eq_if_modifyHead]
    split
    case isTrue => rfl
    case isFalse =>
      split
      case h_1 e => exact absurd e (List.splitOnP_ne_nil p cs)
      case h_2 w ws e => rw [e]; rfl

/-- Parts are joined as the library joins lists. -/
lemma joinWith_eq_intercalate (sep ws) : joinWith sep ws = sep.intercalate ws := by
  fun_induction joinWith sep ws with
  | case1 => rfl
  | case2 => rw [List.intercalate_singleton]
  | case3 w ws ne ih => rw [ih, List.intercalate_cons_of_ne_nil ne]

/-- Joining the parts between the occurrences of a character gives the text. -/
lemma joinWith_splitAtChar (sep cs) : joinWith [sep] (splitAtChar sep cs) = cs := by
  rw [joinWith_eq_intercalate, splitAtChar, splitBy_eq_splitOnP]
  exact List.intercalate_splitOn sep

/-- A text without separators is one part. -/
lemma splitBy_of_clear {p cs} (clear : ∀ c ∈ cs, p c = false) : splitBy p cs = [cs] := by
  rw [splitBy_eq_splitOnP, List.splitOnP_eq_singleton clear]

/-- A separator ends the first part. -/
lemma splitBy_append_cons {p w sep} (cs) (clear : ∀ c ∈ w, p c = false) (hs : p sep = true) :
    splitBy p (w ++ sep :: cs) = w :: splitBy p cs := by
  rw [splitBy_eq_splitOnP, splitBy_eq_splitOnP,
    List.splitOnP_append_cons_of_forall_mem clear sep hs]

/-- Parts that hold no separator are read back from their join. -/
lemma splitBy_joinWith {p sep ws} (ne : ws ≠ []) (hs : p sep = true)
    (clear : ∀ w ∈ ws, ∀ c ∈ w, p c = false) : splitBy p (joinWith [sep] ws) = ws := by
  fun_induction joinWith [sep] ws with
  | case1 => exact absurd rfl ne
  | case2 w => exact splitBy_of_clear (clear w List.mem_cons_self)
  | case3 w ws more ih =>
    obtain ⟨first, rest⟩ := List.forall_mem_cons.1 clear
    rw [List.append_assoc, List.singleton_append, splitBy_append_cons _ first hs,
      ih more rest]

/-- No part holds a separator. -/
lemma clear_of_mem_splitBy {p cs w} (mem : w ∈ splitBy p cs) : ∀ c ∈ w, p c = false := by
  induction cs generalizing w with
  | nil =>
    rw [List.mem_singleton.1 mem]
    exact List.forall_mem_nil _
  | cons c cs ih =>
    rw [splitBy] at mem
    split at mem
    case isTrue =>
      cases mem with
      | head => exact List.forall_mem_nil _
      | tail _ mem => exact ih mem
    case isFalse clear =>
      split at mem
      case h_1 e => exact absurd e (splitBy_ne_nil p cs)
      case h_2 v vs e =>
        cases mem with
        | head =>
          refine List.forall_mem_cons.2 ⟨Bool.eq_false_iff.2 clear, ih ?_⟩
          rw [e]
          exact List.mem_cons_self
        | tail _ mem =>
          refine ih ?_
          rw [e]
          exact List.mem_cons_of_mem v mem

/-- A separator between two texts separates their parts. -/
lemma splitBy_append {p sep} (w cs) (hs : p sep = true) :
    splitBy p (w ++ sep :: cs) = splitBy p w ++ splitBy p cs := by
  rw [splitBy_eq_splitOnP, splitBy_eq_splitOnP, splitBy_eq_splitOnP,
    List.splitOnP_append_cons w cs hs]

/-- Nonempty parts that hold no separator are the nonempty parts of their join. -/
lemma filter_splitBy_joinWith {p : Char → Bool} {sep ws} (hs : p sep = true)
    (parts : ∀ w ∈ ws, w ≠ [] ∧ ∀ c ∈ w, p c = false) :
    (splitBy p (joinWith [sep] ws)).filter (· ≠ []) = ws := by
  by_cases empty : ws = []
  · rw [empty]
    rfl
  · rw [splitBy_joinWith empty hs fun w mem => (parts w mem).2, List.filter_eq_self]
    intro w mem
    exact decide_eq_true (parts w mem).1

/-- Joining nonempty parts that hold no separator loses nothing. -/
lemma joinWith_inj {p : Char → Bool} {sep ws vs} (hs : p sep = true)
    (hws : ∀ w ∈ ws, w ≠ [] ∧ ∀ c ∈ w, p c = false)
    (hvs : ∀ v ∈ vs, v ≠ [] ∧ ∀ c ∈ v, p c = false) :
    joinWith [sep] ws = joinWith [sep] vs ↔ ws = vs := by
  constructor
  · intro e
    rw [← filter_splitBy_joinWith hs hws, e, filter_splitBy_joinWith hs hvs]
  · rintro rfl
    rfl

/-- Words with one blank between neighbours are read back. -/
lemma words_joinWith {ws} (hws : ∀ w ∈ ws, w ≠ [] ∧ ∀ c ∈ w, isBlank c = false) :
    words (joinWith [' '] ws) = ws :=
  filter_splitBy_joinWith (by decide) hws

end SeedVault.Text
