import Mathlib.Tactic.Common
import SeedVault.Json.Reader
import SeedVault.Json.Writer

/-!
# Texts in JSON

A text that is written as a JSON value is read back (`parse_quote`), since each character is read
back from its escape (`readStringFrom_escape`).
-/

namespace SeedVault.Json

/-- A digit is read back from its character. -/
lemma hexDigit?_digitChar {d} (lt : d < 16) : hexDigit? d.digitChar = some d := by
  revert d
  decide

/-- A control character is read from its two hexadecimal digits behind two zeros. -/
lemma readUnicode_control {n} (lt : n < 32) (rest) :
    readUnicode ('0' :: '0' :: (n / 16).digitChar :: (n % 16).digitChar :: rest) =
      .ok (Char.ofNat n, rest) := by
  have zero : hexDigit? '0' = some 0 := by decide
  have value : ((0 * 16 + 0) * 16 + n / 16) * 16 + n % 16 = n := by omega
  have unit : readUnit ('0' :: '0' :: (n / 16).digitChar :: (n % 16).digitChar :: rest) =
      .ok (n, rest) := by
    rw [readUnit]
    simp only [zero, hexDigit?_digitChar (show n / 16 < 16 by omega),
      hexDigit?_digitChar (show n % 16 < 16 by omega), value]
  have low : ¬(0xdc00 ≤ n ∧ n < 0xe000) := by omega
  have high : ¬(0xd800 ≤ n ∧ n < 0xdc00) := by omega
  simp only [readUnicode, unit, bind, Except.bind, if_neg low, if_neg high]
  rfl

/-- A character is read back from its escape. -/
lemma readStringFrom_escape (fuel sofar c rest) :
    readStringFrom (fuel + 1) sofar (escape c ++ rest) = readStringFrom fuel (c :: sofar) rest := by
  fun_cases escape c with
  | case1 => rfl
  | case2 => rfl
  | case3 => rfl
  | case4 => rfl
  | case5 => rfl
  | case6 => rfl
  | case7 => rfl
  | case8 c lt =>
    have digits : Nat.toDigits 16 c.toNat = [(c.toNat % 16).digitChar] := by
      rw [Nat.toDigits_of_lt_base lt, Nat.mod_eq_of_lt lt]
    have front : (c.toNat / 16).digitChar = '0' := by
      rw [Nat.div_eq_of_lt lt]
      rfl
    have unit := readUnicode_control (show c.toNat < 32 by omega) rest
    rw [front, Char.ofNat_toNat] at unit
    rw [if_pos lt, digits]
    simp only [List.cons_append, List.nil_append, readStringFrom, unit, bind, Except.bind]
  | case9 c ge lt =>
    have digits : Nat.toDigits 16 c.toNat =
        [(c.toNat / 16).digitChar, (c.toNat % 16).digitChar] := by
      rw [Nat.toDigits_of_base_le (by decide) (Nat.le_of_not_lt ge),
        Nat.toDigits_of_lt_base (by omega)]
      rfl
    have unit := readUnicode_control lt rest
    rw [Char.ofNat_toNat] at unit
    rw [if_neg ge, if_pos lt, digits]
    simp only [List.cons_append, List.nil_append, readStringFrom, unit, bind, Except.bind]
  | case10 c short control quote backslash =>
    rw [if_neg short, if_neg control, List.singleton_append, readStringFrom, if_neg control]
    · exact quote
    · exact fun _ e => (backslash e).elim
    · exact fun e => (backslash e).elim
    · exact fun _ _ e => (backslash e).elim

/-- A text is read back from its escapes up to the closing quote. -/
lemma readStringFrom_escapes {fuel sofar cs} (rest) (enough : cs.length < fuel) :
    readStringFrom fuel sofar (cs.flatMap escape ++ '"' :: rest) =
      .ok (String.ofList (sofar.reverse ++ cs), rest) := by
  induction cs generalizing fuel sofar with
  | nil =>
    obtain ⟨fuel, rfl⟩ := Nat.exists_eq_add_of_lt enough
    rw [List.flatMap_nil, List.nil_append, readStringFrom, List.append_nil]
  | cons c cs ih =>
    obtain ⟨fuel, rfl⟩ := Nat.exists_eq_add_of_lt enough
    rw [List.flatMap_cons, List.append_assoc, readStringFrom_escape, ih (by simp; omega),
      List.reverse_cons, List.append_assoc, List.singleton_append]

/-- No character is left out. -/
lemma escape_ne_nil (c) : escape c ≠ [] := by
  unfold escape
  split
  case h_8 => split_ifs <;> exact List.cons_ne_nil _ _
  all_goals exact List.cons_ne_nil _ _

/-- A quoted text is no shorter than the text. -/
lemma length_le_flatMap_escape (cs : List Char) : cs.length ≤ (cs.flatMap escape).length := by
  induction cs with
  | nil => exact Nat.le_refl 0
  | cons c cs ih =>
    have pos : 0 < (escape c).length := List.length_pos_iff.2 (escape_ne_nil c)
    rw [List.flatMap_cons, List.length_append, List.length_cons]
    omega

/-- A text that is written as a value is read back. -/
lemma parse_quote (s) : parse (quote s) = .ok (.string s) := by
  have enough : s.toList.length < (s.toList.flatMap escape ++ ['"']).length + 1 := by
    have := length_le_flatMap_escape s.toList
    rw [List.length_append]
    omega
  have text : readString (s.toList.flatMap escape ++ ['"']) = .ok (s, []) := by
    rw [readString, readStringFrom_escapes [] enough, List.reverse_nil, List.nil_append,
      String.ofList_toList]
  have visible (cs) : skipBlanks ('"' :: cs) = '"' :: cs := rfl
  have value : readValue (quote s).toList = .ok (.string s, []) := by
    rw [quote, String.toList_ofList, readValue, readValueFrom, visible]
    simp only [text, bind, Except.bind]
    rfl
  rw [parse]
  simp only [value, bind, Except.bind]
  rfl

end SeedVault.Json
