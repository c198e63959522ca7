import Mathlib.Tactic.Common
import SeedVault.Text.Decimal

/-!
# Decimal texts

A decimal text holds digits only (`digit_of_mem_write`) and determines its number (`write_inj`). It
is the representation to base ten (`write_eq_repr`), and a number within the limit is read back from
it (`read_write`).
-/

namespace SeedVault.Text.Decimal

/-- A digit from 0 to 9. -/
def IsDigit (c : Char) : Prop := 48 ≤ c.toNat ∧ c.toNat ≤ 57

/-- The number that digits stand for. -/
def value (cs : List Char) : Nat := cs.foldl (fun n c => 10 * n + (c.toNat - 48)) 0

/-- The digits follow the zero in their order. -/
lemma toNat_digit {n} (lt : n < 10) : (Char.ofNat (48 + n)).toNat = 48 + n := by
  revert n
  decide

/-- Numbers are written with digits only. -/
lemma digit_of_mem_write {n c} (mem : c ∈ write n) : IsDigit c := by
  fun_induction write n with
  | case1 n lt =>
    rw [List.mem_singleton.1 mem, IsDigit, toNat_digit lt]
    omega
  | case2 n ge ih =>
    rcases List.mem_append.1 mem with mem | mem
    · exact ih mem
    · rw [List.mem_singleton.1 mem, IsDigit, toNat_digit (Nat.mod_lt n (by decide))]
      omega

/-- A digit passes the test for digits. -/
lemma IsDigit.isDigit {c} (h : IsDigit c) : c.isDigit = true := by
  obtain ⟨lo, hi⟩ := h
  rw [Char.isDigit, Bool.and_eq_true, decide_eq_true_iff, decide_eq_true_iff]
  exact ⟨UInt32.le_iff_toNat_le.2 lo, UInt32.le_iff_toNat_le.2 hi⟩

/-- The text of a number is made of its digits. -/
lemma toList_text (n) : (text n).toList = write n := String.toList_ofList

/-- Each number has a digit. -/
lemma write_ne_nil (n) : write n ≠ [] := by
  rw [write]
  split
  · exact List.cons_ne_nil _ _
  · exact List.append_ne_nil_of_right_ne_nil _ (List.cons_ne_nil _ _)

/-- The value of what is written for a number is that number. -/
lemma value_write (n) : value (write n) = n := by
  fun_induction write n with
  | case1 n lt =>
    rw [value, List.foldl_cons, List.foldl_nil, toNat_digit lt]
    omega
  | case2 n ge ih =>
    rw [value] at ih
    rw [value, List.foldl_append, ih, List.foldl_cons, List.foldl_nil,
      toNat_digit (Nat.mod_lt n (by decide))]
    omega

/-- Different numbers have different texts. -/
lemma write_inj {m n} : write m = write n ↔ m = n := by
  constructor
  · intro same
    rw [← value_write m, same, value_write]
  · rintro rfl
    rfl

/-- Numbers are written as the library writes them. -/
lemma write_eq_repr (n) : write n = (Nat.repr n).toList := by
  rw [Nat.toList_repr]
  have digit : ∀ d < 10, Char.ofNat (48 + d) = d.digitChar := by decide
  fun_induction write n with
  | case1 n lt => rw [Nat.toDigits_of_lt_base lt, digit n lt]
  | case2 n ge ih =>
    rw [Nat.toDigits_of_base_le (by decide) (Nat.le_of_not_lt ge), ih,
      digit (n % 10) (Nat.mod_lt n (by decide))]

/-- The value of a digit can be read. -/
lemma digit?_digit {d} (lt : d < 10) : digit? (Char.ofNat (48 + d)) = some d := by
  revert d
  decide

/-- Reading goes on behind a text that was read. -/
lemma readFrom_append {limit n m cs} (ds) (h : readFrom limit n cs = .ok m) :
    readFrom limit n (cs ++ ds) = readFrom limit m ds := by
  fun_induction readFrom limit n cs with
  | case1 n =>
    cases h
    rfl
  | case2 n c cs none => cases h
  | case3 n c cs d some le ih =>
    rw [List.cons_append, readFrom, some]
    simp only [if_pos le, ih h]
  | case4 n c cs d some gt => cases h

/-- A number within the limit is read as it is written. -/
lemma readFrom_write {limit n} (le : n ≤ limit) : readFrom limit 0 (write n) = .ok n := by
  fun_induction write n with
  | case1 n lt =>
    rw [readFrom, digit?_digit lt]
    simp only [Nat.zero_mul, Nat.zero_add, if_pos le, readFrom]
  | case2 n ge ih =>
    have whole : n / 10 * 10 + n % 10 = n := Nat.div_add_mod' n 10
    rw [readFrom_append _ (ih (by omega)), readFrom, digit?_digit (Nat.mod_lt n (by decide))]
    simp only [whole, if_pos le, readFrom]

/-- A number within the limit is read back from its text. -/
lemma read_write {limit n} (le : n ≤ limit) : read limit (write n) = .ok n := by
  have digits : ∀ c ∈ write n, IsDigit c := fun c => digit_of_mem_write
  rw [← readFrom_write le]
  cases h : write n with
  | nil => exact absurd h (write_ne_nil n)
  | cons c cs =>
    have ne : c ≠ '+' := by
      rintro rfl
      rw [h] at digits
      exact absurd (digits '+' List.mem_cons_self).1 (by decide)
    have plain : ∀ ds, c :: cs ≠ '+' :: ds := fun ds e => ne (List.cons.inj e).1
    rw [read]
    · exact List.cons_ne_nil c cs
    · exact plain []
    · exact plain

end SeedVault.Text.Decimal
